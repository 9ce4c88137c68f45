import TemplateAudit.Proofs.Yaml.Typing

/-!
# Texts of scalars

What the writer gives for a scalar is read as the text that it stands for: without quotes up to a
colon or to a line that is not indented deeply enough, inside quotes up to the closing one. Both are
read word by word, since spaces are gaps that only count when another word follows.
-/

namespace TemplateAudit.Yaml

set_option autoImplicit false

open LineIndex (Digit)

/-! ## Positions -/

theorem isGap_space : isGap ' ' = true := rfl

namespace Input

variable {cs rest : List Char} {index line column : Nat}

theorem skip_cons {c : Char} (h : c ≠ '\n') (rest : List Char) (index line column : Nat) :
    skip ⟨c :: rest, index, line, column⟩ = ⟨rest, index + 1, line, column + 1⟩ :=
  if_neg h

theorem drop_append (h : '\n' ∉ cs) (rest : List Char) (index line column : Nat) :
    drop cs.length ⟨cs ++ rest, index, line, column⟩ =
      ⟨rest, index + cs.length, line, column + cs.length⟩ := by
  induction cs generalizing index column with
  | nil => rfl
  | cons c cs ih =>
    rw [List.mem_cons, not_or] at h
    rw [List.length_cons, List.cons_append, drop, skip_cons (Ne.symm h.1), ih h.2]
    congr 1 <;> omega

theorem not_atDocumentMark {i : Input}
    (h : i.column ≠ 0 ∨ i.peek ≠ '-' ∧ i.peek ≠ '.') : i.atDocumentMark = false := by
  rcases h with hcolumn | ⟨hdash, hpoint⟩
  · simp [atDocumentMark, atTriple, hcolumn]
  · simp [atDocumentMark, atTriple, hdash, hpoint]

end Input

/-- The first word of a text, the spaces behind it and what follows them. -/
theorem exists_word (cs : List Char) :
    ∃ word count next, cs = word ++ (List.replicate count ' ' ++ next) ∧ (∀ c ∈ word, c ≠ ' ') ∧
      (∀ c ∈ next.head?, c ≠ ' ') ∧ (count = 0 → next = []) := by
  have hnot := List.head?_dropWhile_not (· ≠ ' ') cs
  have hsplit := List.takeWhile_append_dropWhile (p := (· ≠ ' ')) (l := cs)
  generalize cs.dropWhile (· ≠ ' ') = rest at hnot hsplit
  have hspaces : ∀ c ∈ rest.takeWhile (· = ' '), c = ' ' := by
    intro c hc
    simpa using List.mem_takeWhile_imp hc
  refine ⟨cs.takeWhile (· ≠ ' '), (rest.takeWhile (· = ' ')).length, rest.dropWhile (· = ' '), ?_,
    ?_, ?_, ?_⟩
  · rw [← List.eq_replicate_of_mem hspaces, List.takeWhile_append_dropWhile, hsplit]
  · intro c hc
    simpa using List.mem_takeWhile_imp hc
  · intro c hc
    have hnext := List.head?_dropWhile_not (· = ' ') rest
    rw [hc] at hnext
    simpa using hnext
  · intro hcount
    cases rest with
    | nil => rfl
    | cons c rest =>
      have hc : c = ' ' := by simpa using hnot
      simp [hc] at hcount

/-- A text that does not start with a gap or a comment. -/
def Solid (rest : List Char) : Prop :=
  ∀ c ∈ rest.head?, isGap c = false ∧ c ≠ '#'

namespace Gap
variable {more : List Char}

theorem extend?_solid (h : ∀ c ∈ more.head?, isGap c = false) (leastColumn fuel : Nat) (g : Gap)
    (index line column : Nat) :
    g.extend? leastColumn fuel ⟨more, index, line, column⟩ =
      some (g, ⟨more, index, line, column⟩) := by
  cases fuel with
  | zero => rfl
  | succ fuel =>
    have hpeek : isSpace (Input.peek ⟨more, index, line, column⟩) = false ∧
        isBreak (Input.peek ⟨more, index, line, column⟩) = false := by
      cases more with
      | nil => exact ⟨rfl, rfl⟩
      | cons c more =>
        have hgap := h c rfl
        simp only [isGap, isBreakOrEnd, Bool.or_eq_false_iff] at hgap
        exact ⟨hgap.1, hgap.2.1⟩
    rw [extend?, hpeek.1, hpeek.2]
    rfl

theorem extend?_indent (h : ∀ c ∈ more.head?, isGap c = false) (leastColumn : Nat) {g : Gap}
    (hbroken : g.broken = true) (count fuel index line column : Nat) :
    g.extend? leastColumn (count + fuel)
        ⟨List.replicate count ' ' ++ more, index, line, column⟩ =
      some (g, ⟨more, index + count, line, column + count⟩) := by
  induction count generalizing index column with
  | zero => simpa using extend?_solid h leastColumn fuel g index line column
  | succ count ih =>
    have hstep : g.extend? leastColumn (count + 1 + fuel)
        ⟨List.replicate (count + 1) ' ' ++ more, index, line, column⟩ =
        g.extend? leastColumn (count + fuel)
          ⟨List.replicate count ' ' ++ more, index + 1, line, column + 1⟩ := by
      rw [Nat.add_right_comm, List.replicate_succ, List.cons_append, extend?]
      simp [Input.peek, Input.peekAt, isSpace, hbroken, Input.skip_cons]
    rw [hstep, ih]
    congr 3 <;> omega

theorem extend?_spaces (h : ∀ c ∈ more.head?, isGap c = false) (leastColumn : Nat) {g : Gap}
    (hbroken : g.broken = false) (count fuel index line column : Nat) :
    g.extend? leastColumn (count + fuel)
        ⟨List.replicate count ' ' ++ more, index, line, column⟩ =
      some ({ g with spaces := g.spaces ++ List.replicate count ' ' },
        ⟨more, index + count, line, column + count⟩) := by
  induction count generalizing g index column with
  | zero => simpa using extend?_solid h leastColumn fuel g index line column
  | succ count ih =>
    have hstep : g.extend? leastColumn (count + 1 + fuel)
        ⟨List.replicate (count + 1) ' ' ++ more, index, line, column⟩ =
        Gap.extend? leastColumn (count + fuel) { g with spaces := g.spaces ++ [' '] }
          ⟨List.replicate count ' ' ++ more, index + 1, line, column + 1⟩ := by
      rw [Nat.add_right_comm, List.replicate_succ, List.cons_append, extend?]
      simp [Input.peek, Input.peekAt, isSpace, hbroken, Input.skip_cons]
    rw [hstep, ih (by exact hbroken), List.append_assoc, List.singleton_append,
      ← List.replicate_succ]
    congr 3 <;> omega

end Gap

/-! ## Scalars without quotes -/

def IsPlainChar (c : Char) : Prop :=
  isGap c = false ∧ c ≠ ':' ∧ c ≠ '#'

instance (c : Char) : Decidable (IsPlainChar c) :=
  inferInstanceAs (Decidable (_ ∧ _))

theorem IsPlainChar.ne_newline {c : Char} (h : IsPlainChar c) : c ≠ '\n' := by
  rintro rfl
  exact absurd h.1 (by decide)

/-- Where a scalar without quotes ends under a margin: at the colon after a key, or behind a line
break when the next line starts left of the margin. The input after it, and whether a line ended. -/
inductive Stops (margin : Nat) : Input → Bool → Input → Prop where
  | colon {gap : Char} {more : List Char} {index line column : Nat} : isGap gap = true →
      Stops margin ⟨':' :: gap :: more, index, line, column⟩ false
        ⟨':' :: gap :: more, index, line, column⟩
  | line {more : List Char} {indent index line column : Nat} : indent < margin →
      (∀ c ∈ more.head?, isGap c = false) →
      Stops margin ⟨'\n' :: (List.replicate indent ' ' ++ more), index, line, column⟩ true
        ⟨more, index + 1 + indent, line + 1, indent⟩

theorem plainWord_append {word : List Char} (h : ∀ c ∈ word, IsPlainChar c) (rest : List Char) :
    plainWord false (word ++ rest) = word ++ plainWord false rest := by
  induction word with
  | nil => rfl
  | cons c word ih =>
    obtain ⟨hc, hword⟩ := List.forall_mem_cons.mp h
    rw [List.cons_append, plainWord, ih hword]
    simp [hc.1, hc.2.1]

theorem Stops.plainWord {margin : Nat} {i after : Input} {broken : Bool}
    (h : Stops margin i broken after) : plainWord false i.rest = [] := by
  cases h with
  | colon hgap => simp [Yaml.plainWord, hgap]
  | line => rfl

structure PlainText (cs : List Char) : Prop where
  ne : cs ≠ []
  chars : ∀ c ∈ cs, c = ' ' ∨ IsPlainChar c
  head : ∀ c ∈ cs.head?, c ≠ ' '
  last : ∀ c ∈ cs.getLast?, c ≠ ' '

/-- A text is one word, or a word, spaces and another text. -/
theorem PlainText.split {cs : List Char} (h : PlainText cs) :
    (∀ c ∈ cs, IsPlainChar c) ∨
      ∃ word count next, cs = word ++ (List.replicate (count + 1) ' ' ++ next) ∧ word ≠ [] ∧
        (∀ c ∈ word, IsPlainChar c) ∧ PlainText next := by
  obtain ⟨word, count, next, hcs, hword, hnext, hlone⟩ := exists_word cs
  have hplain : ∀ c ∈ word, IsPlainChar c := fun c hc =>
    (h.chars c (by simp [hcs, hc])).resolve_left (hword c hc)
  cases count with
  | zero =>
    left
    simpa [hcs, hlone rfl] using hplain
  | succ count =>
    subst hcs
    right
    refine ⟨word, count, next, rfl, ?_, hplain, ?_, fun c hc => h.chars c (by simp [hc]), hnext, ?_⟩
    · rintro rfl
      exact h.head ' ' rfl rfl
    · rintro rfl
      refine h.last ' ' ?_ rfl
      rw [List.append_nil, List.replicate_succ', ← List.append_assoc, List.getLast?_concat]
      rfl
    · intro c hc
      refine h.last c ?_
      rw [List.getLast?_append, List.getLast?_append, Option.mem_def.mp hc]
      rfl

theorem plainText?_word {word : List Char} (hne : word ≠ []) (hword : ∀ c ∈ word, IsPlainChar c)
    {rest : List Char} (hrest : plainWord false rest = []) {margin : Nat}
    {index line column : Nat}
    (hmark : Input.atDocumentMark ⟨word ++ rest, index, line, column⟩ = false)
    (fuel : Nat) (text : List Char) (gap : Gap) :
    plainText? false margin (fuel + 1) text gap ⟨word ++ rest, index, line, column⟩ =
      let i : Input := ⟨rest, index + word.length, line, column + word.length⟩
      if isSpace i.peek || isBreak i.peek then
        (Gap.extend? margin i.rest.length {} i).bind fun (wider, next) =>
          if next.column < margin then some (text ++ gap.text ++ word, wider.broken, next)
          else plainText? false margin fuel (text ++ gap.text ++ word) wider next
      else some (text ++ gap.text ++ word, false, i) := by
  obtain ⟨c, tail, rfl⟩ := List.exists_cons_of_ne_nil hne
  have hhash : c ≠ '#' := (hword c List.mem_cons_self).2.2
  have hnewline : '\n' ∉ c :: tail := fun hmem => (hword _ hmem).ne_newline rfl
  have hpeek : Input.peek ⟨c :: tail ++ rest, index, line, column⟩ = c := rfl
  rw [plainText?, hmark, hpeek]
  simp only [plainWord_append hword, hrest, List.append_nil, Input.drop_append hnewline,
    decide_eq_false hhash, Bool.or_self, Bool.false_eq_true, if_false, List.isEmpty_cons,
    Bool.not_false, Bool.true_and, decide_eq_true_eq]
  cases Gap.extend? margin rest.length {} ⟨rest, index + (c :: tail).length, line,
    column + (c :: tail).length⟩ <;> rfl

theorem plainText?_last {word : List Char} (hne : word ≠ []) (hword : ∀ c ∈ word, IsPlainChar c)
    {rest : List Char} {margin index line column : Nat} {broken : Bool} {after : Input}
    (hmark : Input.atDocumentMark ⟨word ++ rest, index, line, column⟩ = false)
    (hstops : Stops margin ⟨rest, index + word.length, line, column + word.length⟩ broken after)
    (fuel : Nat) (text : List Char) (gap : Gap) :
    plainText? false margin (fuel + 1) text gap ⟨word ++ rest, index, line, column⟩ =
      some (text ++ gap.text ++ word, broken, after) := by
  rw [plainText?_word hne hword hstops.plainWord hmark]
  generalize index + word.length = index at hstops ⊢
  generalize column + word.length = column at hstops ⊢
  cases hstops with
  | colon => rfl
  | @line more indent _ _ _ hindent hmore =>
    have hextend : Gap.extend? margin ('\n' :: (List.replicate indent ' ' ++ more)).length {}
        ⟨'\n' :: (List.replicate indent ' ' ++ more), index, line, column⟩ =
        some ({ broken := true, folded := true },
          ⟨more, index + 1 + indent, line + 1, indent⟩) := by
      rw [List.length_cons, List.length_append, List.length_replicate]
      have hline := Gap.extend?_indent hmore margin (g := { broken := true, folded := true }) rfl
        indent more.length (index + 1) (line + 1) 0
      rw [Nat.zero_add] at hline
      exact hline
    simp only [hextend, Option.bind_some, if_pos hindent]
    rfl

theorem plainText?_text {cs rest : List Char} {margin index line column : Nat} {broken : Bool}
    {after : Input} (hcs : PlainText cs) (hcolumn : margin ≤ column + 1)
    (hmark : Input.atDocumentMark ⟨cs ++ rest, index, line, column⟩ = false)
    (hstops : Stops margin ⟨rest, index + cs.length, line, column + cs.length⟩ broken after)
    {fuel : Nat} (hfuel : cs.length ≤ fuel) (text : List Char) (gap : Gap) :
    plainText? false margin fuel text gap ⟨cs ++ rest, index, line, column⟩ =
      some (text ++ gap.text ++ cs, broken, after) := by
  -- One word at a time, so the induction is on the length; the spaces behind a word are the gap
  -- that the next one starts with.
  induction hn : cs.length using Nat.strong_induction_on
    generalizing cs index column fuel text gap with
  | _ n ih =>
    subst hn
    have hpos := List.length_pos_iff.mpr hcs.ne
    obtain ⟨fuel, rfl⟩ : ∃ k, fuel = k + 1 := ⟨fuel - 1, by omega⟩
    rcases hcs.split with hword | ⟨word, count, next, rfl, hne, hword, hnext⟩
    · exact plainText?_last hcs.ne hword hmark hstops fuel text gap
    · have hfirst := List.length_pos_iff.mpr hne
      simp only [List.length_append, List.length_replicate] at hfuel hstops ih
      have hgaps : ∀ c ∈ (next ++ rest).head?, isGap c = false := by
        intro c hc
        obtain ⟨d, tail, rfl⟩ := List.exists_cons_of_ne_nil hnext.ne
        obtain rfl : d = c := by simpa using hc
        exact ((hnext.chars d List.mem_cons_self).resolve_left (hnext.head d rfl)).1
      have hextend : Gap.extend? margin (List.replicate (count + 1) ' ' ++ (next ++ rest)).length {}
          ⟨List.replicate (count + 1) ' ' ++ (next ++ rest), index + word.length, line,
            column + word.length⟩ = some ({ spaces := List.replicate (count + 1) ' ' },
          ⟨next ++ rest, index + word.length + (count + 1), line,
            column + word.length + (count + 1)⟩) := by
        rw [List.length_append, List.length_replicate]
        exact Gap.extend?_spaces hgaps margin (g := {}) rfl (count + 1) _ _ _ _
      have hspace : isSpace (Input.peek ⟨List.replicate (count + 1) ' ' ++ (next ++ rest),
          index + word.length, line, column + word.length⟩) = true := rfl
      have hnot : ¬ column + word.length + (count + 1) < margin := by omega
      have hlater : Input.atDocumentMark ⟨next ++ rest, index + word.length + (count + 1), line,
          column + word.length + (count + 1)⟩ = false :=
        Input.not_atDocumentMark (.inl (Nat.succ_ne_zero _))
      have hread := ih next.length (by omega) hnext (Nat.le_succ_of_le (Nat.le_of_not_lt hnot))
        hlater (by simpa [Nat.add_assoc] using hstops) (by omega : next.length ≤ fuel)
        (text ++ gap.text ++ word) { spaces := List.replicate (count + 1) ' ' } rfl
      rw [List.append_assoc, List.append_assoc] at hmark ⊢
      rw [plainText?_word hne hword rfl hmark]
      simp only [hspace, hextend, Option.bind_some, if_neg hnot, Bool.true_or, if_true, hread]
      simp [Gap.text]

/-! ## Scalars in quotes -/

/-- Inside quotes a text is read as a character. -/
def Spells (text : List Char) (c : Char) : Prop :=
  ∀ (fuel : Nat) (word rest : List Char) (index line column : Nat),
    quotedWord? false (fuel + 1) word ⟨text ++ rest, index, line, column⟩ =
      quotedWord? false fuel (c :: word) ⟨rest, index + text.length, line, column + text.length⟩

theorem spells_self {c : Char} (hgap : isGap c = false) (hquote : c ≠ '"') (hescape : c ≠ '\\') :
    Spells [c] c := by
  intro fuel word rest index line column
  have hnewline : c ≠ '\n' := by
    rintro rfl
    cases hgap
  have hpeek : Input.peek ⟨c :: rest, index, line, column⟩ = c := rfl
  have hskip := Input.skip_cons hnewline rest index line column
  rw [List.singleton_append, quotedWord?, hpeek, hskip]
  simp [hgap, hquote, hescape]

theorem spells_escape {letter : Char} {text : List Char} {c : Char} (hbreak : isBreak letter = false)
    (h : ∀ (rest : List Char) (index line column : Nat),
      escape? ⟨'\\' :: letter :: (text ++ rest), index, line, column⟩ =
        some (c, ⟨rest, index + (text.length + 2), line, column + (text.length + 2)⟩)) :
    Spells ('\\' :: letter :: text) c := by
  intro fuel word rest index line column
  have hpeek : Input.peek ⟨'\\' :: letter :: (text ++ rest), index, line, column⟩ = '\\' := rfl
  have hnext : Input.peekAt ⟨'\\' :: letter :: (text ++ rest), index, line, column⟩ 1 = letter := rfl
  rw [List.cons_append, List.cons_append, quotedWord?, hpeek, hnext, hbreak, h]
  rfl

theorem spells_letter {letter c : Char} (he : escaped? letter = some c)
    (hbreak : isBreak letter = false) : Spells ['\\', letter] c := by
  refine spells_escape hbreak fun rest index line column => ?_
  have hnewline : letter ≠ '\n' := by
    rintro rfl
    cases hbreak
  have hnext : Input.peekAt ⟨'\\' :: letter :: ([] ++ rest), index, line, column⟩ 1 = letter := rfl
  rw [escape?, hnext]
  simp only [he, List.nil_append]
  rw [Input.skip_cons (by decide), Input.skip_cons hnewline]
  rfl

/-- A character by four digits of which the first two are zero. -/
theorem spells_code {n : Nat} (hn : n < 256) :
    Spells ['\\', 'u', '0', '0', Json.hexChar (n / 16), Json.hexChar (n % 16)] (Char.ofNat n) := by
  refine spells_escape rfl fun rest index line column => ?_
  have hhigh := Json.hexDigit?_hexChar (show n / 16 < 16 by omega)
  have hlow := Json.hexDigit?_hexChar (Nat.mod_lt n (show 16 > 0 by omega))
  generalize Json.hexChar (n / 16) = high at hhigh ⊢
  generalize Json.hexChar (n % 16) = low at hlow ⊢
  have hnewline {d : Char} {k : Nat} (hd : Json.Written.hexDigit? d = some k) : '\n' ≠ d := by
    rintro rfl
    cases hd
  have hvalid : n.isValidChar := Or.inl (by omega)
  have hchar : hexChar? ['0', '0', high, low] 4 = some (Char.ofNat n) := by
    have hzero : Json.Written.hexDigit? '0' = some 0 := by decide
    simp only [hexChar?, List.length_cons, List.length_nil, if_true, List.mapM_cons, List.mapM_nil,
      hzero, hhigh, hlow]
    simp [charOfCode?, Nat.div_add_mod' n 16, hvalid]
  have hletter : escaped? 'u' = none := by decide
  have hlength : codeLength? 'u' = some 4 := rfl
  have hskip : Input.skip (Input.skip ⟨'\\' :: 'u' :: (['0', '0', high, low] ++ rest), index, line,
      column⟩) = ⟨['0', '0', high, low] ++ rest, index + 1 + 1, line, column + 1 + 1⟩ := by
    rw [Input.skip_cons (by decide), Input.skip_cons (by decide)]
  have hdrop := @Input.drop_append ['0', '0', high, low]
    (by simp [hnewline hhigh, hnewline hlow]) rest (index + 1 + 1) line (column + 1 + 1)
  have hnext : Input.peekAt ⟨'\\' :: 'u' :: (['0', '0', high, low] ++ rest), index, line,
      column⟩ 1 = 'u' := rfl
  have htake : (['0', '0', high, low] ++ rest).take 4 = ['0', '0', high, low] := rfl
  rw [escape?, hnext]
  simp only [hletter, hlength, hskip, htake, hchar]
  exact congrArg (fun after => some (Char.ofNat n, after)) hdrop

theorem not_isGap {c : Char} (hspace : c ≠ ' ') (hlarge : ¬ c.toNat < 32) : isGap c = false := by
  have hne {d : Char} (hd : d.toNat < 32) : c ≠ d := by
    rintro rfl
    exact hlarge hd
  simp [isGap, isSpace, isBreakOrEnd, isBreak, hspace, hne (d := '\t') (by decide),
    hne (d := '\n') (by decide), hne (d := '\r') (by decide), hne (d := endMark) (by decide)]

theorem spells_quotedChar {c : Char} (hspace : c ≠ ' ') : Spells (quotedChar c) c := by
  have hcode {n : Nat} (hn : c.toNat = n) (hsmall : n < 256) :
      Spells ['\\', 'u', '0', '0', Json.hexChar (n / 16), Json.hexChar (n % 16)] c := by
    have hspells := spells_code hsmall
    rwa [← hn, Char.ofNat_toNat, hn] at hspells
  have hnamed (letter : Char) {n : Nat} (hn : c.toNat = n)
      (he : escaped? letter = some (Char.ofNat n)) (hbreak : isBreak letter = false) :
      Spells ['\\', letter] c := by
    rw [← hn, Char.ofNat_toNat] at he
    exact spells_letter he hbreak
  by_cases hdelete : c.toNat = 127
  · have hchars : ['\\', 'u', '0', '0', Json.hexChar (127 / 16), Json.hexChar (127 % 16)] =
        ['\\', 'u', '0', '0', '7', 'f'] := by decide
    rw [quotedChar, if_pos hdelete, ← hchars]
    exact hcode hdelete (by omega)
  rw [quotedChar, if_neg hdelete, Json.escapeChar]
  by_cases hquote : c = '"'
  · rw [if_pos hquote, hquote]
    exact spells_letter (by decide) (by decide)
  rw [if_neg hquote]
  by_cases hback : c = '\\'
  · rw [if_pos hback, hback]
    exact spells_letter (by decide) (by decide)
  rw [if_neg hback]
  by_cases hb : c.toNat = 8
  · rw [if_pos hb]
    exact hnamed 'b' hb (by decide) (by decide)
  rw [if_neg hb]
  by_cases ht : c.toNat = 9
  · rw [if_pos ht]
    exact hnamed 't' ht (by decide) (by decide)
  rw [if_neg ht]
  by_cases hn : c.toNat = 10
  · rw [if_pos hn]
    exact hnamed 'n' hn (by decide) (by decide)
  rw [if_neg hn]
  by_cases hf : c.toNat = 12
  · rw [if_pos hf]
    exact hnamed 'f' hf (by decide) (by decide)
  rw [if_neg hf]
  by_cases hr : c.toNat = 13
  · rw [if_pos hr]
    exact hnamed 'r' hr (by decide) (by decide)
  rw [if_neg hr]
  by_cases hsmall : c.toNat < 32
  · rw [if_pos hsmall]
    exact hcode rfl (by omega)
  · rw [if_neg hsmall]
    exact spells_self (not_isGap hspace hsmall) hquote hback

variable {rest : List Char} {index line column : Nat}

/-- The characters up to a space or the closing quote. -/
theorem quotedWord?_word {cs : List Char} (hcs : ∀ c ∈ cs, c ≠ ' ')
    (hrest : ∀ c ∈ rest.head?, c = ' ' ∨ c = '"') (hne : rest ≠ []) {fuel : Nat}
    (hfuel : cs.length < fuel) (word : List Char) :
    quotedWord? false fuel word ⟨cs.flatMap quotedChar ++ rest, index, line, column⟩ =
      some (word.reverse ++ cs, false, ⟨rest, index + (cs.flatMap quotedChar).length, line,
        column + (cs.flatMap quotedChar).length⟩) := by
  induction cs generalizing fuel word index column with
  | nil =>
    obtain ⟨fuel, rfl⟩ : ∃ k, fuel = k + 1 := ⟨fuel - 1, by simp at hfuel; omega⟩
    obtain ⟨c, rest, rfl⟩ := List.exists_cons_of_ne_nil hne
    rcases hrest c rfl with rfl | rfl <;>
      simp [quotedWord?, Input.peek, Input.peekAt, isGap, isSpace, isBreakOrEnd, isBreak, endMark]
  | cons c cs ih =>
    obtain ⟨fuel, rfl⟩ : ∃ k, fuel = k + 1 := ⟨fuel - 1, by omega⟩
    obtain ⟨hc, hcs⟩ := List.forall_mem_cons.mp hcs
    rw [List.flatMap_cons, List.append_assoc, spells_quotedChar hc,
      ih hcs (by simpa using hfuel)]
    simp [Nat.add_assoc]

theorem quotedChar_space : quotedChar ' ' = [' '] := by decide

theorem flatMap_quotedChar_spaces (count : Nat) :
    (List.replicate count ' ').flatMap quotedChar = List.replicate count ' ' := by
  induction count with
  | zero => rfl
  | succ count ih =>
    rw [List.replicate_succ, List.flatMap_cons, ih, quotedChar_space]
    rfl

/-- What stands for a character in quotes starts with a backslash, or it is the character. -/
def EscapedOrPlain (c : Char) (cs : List Char) : Prop :=
  (∃ rest, cs = '\\' :: rest) ∨ cs = [c] ∧ ¬ c.toNat < 32

theorem EscapedOrPlain.ite {c : Char} {p : Prop} [Decidable p] {rest other : List Char}
    (h : ¬ p → EscapedOrPlain c other) : EscapedOrPlain c (if p then '\\' :: rest else other) := by
  by_cases hp : p
  · rw [if_pos hp]
    exact .inl ⟨rest, rfl⟩
  · rw [if_neg hp]
    exact h hp

theorem escapedOrPlain_quotedChar (c : Char) : EscapedOrPlain c (quotedChar c) := by
  have hescape : EscapedOrPlain c (Json.escapeChar c) :=
    .ite fun _ => .ite fun _ => .ite fun _ => .ite fun _ => .ite fun _ => .ite fun _ =>
      .ite fun _ => .ite fun hlarge => .inr ⟨rfl, hlarge⟩
  exact .ite fun _ => hescape

/-- What stands for a character in quotes starts with something, and with no gap unless the character
is a space. -/
theorem exists_quotedChar (c : Char) :
    ∃ first rest, quotedChar c = first :: rest ∧ first ≠ endMark ∧
      (c ≠ ' ' → isGap first = false) := by
  rcases escapedOrPlain_quotedChar c with ⟨rest, hrest⟩ | ⟨hplain, hlarge⟩
  · exact ⟨'\\', rest, hrest, by decide, fun _ => by decide⟩
  · refine ⟨c, [], hplain, ?_, fun hspace => not_isGap hspace hlarge⟩
    rintro rfl
    exact hlarge (by decide)

theorem length_le_flatMap_quotedChar (cs : List Char) :
    cs.length ≤ (cs.flatMap quotedChar).length := by
  induction cs with
  | nil => simp
  | cons c cs ih =>
    obtain ⟨first, rest, hfirst, -⟩ := exists_quotedChar c
    rw [List.flatMap_cons, hfirst, List.length_append, List.length_cons, List.length_cons]
    omega

theorem not_atEnd_flatMap (cs : List Char) :
    Input.atEnd ⟨cs.flatMap quotedChar ++ '"' :: rest, index, line, column⟩ = false := by
  cases cs with
  | nil => rfl
  | cons c cs =>
    obtain ⟨first, after, hfirst, hne, -⟩ := exists_quotedChar c
    rw [List.flatMap_cons, hfirst]
    simpa [Input.atEnd, Input.peek, Input.peekAt] using hne

theorem quotedText?_text {cs : List Char} (hcolumn : 0 < column) {fuel : Nat}
    (hfuel : cs.length < fuel) (text : List Char) :
    quotedText? false fuel text ⟨cs.flatMap quotedChar ++ '"' :: rest, index, line, column⟩ =
      some (text ++ cs, ⟨rest, index + (cs.flatMap quotedChar).length + 1, line,
        column + (cs.flatMap quotedChar).length + 1⟩) := by
  induction hn : cs.length using Nat.strong_induction_on generalizing cs fuel text index column with
  | _ n ih =>
    subst hn
    obtain ⟨fuel, rfl⟩ : ∃ k, fuel = k + 1 := ⟨fuel - 1, by omega⟩
    have hmark : Input.atDocumentMark
        ⟨cs.flatMap quotedChar ++ '"' :: rest, index, line, column⟩ = false :=
      Input.not_atDocumentMark (.inl hcolumn.ne')
    rw [quotedText?, hmark, not_atEnd_flatMap]
    obtain ⟨word, count, next, hcs, hword, hnext, hlone⟩ := exists_word cs
    have hlonger := length_le_flatMap_quotedChar word
    cases count with
    | zero =>
      obtain rfl : cs = word := by simpa [hlone rfl] using hcs
      rw [quotedWord?_word hword (by simp) (List.cons_ne_nil _ _)
        (by rw [List.length_append]; omega)]
      rfl
    | succ count =>
      subst hcs
      have htext : (word ++ (List.replicate (count + 1) ' ' ++ next)).flatMap quotedChar ++
          '"' :: rest = word.flatMap quotedChar ++ (List.replicate (count + 1) ' ' ++
            (next.flatMap quotedChar ++ '"' :: rest)) := by
        simp [List.flatMap_append, flatMap_quotedChar_spaces]
      have hgaps : ∀ c ∈ (next.flatMap quotedChar ++ '"' :: rest).head?, isGap c = false := by
        intro c hc
        cases next with
        | nil =>
          obtain rfl : '"' = c := by simpa using hc
          decide
        | cons d next =>
          obtain ⟨first, after, hfirst, -, hgap⟩ := exists_quotedChar d
          rw [List.flatMap_cons, hfirst] at hc
          obtain rfl : first = c := by simpa using hc
          exact hgap (hnext d rfl)
      rw [htext, quotedWord?_word hword (by simp [List.replicate_succ]) (by simp)
        (by rw [List.length_append]; omega)]
      have hextend : Gap.extend? 0 (List.replicate (count + 1) ' ' ++
          (next.flatMap quotedChar ++ '"' :: rest)).length { broken := false }
          ⟨List.replicate (count + 1) ' ' ++ (next.flatMap quotedChar ++ '"' :: rest),
            index + (word.flatMap quotedChar).length, line,
            column + (word.flatMap quotedChar).length⟩ =
          some ({ spaces := List.replicate (count + 1) ' ' },
            ⟨next.flatMap quotedChar ++ '"' :: rest,
              index + (word.flatMap quotedChar).length + (count + 1), line,
              column + (word.flatMap quotedChar).length + (count + 1)⟩) := by
        rw [List.length_append, List.length_replicate]
        exact Gap.extend?_spaces hgaps 0 (g := {}) rfl (count + 1) _ _ _ _
      have hpeek : Input.peek ⟨List.replicate (count + 1) ' ' ++
          (next.flatMap quotedChar ++ '"' :: rest), index + (word.flatMap quotedChar).length, line,
          column + (word.flatMap quotedChar).length⟩ ≠ '"' := by
        show ' ' ≠ '"'
        decide
      simp only [List.length_append, List.length_replicate] at hfuel ih
      have hread := @ih next.length (by omega)
        (index + (word.flatMap quotedChar).length + (count + 1))
        (column + (word.flatMap quotedChar).length + (count + 1)) next (by omega) fuel (by omega)
        (text ++ word ++ List.replicate (count + 1) ' ') rfl
      simp only [Bool.or_self, Bool.false_eq_true, if_false, hextend, List.reverse_nil,
        List.nil_append]
      rw [if_neg hpeek]
      simp only [Gap.text, Bool.false_eq_true, if_false, hread]
      simp [List.flatMap_append, flatMap_quotedChar_spaces, Nat.add_assoc]

/-! ## What the writer leaves without quotes -/

/-- A text of which the reader sees that it is a scalar without quotes. -/
structure PlainScalar (cs : List Char) : Prop extends PlainText cs where
  opens : ∀ c ∈ cs.head?, c ∉ "[]\x7b\x7d,?*&!|>'\"%@".toList ∧ c.toNat ≠ 96
  dash : ∀ rest, cs = '-' :: rest → ∃ c ∈ rest.head?, isGap c = false

theorem isPlainChar_of_not_isMark {c : Char} (hspace : c ≠ ' ') (hmark : isMark c = false) :
    IsPlainChar c := by
  have hne {d : Char} (hd : isMark d = true) : c ≠ d := by
    rintro rfl
    rw [hmark] at hd
    cases hd
  refine ⟨?_, hne (by decide), hne (by decide)⟩
  have htab : c ≠ '\t' := hne (by decide)
  have hnewline : c ≠ '\n' := hne (by decide)
  have hreturn : c ≠ '\r' := hne (by decide)
  have hend : c ≠ endMark := hne (by decide)
  simp [isGap, isSpace, isBreakOrEnd, isBreak, hspace, htab, hnewline, hreturn, hend]

theorem Unquoted.plainScalar {s : String} (h : Unquoted s) : PlainScalar s.toList := by
  refine { ne := h.ne, chars := fun c hc => ?_, head := fun c hc => (h.head c hc).1,
           last := h.last, opens := fun c hc => ?_, dash := fun rest hrest => ?_ }
  · by_cases hspace : c = ' '
    · exact .inl hspace
    · exact .inr (isPlainChar_of_not_isMark hspace (h.marks c hc))
  · have hleading := (h.head c hc).2
    have hmark := h.marks c (List.mem_of_mem_head? hc)
    refine ⟨fun hmem => ?_, fun hcode => ?_⟩
    · have hopens : ∀ d ∈ "[]\x7b\x7d,?*&!|>'\"%@".toList, isLeadingMark d = true ∨ isMark d = true :=
        List.all_iff_forall_prop.mp (by decide)
      rcases hopens c hmem with hd | hd
      · rw [hleading] at hd
        cases hd
      · rw [hmark] at hd
        cases hd
    · simp [isMark, hcode] at hmark
  · have hleading := (h.head '-' (by rw [hrest]; rfl)).2
    exact absurd hleading (by decide)

def Unmarked (c : Char) : Prop :=
  IsPlainChar c ∧ c ∉ "[]\x7b\x7d,?*&!|>'\"%@".toList ∧ c.toNat ≠ 96

instance (c : Char) : Decidable (Unmarked c) :=
  inferInstanceAs (Decidable (_ ∧ _))

theorem unmarked_of_numeric {c : Char} (h : Decimal.Numeric c) : Unmarked c := by
  rcases h with hdigit | hmem
  · have hunmarked := not_isMark_of_digit? (show 10 ≤ 16 by decide) (Decimal.digit?_of_digit hdigit)
    have hopens : ∀ d ∈ "[]\x7b\x7d,?*&!|>'\"%@".toList, ¬ Digit d :=
      List.all_iff_forall_prop.mp (by decide)
    refine ⟨isPlainChar_of_not_isMark hunmarked.1 hunmarked.2, fun hmem => hopens c hmem hdigit, ?_⟩
    have hbound : c.toNat ≤ 57 := hdigit.2
    omega
  · have hmarks : ∀ d ∈ ['-', '+', '.', 'e', 'E'], isMark d = false ∧ d ≠ ' ' ∧
        d ∉ "[]\x7b\x7d,?*&!|>'\"%@".toList ∧ d.toNat ≠ 96 :=
      List.all_iff_forall_prop.mp (by decide)
    obtain ⟨hmark, hspace, hopens⟩ := hmarks c hmem
    exact ⟨isPlainChar_of_not_isMark hspace hmark, hopens⟩

theorem plainScalar_of_unmarked {cs : List Char} (hne : cs ≠ []) (hcs : ∀ c ∈ cs, Unmarked c)
    (hdash : cs ≠ ['-']) : PlainScalar cs := by
  have hspace : ∀ c ∈ cs, c ≠ ' ' := by
    rintro c hc rfl
    exact absurd (hcs ' ' hc).1.1 (by decide)
  refine { ne := hne, chars := fun c hc => .inr (hcs c hc).1,
           head := fun c hc => hspace c (List.mem_of_mem_head? hc),
           last := fun c hc => hspace c (List.mem_of_mem_getLast? hc),
           opens := fun c hc => (hcs c (List.mem_of_mem_head? hc)).2,
           dash := fun rest hrest => ?_ }
  obtain ⟨c, after, rfl⟩ := List.exists_cons_of_ne_nil fun hnil : rest = [] => hdash (hnil ▸ hrest)
  exact ⟨c, rfl, (hcs c (by simp [hrest])).1.1⟩

theorem plainScalar_of_all {cs : List Char} (hne : cs ≠ [])
    (hcs : (cs.all fun c => decide (Unmarked c)) = true) (hdash : cs ≠ ['-']) : PlainScalar cs :=
  plainScalar_of_unmarked hne (List.all_iff_forall_prop.mp hcs) hdash

/-- Digits with an optional minus and what may follow them in a number. -/
theorem plainScalar_of_numeric (negative : Bool) {cs : List Char} (hcs : ∀ c ∈ cs, Decimal.Numeric c)
    (hhead : ∃ c ∈ cs.head?, Digit c) :
    PlainScalar ((if negative then ['-'] else []) ++ cs) := by
  obtain ⟨c, hc, hdigit⟩ := hhead
  obtain ⟨rest, rfl⟩ := List.head?_eq_some_iff.mp hc
  refine plainScalar_of_unmarked (by simp) (fun d hd => unmarked_of_numeric ?_) fun heq => ?_
  · rcases List.mem_append.mp hd with hd | hd
    · split at hd
      · obtain rfl := List.mem_singleton.mp hd
        exact .inr (by decide)
      · cases hd
    · exact hcs d hd
  · cases negative with
    | true => simp at heq
    | false =>
      obtain rfl : c = '-' := by simpa using congrArg List.head? heq
      exact absurd hdigit (by decide)

theorem plainScalar_int (n : Int) : PlainScalar (toString n).toList := by
  rw [toList_int, List.append_nil]
  have hdigits := Decimal.toDigits_digits n.natAbs
  obtain ⟨c, cs, hcs⟩ := List.exists_cons_of_ne_nil (Nat.toDigits_ne_nil (n := n.natAbs) (b := 10))
  refine plainScalar_of_numeric _ (fun d hd => .inl (hdigits d hd)) ⟨c, by rw [hcs]; rfl, ?_⟩
  exact hdigits c (by rw [hcs]; exact List.mem_cons_self)

theorem plainScalar_double (x : Decimal.Double) : PlainScalar (doubleChars x) := by
  cases x with
  | notANumber => exact plainScalar_of_all (by decide) (by decide) (by decide)
  | infinite negative =>
    cases negative <;> exact plainScalar_of_all (by decide) (by decide) (by decide)
  | finite x =>
    rw [doubleChars, Decimal.toList_finite]
    obtain ⟨d, hwrites, -⟩ := Decimal.exists_writes .yaml x.magnitude
    obtain ⟨c, rest, hcons, hc⟩ := hwrites.head
    exact plainScalar_of_numeric _ hwrites.numeric ⟨c, by rw [hcons]; rfl, hc⟩

inductive ScalarText : Bool → String → List Char → Prop where
  | plain {s : String} : PlainScalar s.toList → ScalarText true s s.toList
  | quoted (s : String) : ScalarText false s ('"' :: (s.toList.flatMap quotedChar ++ ['"']))

theorem scalarText_string (s : String) : ScalarText (!needsQuotes s) s (stringChars s) := by
  rw [stringChars]
  cases hquotes : needsQuotes s with
  | true => exact .quoted s
  | false => exact .plain ((needsQuotes_eq_false_iff s).mp hquotes).plainScalar

theorem scalarText_plain {cs : List Char} (h : PlainScalar cs) :
    ScalarText true (String.ofList cs) cs := by
  have htext := @ScalarText.plain (String.ofList cs)
  rw [String.toList_ofList] at htext
  exact htext h

theorem ScalarText.ne {plain : Bool} {s : String} {cs : List Char} (h : ScalarText plain s cs) :
    cs ≠ [] := by
  cases h with
  | plain h => exact h.ne
  | quoted => exact List.cons_ne_nil _ _

theorem ScalarText.solid {plain : Bool} {s : String} {cs : List Char} (h : ScalarText plain s cs)
    (rest : List Char) : Solid (cs ++ rest) := by
  intro c hc
  obtain ⟨d, tail, rfl⟩ := List.exists_cons_of_ne_nil h.ne
  obtain rfl : d = c := by simpa using hc
  generalize hcs : d :: tail = cs at h
  cases h with
  | @plain s h =>
    have hd : d ∈ s.toList := by rw [← hcs]; exact List.mem_cons_self
    have hplain := (h.chars d hd).resolve_left (h.head d (by rw [← hcs]; rfl))
    exact ⟨hplain.1, hplain.2.2⟩
  | quoted =>
    obtain ⟨rfl, -⟩ := List.cons.inj hcs
    decide

end TemplateAudit.Yaml
