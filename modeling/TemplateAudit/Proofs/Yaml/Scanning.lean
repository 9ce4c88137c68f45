import TemplateAudit.Proofs.Yaml.ScalarText
import TemplateAudit.Yaml.Printer

/-!
# Tokens of written documents

Outside flow collections no key is ever required, so reading tokens fails at one place only: at the
colon of a key that started more than 1024 characters before. Between two tokens the scanner settles:
it passes over blanks, forgets keys that are out of reach and closes the blocks that are deeper than
the column it has come to. A written value takes it from one settled state to the next.
-/

namespace TemplateAudit.Yaml

set_option autoImplicit false

namespace Scanner

/-! ## Settled states -/

/-- Moves past blanks to the next token and closes the blocks that end before it. -/
def settle? (s : Scanner) : Option Scanner :=
  (s.skipBlanks (s.input.rest.length + 1)).dropStaleKeys?.map fun s =>
    s.closeBlocks (s.input.column + 1)

def resume? (fuel : Nat) (s : Scanner) : Option (List Token) :=
  if s.input.atEnd then (s.closeBlocks 0).dropKey?.map fun s => s.tokens.reverse
  else s.token?.bind (tokens? fuel)

def next? (s : Scanner) : Option Scanner :=
  s.token?.bind settle?

theorem tokens?_succ (fuel : Nat) (s : Scanner) :
    tokens? (fuel + 1) s = s.settle?.bind (resume? fuel) := by
  rw [tokens?, settle?]
  cases (s.skipBlanks (s.input.rest.length + 1)).dropStaleKeys? with
  | none => rfl
  | some s =>
    simp only [Option.map_some, Option.bind_some, resume?]
    cases (s.closeBlocks (s.input.column + 1)).token? <;> rfl

theorem resume?_succ {s : Scanner} (hend : s.input.atEnd = false) (fuel : Nat) :
    resume? (fuel + 1) s = s.next?.bind (resume? fuel) := by
  rw [resume?, hend, next?, Option.bind_assoc]
  simp only [Bool.false_eq_true, if_false]
  congr 1
  funext s
  exact tokens?_succ fuel s

/-- Reading on from a settled state for at most some steps: either a state of some kind is reached
or, when `ok` is false, reading fails. -/
inductive Leads (goal : Scanner → Prop) : Nat → Bool → Scanner → Prop where
  | here {n : Nat} {s : Scanner} : goal s → Leads goal n true s
  | step {n : Nat} {ok : Bool} {s s' : Scanner} : s.input.atEnd = false → s.next? = some s' →
      Leads goal n ok s' → Leads goal (n + 1) ok s
  | stuck {n : Nat} {s : Scanner} : s.input.atEnd = false → s.next? = none →
      Leads goal (n + 1) false s

namespace Leads
variable {goal later : Scanner → Prop} {n m : Nat} {ok fine : Bool} {s : Scanner}

theorem mono (h : Leads goal n ok s) (hm : n ≤ m) : Leads goal m ok s := by
  induction h generalizing m with
  | here hgoal => exact .here hgoal
  | @step n _ _ _ hend hnext _ ih =>
    obtain ⟨m, rfl⟩ : ∃ k, m = k + 1 := ⟨m - 1, by omega⟩
    exact .step hend hnext (ih (by omega))
  | stuck hend hnext =>
    obtain ⟨m, rfl⟩ : ∃ k, m = k + 1 := ⟨m - 1, by omega⟩
    exact .stuck hend hnext

theorem trans (h : Leads goal n ok s) (hlater : ∀ s', goal s' → Leads later m fine s') :
    Leads later (n + m) (ok && fine) s := by
  induction h with
  | here hgoal => exact (hlater _ hgoal).mono (by omega)
  | @step n _ _ _ hend hnext _ ih =>
    rw [Nat.add_right_comm]
    exact .step hend hnext ih
  | stuck hend hnext =>
    rw [Nat.add_right_comm]
    exact .stuck hend hnext

theorem resume?_none (h : Leads goal n false s) {fuel : Nat} (hfuel : n ≤ fuel) :
    resume? fuel s = none := by
  generalize hok : false = ok at h
  induction h generalizing fuel with
  | here => cases hok
  | step hend hnext _ ih =>
    obtain ⟨fuel, rfl⟩ : ∃ k, fuel = k + 1 := ⟨fuel - 1, by omega⟩
    rw [resume?_succ hend, hnext]
    exact ih (by omega) hok
  | stuck hend hnext =>
    obtain ⟨fuel, rfl⟩ : ∃ k, fuel = k + 1 := ⟨fuel - 1, by omega⟩
    rw [resume?_succ hend, hnext]
    rfl

theorem exists_resume? (h : Leads goal n true s) {fuel : Nat} (hfuel : n ≤ fuel) :
    ∃ s' left, goal s' ∧ resume? fuel s = resume? left s' := by
  generalize hok : true = ok at h
  induction h generalizing fuel with
  | here hgoal => exact ⟨_, fuel, hgoal, rfl⟩
  | step hend hnext _ ih =>
    obtain ⟨fuel, rfl⟩ : ∃ k, fuel = k + 1 := ⟨fuel - 1, by omega⟩
    obtain ⟨s', left, hgoal, hresume⟩ := ih (by omega : _ ≤ fuel) hok
    refine ⟨s', left, hgoal, ?_⟩
    rw [resume?_succ hend, hnext]
    exact hresume
  | stuck => cases hok

end Leads

/-! ## Blocks -/

end Scanner

structure Blocks where
  margin : Nat
  margins : List Nat
  tokens : List Token

namespace Blocks

def push (b : Blocks) (token : Token) : Blocks :=
  { b with tokens := token :: b.tokens }

def pushAll (b : Blocks) (tokens : List Token) : Blocks :=
  { b with tokens := tokens.reverse ++ b.tokens }

def openAt (b : Blocks) (column : Nat) (token : Token) : Blocks :=
  if column < b.margin then b else ⟨column + 1, b.margin :: b.margins, token :: b.tokens⟩

def close (b : Blocks) (target : Nat) : Blocks :=
  let (margin, margins, tokens) := Scanner.leaveMargins target b.margin b.margins b.tokens
  ⟨margin, margins, tokens⟩

variable {b : Blocks} {target column : Nat} {token : Token}

@[simp]
theorem pushAll_margin (tokens : List Token) : (b.pushAll tokens).margin = b.margin := rfl

@[simp]
theorem push_margin : (b.push token).margin = b.margin := rfl

theorem pushAll_cons (token : Token) (tokens : List Token) :
    b.pushAll (token :: tokens) = (b.push token).pushAll tokens := by
  simp [pushAll, push]

theorem pushAll_append (first second : List Token) :
    b.pushAll (first ++ second) = (b.pushAll first).pushAll second := by
  simp [pushAll]

theorem close_of_le (h : b.margin ≤ target) : b.close target = b := by
  obtain ⟨margin, margins, tokens⟩ := b
  cases margins with
  | nil => rfl
  | cons outer rest =>
    rw [close, Scanner.leaveMargins, if_neg (Nat.not_lt.mpr h)]

theorem margin_openAt (h : b.margin ≤ column + 1) : (b.openAt column token).margin = column + 1 := by
  unfold openAt
  split
  · omega
  · rfl

theorem openAt_of_lt (h : column < b.margin) : b.openAt column token = b :=
  if_pos h

/-- A block that was opened at a column is closed again left of it. -/
theorem close_openAt (h : b.margin ≤ column) (htarget : target ≤ column) (tokens : List Token) :
    ((b.openAt column token).pushAll tokens).close target =
      (b.pushAll (token :: (tokens ++ [.blockEnd]))).close target := by
  rw [openAt, if_neg (Nat.not_lt.mpr h), close, pushAll, Scanner.leaveMargins,
    if_pos (Nat.lt_succ_of_le htarget), close, pushAll]
  simp

end Blocks

namespace Scanner

/-- A state outside flow collections in which the only key is not required. -/
abbrev inBlock (b : Blocks) (input : Input) (keyAllowed : Bool) (key : SimpleKey) (valueIndex : Nat) :
    Scanner where
  input := input
  tokens := b.tokens
  keyAllowed := keyAllowed
  keys := [key]
  margin := b.margin
  margins := b.margins
  valueIndex := valueIndex

/-- The scanner stands before a text at a column, outside flow collections. -/
def At (rest : List Char) (column : Nat) (keyAllowed : Bool) (b : Blocks) (s : Scanner) : Prop :=
  ∃ index line key valueIndex, key.required = false ∧
    s = inBlock b ⟨rest, index, line, column⟩ keyAllowed key valueIndex

section States
variable {b : Blocks} {input : Input} {keyAllowed : Bool} {key : SimpleKey} {valueIndex : Nat}

theorem closeBlocks_inBlock (target : Nat) :
    (inBlock b input keyAllowed key valueIndex).closeBlocks target =
      inBlock (b.close target) input keyAllowed key valueIndex := rfl

theorem dropKey?_inBlock (hkey : key.required = false) :
    (inBlock b input keyAllowed key valueIndex).dropKey? =
      some (inBlock b input keyAllowed { key with possible := false } valueIndex) := by
  rw [dropKey?, currentKey]
  simp [inBlock, hkey]

theorem openBlock_inBlock (column : Nat) (token : Token) :
    (inBlock b input keyAllowed key valueIndex).openBlock column none token =
      inBlock (b.openAt column token) input keyAllowed key valueIndex := by
  by_cases h : column < b.margin
  · rw [Blocks.openAt_of_lt h, openBlock]
    exact if_pos (by simpa [inFlow, inBlock] using h)
  · rw [Blocks.openAt, if_neg h, openBlock]
    exact if_neg (by simpa [inFlow, inBlock] using h)

/-- Whether a key lies out of reach of an input. -/
def outOfReach (key : SimpleKey) (input : Input) : Bool :=
  key.possible && (decide (key.line < input.line) || decide (key.index + 1024 < input.index))

theorem dropStaleKeys?_inBlock (hkey : key.required = false) :
    (inBlock b input keyAllowed key valueIndex).dropStaleKeys? =
      some (inBlock b input keyAllowed
        (if outOfReach key input then { key with possible := false } else key) valueIndex) := by
  rw [dropStaleKeys?]
  simp [inBlock, hkey, isStale, outOfReach]

theorem settle?_inBlock (hkey : key.required = false) {next : Input} {allowed : Bool}
    (hblanks : (inBlock b input keyAllowed key valueIndex).skipBlanks (input.rest.length + 1) =
      inBlock b next allowed key valueIndex) :
    (inBlock b input keyAllowed key valueIndex).settle? =
      some (inBlock (b.close (next.column + 1)) next allowed
        (if outOfReach key next then { key with possible := false } else key) valueIndex) := by
  rw [settle?, show (inBlock b input keyAllowed key valueIndex).input = input from rfl, hblanks,
    dropStaleKeys?_inBlock hkey]
  rfl

theorem required_ite (hkey : key.required = false) (p : Prop) [Decidable p] :
    (if p then { key with possible := false } else key).required = false := by
  split <;> exact hkey

variable {more : List Char} {index line column : Nat}

theorem skipBlanks_solid (hmore : Solid more) (fuel : Nat) :
    (inBlock b ⟨more, index, line, column⟩ keyAllowed key valueIndex).skipBlanks fuel =
      inBlock b ⟨more, index, line, column⟩ keyAllowed key valueIndex := by
  cases fuel with
  | zero => rfl
  | succ fuel =>
    have hpeek : isSpace (Input.peek ⟨more, index, line, column⟩) = false ∧
        isBreak (Input.peek ⟨more, index, line, column⟩) = false ∧
        Input.peek ⟨more, index, line, column⟩ ≠ '#' := by
      cases more with
      | nil => exact ⟨rfl, rfl, show endMark ≠ '#' by decide⟩
      | cons c more =>
        obtain ⟨hgap, hhash⟩ := hmore c rfl
        simp only [isGap, isBreakOrEnd, Bool.or_eq_false_iff] at hgap
        exact ⟨hgap.1, hgap.2.1, hhash⟩
    obtain ⟨hspace, hbreak, hhash⟩ := hpeek
    simp only [isSpace, Bool.or_eq_false_iff, beq_eq_false_iff_ne] at hspace
    rw [skipBlanks]
    simp only [inBlock, hbreak, decide_eq_false hspace.1, decide_eq_false hspace.2, Bool.false_and,
      Bool.or_self, Bool.false_eq_true, if_false, if_neg hhash]

theorem skipBlanks_spaces (hmore : Solid more) (count fuel : Nat) :
    (inBlock b ⟨List.replicate count ' ' ++ more, index, line, column⟩ keyAllowed key
        valueIndex).skipBlanks (count + fuel) =
      inBlock b ⟨more, index + count, line, column + count⟩ keyAllowed key valueIndex := by
  induction count generalizing index column with
  | zero => simpa using skipBlanks_solid hmore fuel
  | succ count ih =>
    have hstep : (inBlock b ⟨List.replicate (count + 1) ' ' ++ more, index, line, column⟩ keyAllowed
        key valueIndex).skipBlanks (count + fuel + 1) =
        (inBlock b ⟨List.replicate count ' ' ++ more, index + 1, line, column + 1⟩ keyAllowed key
          valueIndex).skipBlanks (count + fuel) := rfl
    rw [Nat.add_right_comm, hstep, ih, Nat.add_assoc, Nat.add_assoc, Nat.add_comm 1]

theorem skipBlanks_line (hmore : Solid more) (count fuel : Nat) :
    (inBlock b ⟨'\n' :: (List.replicate count ' ' ++ more), index, line, column⟩ keyAllowed key
        valueIndex).skipBlanks (count + fuel + 1) =
      inBlock b ⟨more, index + 1 + count, line + 1, count⟩ true key valueIndex := by
  have hstep : (inBlock b ⟨'\n' :: (List.replicate count ' ' ++ more), index, line, column⟩
      keyAllowed key valueIndex).skipBlanks (count + fuel + 1) =
      (inBlock b ⟨List.replicate count ' ' ++ more, index + 1, line + 1, 0⟩ (keyAllowed || true) key
        valueIndex).skipBlanks (count + fuel) := rfl
  rw [hstep, skipBlanks_spaces hmore, Bool.or_true, Nat.zero_add]

end States

section Steps
variable {b : Blocks} {more : List Char} {column : Nat} {keyAllowed : Bool} {s : Scanner}

theorem at_inBlock {key : SimpleKey} (hkey : key.required = false) (index line valueIndex : Nat) :
    At more column keyAllowed b
      (inBlock b ⟨more, index, line, column⟩ keyAllowed key valueIndex) :=
  ⟨_, _, _, _, hkey, rfl⟩

theorem At.settle_spaces {count : Nat}
    (h : At (List.replicate count ' ' ++ more) column keyAllowed b s) (hmore : Solid more) :
    ∃ s', s.settle? = some s' ∧
      At more (column + count) keyAllowed (b.close (column + count + 1)) s' := by
  obtain ⟨index, line, key, valueIndex, hkey, rfl⟩ := h
  have hblanks := @skipBlanks_spaces b keyAllowed key valueIndex more index line column hmore count
    (more.length + 1)
  rw [← Nat.add_assoc, ← List.length_replicate (n := count) (a := ' '), ← List.length_append,
    List.length_replicate] at hblanks
  exact ⟨_, settle?_inBlock hkey hblanks, _, _, _, _, required_ite hkey _, rfl⟩

theorem At.settle_here (h : At more column keyAllowed b s) (hmore : Solid more) :
    ∃ s', s.settle? = some s' ∧ At more column keyAllowed (b.close (column + 1)) s' :=
  @At.settle_spaces b more column keyAllowed s 0 h hmore

theorem At.settle_space (h : At (' ' :: more) column keyAllowed b s) (hmore : Solid more) :
    ∃ s', s.settle? = some s' ∧ At more (column + 1) keyAllowed (b.close (column + 2)) s' :=
  @At.settle_spaces b more column keyAllowed s 1 h hmore

theorem At.settle_line {count : Nat}
    (h : At ('\n' :: (List.replicate count ' ' ++ more)) column keyAllowed b s)
    (hmore : Solid more) :
    ∃ s', s.settle? = some s' ∧ At more count true (b.close (count + 1)) s' := by
  obtain ⟨index, line, key, valueIndex, hkey, rfl⟩ := h
  have hblanks := @skipBlanks_line b keyAllowed key valueIndex more index line column hmore count
    (more.length + 1)
  rw [← Nat.add_assoc, ← List.length_replicate (n := count) (a := ' '), ← List.length_append,
    ← List.length_cons (a := '\n'), List.length_replicate] at hblanks
  exact ⟨_, settle?_inBlock hkey hblanks, _, _, _, _, required_ite hkey _, rfl⟩

/-- The mark of an item opens a sequence unless one is open. -/
theorem At.dash (h : At ('-' :: ' ' :: more) column true b s) (hmore : Solid more)
    (hmargin : b.margin ≤ column + 1) :
    ∃ s', s.next? = some s' ∧
      At more (column + 2) true ((b.openAt column .blockSequenceStart).push .blockEntry) s' := by
  obtain ⟨index, line, key, valueIndex, hkey, rfl⟩ := h
  have htoken : (inBlock b ⟨'-' :: ' ' :: more, index, line, column⟩ true key valueIndex).token? =
      some (inBlock ((b.openAt column .blockSequenceStart).push .blockEntry)
        ⟨' ' :: more, index + 1, line, column + 1⟩ true { key with possible := false }
        valueIndex) := by
    have hmark : (inBlock b ⟨'-' :: ' ' :: more, index, line, column⟩ true key valueIndex).token? =
        blockEntry? (inBlock b ⟨'-' :: ' ' :: more, index, line, column⟩ true key valueIndex) := by
      simp [token?, Input.atTriple, Input.peek, Input.peekAt, isGap_space]
    rw [hmark, blockEntry?, if_neg (by simp [inFlow]), openBlock_inBlock, mark?,
      dropKey?_inBlock hkey]
    rfl
  have hat : At (' ' :: more) (column + 1) true
      ((b.openAt column .blockSequenceStart).push .blockEntry)
      (inBlock ((b.openAt column .blockSequenceStart).push .blockEntry)
        ⟨' ' :: more, index + 1, line, column + 1⟩ true { key with possible := false }
        valueIndex) :=
    at_inBlock (show ({ key with possible := false } : SimpleKey).required = false from hkey)
      _ _ _
  obtain ⟨s', hsettle, hs'⟩ := hat.settle_space hmore
  have hclose : ((b.openAt column .blockSequenceStart).push .blockEntry).close (column + 1 + 2) =
      (b.openAt column .blockSequenceStart).push .blockEntry := by
    apply Blocks.close_of_le
    rw [Blocks.push_margin, Blocks.margin_openAt hmargin]
    omega
  rw [hclose] at hs'
  exact ⟨s', by rw [next?, htoken, Option.bind_some, hsettle], hs'⟩

def keyAt (b : Blocks) (index line column : Nat) : SimpleKey :=
  ⟨true, false, b.tokens.length, index, line, column⟩

theorem startKey?_inBlock {key : SimpleKey} (hkey : key.required = false) {rest : List Char}
    {index line valueIndex : Nat} :
    ∃ started, started.required = false ∧ (keyAllowed = true → started = keyAt b index line column) ∧
      (inBlock b ⟨rest, index, line, column⟩ keyAllowed key valueIndex).startKey? =
        some (inBlock b ⟨rest, index, line, column⟩ keyAllowed started valueIndex) := by
  cases keyAllowed with
  | true =>
    refine ⟨keyAt b index line column, rfl, fun _ => rfl, ?_⟩
    rw [startKey?, if_pos rfl, dropKey?_inBlock hkey]
    rfl
  | false => exact ⟨key, hkey, fun h => absurd h Bool.false_ne_true, rfl⟩

section Scalars
variable {plain : Bool} {text : String} {cs rest : List Char} {index line valueIndex indent : Nat}
  {key : SimpleKey}

theorem token?_plain (h : PlainScalar cs) (hopen : column ≠ 0 ∨ ∀ c ∈ cs.head?, c ≠ '-' ∧ c ≠ '.') :
    (inBlock b ⟨cs ++ rest, index, line, column⟩ keyAllowed key valueIndex).token? =
      (inBlock b ⟨cs ++ rest, index, line, column⟩ keyAllowed key valueIndex).plainScalar? := by
  obtain ⟨c, tail, rfl⟩ := List.exists_cons_of_ne_nil h.ne
  obtain ⟨hopens, hcode⟩ := h.opens c rfl
  have hcolon := ((h.chars c List.mem_cons_self).resolve_left (h.head c rfl)).2.1
  have htriple {d : Char} (hd : d = '-' ∨ d = '.') :
      Input.atTriple ⟨c :: tail ++ rest, index, line, column⟩ d = false := by
    rcases hopen with hcolumn | hfirst
    · simp [Input.atTriple, hcolumn]
    · have hne : c ≠ d := by rcases hd with rfl | rfl; exacts [(hfirst c rfl).1, (hfirst c rfl).2]
      simp [Input.atTriple, Input.peek, Input.peekAt, hne]
  have hpercent : c ≠ '%' := by
    rintro rfl
    exact hopens (by decide)
  have hpeek : Input.peek ⟨c :: tail ++ rest, index, line, column⟩ = c := rfl
  rw [token?]
  simp only [hpeek, htriple (.inl rfl), htriple (.inr rfl), decide_eq_false hpercent, Bool.and_false,
    Bool.false_eq_true, if_false]
  -- A text may start with a dash or fall into the last case; all the others are marks.
  split
  case h_6 =>
    obtain ⟨d, hd, hgap⟩ := h.dash tail rfl
    obtain ⟨after, rfl⟩ := List.head?_eq_some_iff.mp hd
    exact if_neg (by simp [Input.peekAt, hgap])
  case h_8 => exact absurd rfl hcolon
  case h_18 => exact if_neg hcode
  all_goals exact absurd (by decide) hopens

/-- A scalar without quotes or in them becomes one token. -/
theorem token?_scalar (h : ScalarText plain text cs) (hkey : key.required = false)
    (hmargin : b.margin ≤ column + 1)
    (hopen : column ≠ 0 ∨ ∀ c ∈ cs.head?, c ≠ '-' ∧ c ≠ '.') {broken : Bool} {after : Input}
    (hstops : Stops b.margin ⟨rest, index + cs.length, line, column + cs.length⟩ broken after) :
    ∃ started left, started.required = false ∧
      (keyAllowed = true → started = keyAt b index line column) ∧
      (inBlock b ⟨cs ++ rest, index, line, column⟩ keyAllowed key valueIndex).token? =
        some (inBlock (b.push (.scalar plain text))
          (if plain then after else ⟨rest, index + cs.length, line, column + cs.length⟩)
          (plain && broken) started left) := by
  obtain ⟨started, hstarted, hfresh, hstart⟩ := @startKey?_inBlock b column keyAllowed key hkey
    (cs ++ rest) index line valueIndex
  cases h with
  | plain hplain =>
    refine ⟨started, valueIndex, hstarted, hfresh, ?_⟩
    have hmark : Input.atDocumentMark ⟨text.toList ++ rest, index, line, column⟩ = false := by
      refine Input.not_atDocumentMark (hopen.imp_right fun hfirst => ?_)
      obtain ⟨c, tail, htext⟩ := List.exists_cons_of_ne_nil hplain.ne
      rw [htext] at hfirst ⊢
      exact hfirst c rfl
    have hlength : text.toList.length ≤ (text.toList ++ rest).length + 1 := by
      rw [List.length_append]
      omega
    have hread := plainText?_text hplain.toPlainText hmargin hmark hstops hlength [] {}
    rw [show [] ++ Gap.text {} ++ text.toList = text.toList from rfl] at hread
    rw [token?_plain hplain hopen, plainScalar?, hstart, Option.bind_some]
    simp only [inFlow, inBlock, bne_self_eq_false, hread, Option.map_some, String.ofList_toList]
    rfl
  | quoted =>
    refine ⟨started, index + 1 + (text.toList.flatMap quotedChar).length + 1, hstarted, hfresh, ?_⟩
    have htoken : (inBlock b ⟨'"' :: (text.toList.flatMap quotedChar ++ ['"']) ++ rest, index, line,
        column⟩ keyAllowed key valueIndex).token? =
        (inBlock b ⟨'"' :: (text.toList.flatMap quotedChar ++ ['"']) ++ rest, index, line,
        column⟩ keyAllowed key valueIndex).quotedScalar? false := by
      simp [token?, Input.atTriple, Input.peek, Input.peekAt]
    have hskip : Input.skip ⟨'"' :: (text.toList.flatMap quotedChar ++ ['"']) ++ rest, index, line,
        column⟩ = ⟨text.toList.flatMap quotedChar ++ '"' :: rest, index + 1, line, column + 1⟩ := by
      rw [List.cons_append, List.append_assoc, List.singleton_append]
      exact Input.skip_cons (by decide) _ _ _ _
    have hlength : text.toList.length <
        ('"' :: (text.toList.flatMap quotedChar ++ ['"']) ++ rest).length + 1 := by
      have hlonger := length_le_flatMap_quotedChar text.toList
      simp only [List.length_append, List.length_cons]
      omega
    have hread := @quotedText?_text rest (index + 1) line (column + 1) text.toList
      (Nat.succ_pos column) _ hlength []
    rw [htoken, quotedScalar?, hstart, Option.bind_some]
    simp only [hskip, hread, Option.map_some, List.nil_append, String.ofList_toList,
      Option.some.injEq]
    have hend (start : Nat) : start + 1 + (text.toList.flatMap quotedChar).length + 1 =
        start + ('"' :: (text.toList.flatMap quotedChar ++ ['"'])).length := by
      simp only [List.length_cons, List.length_append, List.length_nil]
      omega
    rw [hend index, hend column]
    rfl

/-- The scalar that is a value ends its line. -/
theorem At.scalar (h : At (cs ++ '\n' :: (List.replicate indent ' ' ++ more)) column keyAllowed b s)
    (hscalar : ScalarText plain text cs) (hindent : indent < b.margin) (hmargin : b.margin ≤ column)
    (hmore : Solid more) :
    ∃ s', s.next? = some s' ∧
      At more indent true ((b.push (.scalar plain text)).close (indent + 1)) s' := by
  obtain ⟨index, line, key, valueIndex, hkey, rfl⟩ := h
  have hcolumn : column ≠ 0 := by omega
  obtain ⟨started, left, hstarted, -, htoken⟩ := token?_scalar hscalar hkey
    (Nat.le_succ_of_le hmargin) (.inl hcolumn) (.line hindent fun c hc => (hmore c hc).1)
  -- Reading a text without quotes takes the line break and the indentation after it along.
  have hsettle : ∃ s', (inBlock (b.push (.scalar plain text))
      (if plain then ⟨more, index + cs.length + 1 + indent, line + 1, indent⟩
        else ⟨'\n' :: (List.replicate indent ' ' ++ more), index + cs.length, line,
          column + cs.length⟩) (plain && true) started left).settle? = some s' ∧
      At more indent true ((b.push (.scalar plain text)).close (indent + 1)) s' := by
    cases plain with
    | true => exact At.settle_here (at_inBlock hstarted _ _ _) hmore
    | false => exact At.settle_line (at_inBlock hstarted _ _ _) hmore
  obtain ⟨s', hsettled, hs'⟩ := hsettle
  exact ⟨s', by rw [next?, htoken, Option.bind_some, hsettled], hs'⟩

/-- A token is put before the last ones. -/
theorem insert_inBlock (token : Token) (later : List Token) {input : Input} :
    (inBlock (b.pushAll later) input keyAllowed key valueIndex).insert b.tokens.length token =
      inBlock (b.pushAll (token :: later)) input keyAllowed key valueIndex := by
  have hcount : (later.reverse ++ b.tokens).length - b.tokens.length = later.reverse.length := by
    rw [List.length_append]
    omega
  simp only [insert, inBlock, Blocks.pushAll, hcount, List.take_left, List.drop_left,
    List.reverse_cons, List.append_assoc, List.singleton_append]

/-- A block may be opened before the last tokens. -/
theorem openBlock_before (token : Token) (later : List Token) {input : Input} :
    (inBlock (b.pushAll later) input keyAllowed key valueIndex).openBlock column
        (some b.tokens.length) token =
      inBlock ((b.openAt column token).pushAll later) input keyAllowed key valueIndex := by
  by_cases h : column < b.margin
  · rw [Blocks.openAt_of_lt h, openBlock]
    exact if_pos (show (false || decide (column < b.margin)) = true by simpa using h)
  · rw [Blocks.openAt, if_neg h, openBlock]
    refine (if_neg (show ¬ (false || decide (column < b.margin)) = true by simpa using h)).trans ?_
    have hinsert := @insert_inBlock ⟨column + 1, b.margin :: b.margins, b.tokens⟩ keyAllowed
      valueIndex key token later input
    rw [Blocks.pushAll_cons] at hinsert
    exact hinsert

/-- The colon turns the scalar before it into a key, which opens a mapping unless one is open. -/
theorem value?_keyAt (token : Token) (index line : Nat) (input : Input) :
    (inBlock (b.pushAll [token]) input false (keyAt b index line column) valueIndex).value? =
      some (inBlock ((b.openAt column .blockMappingStart).pushAll [.key, token, .value])
        (input.drop 1) false { keyAt b index line column with possible := false } valueIndex) := by
  have hkey : (inBlock (b.pushAll [token]) input false (keyAt b index line column)
      valueIndex).currentKey = keyAt b index line column := rfl
  have hopened : ((inBlock (b.pushAll [token]) input false (keyAt b index line column)
      valueIndex).insert b.tokens.length .key).openBlock column (some b.tokens.length)
        .blockMappingStart =
      inBlock ((b.openAt column .blockMappingStart).pushAll [.key, token]) input false
        (keyAt b index line column) valueIndex := by
    rw [insert_inBlock, openBlock_before]
  rw [value?, hkey, if_pos (show (keyAt b index line column).possible = true from rfl)]
  simp only [keyAt] at hopened ⊢
  simp only [hopened]
  rfl

theorem value?_forgotten (input : Input) (key : SimpleKey) :
    (inBlock b input false { key with possible := false } valueIndex).value? = none := rfl

theorem token?_colon {gap : Char} (hgap : isGap gap = true) :
    (inBlock b ⟨':' :: gap :: rest, index, line, column⟩ keyAllowed key valueIndex).token? =
      (inBlock b ⟨':' :: gap :: rest, index, line, column⟩ keyAllowed key valueIndex).value? := by
  simp [token?, Input.atTriple, Input.peek, Input.peekAt, atValue, hgap]

theorem not_atEnd_of_solid (h : Solid more) (hne : more ≠ []) :
    Input.atEnd ⟨more, index, line, column⟩ = false := by
  obtain ⟨c, tail, rfl⟩ := List.exists_cons_of_ne_nil hne
  have hend : c ≠ endMark := by
    rintro rfl
    exact absurd (h endMark rfl).1 (by decide)
  simpa [Input.atEnd, Input.peek, Input.peekAt] using hend

theorem At.not_atEnd (h : At more column keyAllowed b s) (hmore : Solid more) (hne : more ≠ []) :
    s.input.atEnd = false := by
  obtain ⟨index, line, key, valueIndex, -, rfl⟩ := h
  exact not_atEnd_of_solid hmore hne

/-- A key is read unless it takes up more than 1024 characters. -/
theorem At.mappingKey {goal : Scanner → Prop} {n : Nat} {ok : Bool}
    (h : At (cs ++ ':' :: rest) column true b s) (hscalar : ScalarText plain text cs)
    (hopen : ∀ c ∈ cs.head?, c ≠ '-' ∧ c ≠ '.') (hmargin : b.margin ≤ column + 1)
    (hrest : ∃ gap ∈ rest.head?, isGap gap = true)
    (hlater : ∀ s', At rest (column + cs.length + 1) false
        ((b.openAt column .blockMappingStart).pushAll [.key, .scalar plain text, .value]) s' →
      ∃ s'', s'.settle? = some s'' ∧ Leads goal n ok s'') :
    Leads goal (n + 2) (decide (cs.length ≤ 1024) && ok) s := by
  obtain ⟨gap, hhead, hgap⟩ := hrest
  obtain ⟨rest, rfl⟩ := List.head?_eq_some_iff.mp hhead
  obtain ⟨index, line, key, valueIndex, hkey, rfl⟩ := h
  obtain ⟨started, left, hstarted, hfresh, htoken⟩ := @token?_scalar b column true plain text cs
    (':' :: gap :: rest) index line valueIndex key hscalar hkey hmargin (.inr hopen) _ _
    (.colon hgap)
  obtain rfl := hfresh rfl
  rw [ite_self, Bool.and_false] at htoken
  have hcolon : Solid (':' :: gap :: rest) := by
    intro c hc
    obtain rfl : ':' = c := by simpa using hc
    decide
  have hsettle := settle?_inBlock hstarted (@skipBlanks_solid (b.push (.scalar plain text)) false
    (keyAt b index line column) left _ (index + cs.length) line (column + cs.length) hcolon _)
  rw [Blocks.close_of_le (by rw [Blocks.push_margin]; simp only; omega)] at hsettle
  have hend : Input.atEnd ⟨cs ++ ':' :: gap :: rest, index, line, column⟩ = false :=
    not_atEnd_of_solid (hscalar.solid _) (List.append_ne_nil_of_left_ne_nil hscalar.ne _)
  refine .step hend ((congrArg (·.bind settle?) htoken).trans hsettle) ?_
  have hreach : outOfReach (keyAt b index line column) ⟨':' :: gap :: rest, index + cs.length, line,
      column + cs.length⟩ = decide (1024 < cs.length) := by
    simp [outOfReach, keyAt]
  rw [hreach]
  -- The key is still remembered at its colon only when it is short enough. There its token is put
  -- before the scalar; otherwise the colon stands where no mapping may start.
  by_cases hfits : cs.length ≤ 1024
  · rw [if_neg (by simpa using hfits), decide_eq_true hfits, Bool.true_and]
    have hvalue : (inBlock (b.push (.scalar plain text)) ⟨':' :: gap :: rest, index + cs.length, line,
        column + cs.length⟩ false (keyAt b index line column) left).token? =
        some (inBlock ((b.openAt column .blockMappingStart).pushAll
          [.key, .scalar plain text, .value]) ⟨gap :: rest, index + cs.length + 1, line,
            column + cs.length + 1⟩ false { keyAt b index line column with possible := false }
          left) := by
      rw [token?_colon hgap]
      exact value?_keyAt (.scalar plain text) index line _
    have hforgotten : ({ keyAt b index line column with possible := false } : SimpleKey).required =
        false := rfl
    obtain ⟨s', hsettled, hleads⟩ := hlater _ (at_inBlock hforgotten _ _ _)
    exact .step rfl ((congrArg (·.bind settle?) hvalue).trans hsettled) hleads
  · rw [if_pos (by simpa using hfits), decide_eq_false hfits, Bool.false_and]
    refine .stuck rfl ?_
    rw [next?, token?_colon hgap, value?_forgotten]
    rfl

end Scalars

/-! ## Empty flow collections -/

inductive FlowMarks : Char → Char → Token → Token → Prop where
  | sequence : FlowMarks '[' ']' .flowSequenceStart .flowSequenceEnd
  | mapping : FlowMarks '\x7b' '\x7d' .flowMappingStart .flowMappingEnd

abbrev inFlowBlock (b : Blocks) (input : Input) (key : SimpleKey) (valueIndex : Nat) : Scanner :=
  { inBlock b input true key valueIndex with keys := [{}, key], flowDepth := 1 }

section EmptyFlow
variable {first last : Char} {start stop : Token} {key : SimpleKey}
  {rest : List Char} {index line valueIndex indent : Nat}

theorem token?_flowStart (hmarks : FlowMarks first last start stop) (hkey : key.required = false) :
    ∃ started, started.required = false ∧
      (inBlock b ⟨first :: last :: rest, index, line, column⟩ keyAllowed key valueIndex).token? =
        some (inFlowBlock (b.push start) ⟨last :: rest, index + 1, line, column + 1⟩ started
          valueIndex) := by
  obtain ⟨started, hstarted, -, hstart⟩ := @startKey?_inBlock b column keyAllowed key hkey
    (first :: last :: rest) index line valueIndex
  have htoken : (inBlock b ⟨first :: last :: rest, index, line, column⟩ keyAllowed key
      valueIndex).token? =
      (inBlock b ⟨first :: last :: rest, index, line, column⟩ keyAllowed key
        valueIndex).flowStart? start := by
    cases hmarks <;> simp [token?, Input.atTriple, Input.peek, Input.peekAt]
  refine ⟨started, hstarted, ?_⟩
  have hskip : Input.skip ⟨first :: last :: rest, index, line, column⟩ =
      ⟨last :: rest, index + 1, line, column + 1⟩ :=
    Input.skip_cons (by cases hmarks <;> decide) _ _ _ _
  rw [htoken, flowStart?, hstart, ← hskip]
  rfl

theorem settle?_inFlowBlock (hmarks : FlowMarks first last start stop)
    (hkey : key.required = false) :
    ∃ later, later.required = false ∧
      (inFlowBlock b ⟨last :: rest, index, line, column⟩ key valueIndex).settle? =
        some (inFlowBlock b ⟨last :: rest, index, line, column⟩ later valueIndex) := by
  have hblanks (fuel : Nat) : (inFlowBlock b ⟨last :: rest, index, line, column⟩ key
      valueIndex).skipBlanks (fuel + 1) =
      inFlowBlock b ⟨last :: rest, index, line, column⟩ key valueIndex := by
    cases hmarks <;> rfl
  refine ⟨if outOfReach key ⟨last :: rest, index, line, column⟩ then
    { key with possible := false } else key, required_ite hkey _, ?_⟩
  rw [settle?, hblanks, dropStaleKeys?]
  simp [hkey, isStale, outOfReach, closeBlocks, inFlow]

theorem token?_flowEnd (hmarks : FlowMarks first last start stop) :
    (inFlowBlock b ⟨last :: rest, index, line, column⟩ key valueIndex).token? =
      some (inBlock (b.push stop) ⟨rest, index + 1, line, column + 1⟩ false key valueIndex) := by
  have htoken : (inFlowBlock b ⟨last :: rest, index, line, column⟩ key valueIndex).token? =
      (inFlowBlock b ⟨last :: rest, index, line, column⟩ key valueIndex).flowEnd? stop := by
    cases hmarks <;> simp [token?, Input.atTriple, Input.peek, Input.peekAt]
  have hskip : Input.skip ⟨last :: rest, index, line, column⟩ =
      ⟨rest, index + 1, line, column + 1⟩ :=
    Input.skip_cons (by cases hmarks <;> decide) _ _ _ _
  rw [htoken, ← hskip]
  rfl

/-- An empty flow collection ends its line. -/
theorem At.emptyFlow
    (h : At (first :: last :: '\n' :: (List.replicate indent ' ' ++ more)) column keyAllowed b s)
    (hmarks : FlowMarks first last start stop) (hmore : Solid more) :
    Leads (At more indent true ((b.pushAll [start, stop]).close (indent + 1))) 2 true s := by
  obtain ⟨index, line, key, valueIndex, hkey, rfl⟩ := h
  obtain ⟨started, hstarted, htoken⟩ := @token?_flowStart b column keyAllowed first last start stop
    key ('\n' :: (List.replicate indent ' ' ++ more)) index line valueIndex hmarks hkey
  obtain ⟨later, hlater, hsettle⟩ := @settle?_inFlowBlock (b.push start) (column + 1) first last start
    stop started ('\n' :: (List.replicate indent ' ' ++ more)) (index + 1) line valueIndex hmarks
    hstarted
  have hclosed := @token?_flowEnd (b.push start) (column + 1) first last start stop later
    ('\n' :: (List.replicate indent ' ' ++ more)) (index + 1) line valueIndex hmarks
  have hat : At ('\n' :: (List.replicate indent ' ' ++ more)) (column + 1 + 1) false
      ((b.push start).push stop) _ := at_inBlock hlater (index + 1 + 1) line valueIndex
  obtain ⟨s', hsettled, hs'⟩ := hat.settle_line hmore
  refine .step (by cases hmarks <;> rfl) ((congrArg (·.bind settle?) htoken).trans hsettle) ?_
  refine .step (by cases hmarks <;> rfl) ((congrArg (·.bind settle?) hclosed).trans hsettled) ?_
  exact .here hs'

end EmptyFlow

/-! ## The ends of a document -/

theorem tokens?_start (hmore : Solid more) :
    ∃ s', At more 0 true ⟨0, [], [.documentStart]⟩ s' ∧ ∀ fuel,
      tokens? (fuel + 2) { input := { rest := '-' :: '-' :: '-' :: '\n' :: more } } =
        resume? fuel s' := by
  have hdash : Solid ('-' :: '-' :: '-' :: '\n' :: more) := by
    intro c hc
    obtain rfl : '-' = c := by simpa using hc
    decide
  have hkey : ({} : SimpleKey).required = false := rfl
  have hat : At ('\n' :: (List.replicate 0 ' ' ++ more)) 3 false ⟨0, [], [.documentStart]⟩
      (inBlock ⟨0, [], [.documentStart]⟩ ⟨'\n' :: more, 3, 0, 3⟩ false {} 0) :=
    at_inBlock hkey _ _ _
  obtain ⟨s', hsettle, hs'⟩ := hat.settle_line hmore
  refine ⟨s', hs', fun fuel => ?_⟩
  have hfirst := settle?_inBlock hkey (@skipBlanks_solid ⟨0, [], []⟩ true {} 0 _ 0 0 0 hdash _)
  rw [Blocks.close_of_le (Nat.zero_le _), ite_self] at hfirst
  have htoken : (inBlock ⟨0, [], []⟩ ⟨'-' :: '-' :: '-' :: '\n' :: more, 0, 0, 0⟩ true {} 0).token? =
      some (inBlock ⟨0, [], [.documentStart]⟩ ⟨'\n' :: more, 3, 0, 3⟩ false {} 0) := rfl
  have hstart : tokens? (fuel + 2) (inBlock ⟨0, [], []⟩
      ⟨'-' :: '-' :: '-' :: '\n' :: more, 0, 0, 0⟩ true {} 0) = resume? fuel s' := by
    have hnext : next? (inBlock ⟨0, [], []⟩
        ⟨'-' :: '-' :: '-' :: '\n' :: more, 0, 0, 0⟩ true {} 0) = some s' := by
      rw [next?, htoken]
      exact hsettle
    rw [tokens?_succ, hfirst, Option.bind_some, resume?_succ rfl, hnext, Option.bind_some]
  exact hstart

theorem At.resume?_end (h : At [] column keyAllowed b s) (fuel : Nat) :
    resume? fuel s = some (b.close 0).tokens.reverse := by
  obtain ⟨index, line, key, valueIndex, hkey, rfl⟩ := h
  refine (if_pos rfl).trans ?_
  rw [closeBlocks_inBlock, dropKey?_inBlock hkey]
  rfl

end Steps

end Scanner

end TemplateAudit.Yaml
