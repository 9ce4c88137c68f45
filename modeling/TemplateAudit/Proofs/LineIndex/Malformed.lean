import TemplateAudit.Proofs.LineIndex.Completeness
import TemplateAudit.Proofs.LineIndex.Nodes
import TemplateAudit.Template

/-!
# Malformed texts

The grammar of JSON texts, with what counts as a scalar left open: numbers and the three literal
names, or any bare word at all. The bare words of a text are found character by character, without
regard to its structure, and a text is well formed exactly if it is so with any words for scalars
and all of its bare words are scalars. The line scanner looks at structure only. So it rejects every
text that is malformed in any other way, and a template with such a text has the lines of its pretty
layout.
-/

namespace TemplateAudit

set_option autoImplicit false

open Json

namespace LineIndex

/-! ## Scalars -/

def Digit (c : Char) : Prop :=
  48 ≤ c.toNat ∧ c.toNat ≤ 57

inductive Whole : List Char → Prop where
  | zero : Whole ['0']
  | digits {c : Char} {cs : List Char} : Digit c → c ≠ '0' → (∀ d ∈ cs, Digit d) → Whole (c :: cs)

inductive Fraction : List Char → Prop where
  | absent : Fraction []
  | point {cs : List Char} : cs ≠ [] → (∀ d ∈ cs, Digit d) → Fraction ('.' :: cs)

inductive Exponent : List Char → Prop where
  | absent : Exponent []
  | unsigned {letter : Char} {cs : List Char} :
      letter = 'e' ∨ letter = 'E' → cs ≠ [] → (∀ d ∈ cs, Digit d) → Exponent (letter :: cs)
  | signed {letter sign : Char} {cs : List Char} :
      letter = 'e' ∨ letter = 'E' → sign = '+' ∨ sign = '-' → cs ≠ [] → (∀ d ∈ cs, Digit d) →
      Exponent (letter :: sign :: cs)

inductive Scalar : List Char → Prop where
  | null : Scalar ['n', 'u', 'l', 'l']
  | true : Scalar ['t', 'r', 'u', 'e']
  | false : Scalar ['f', 'a', 'l', 's', 'e']
  | number {whole fraction exponent : List Char} :
      Whole whole → Fraction fraction → Exponent exponent → Scalar (whole ++ fraction ++ exponent)
  | negative {whole fraction exponent : List Char} :
      Whole whole → Fraction fraction → Exponent exponent →
      Scalar ('-' :: whole ++ fraction ++ exponent)

theorem Digit.numberChar {c : Char} (h : Digit c) : NumberChar c :=
  Or.inl h

theorem Whole.numberChars {cs : List Char} (h : Whole cs) : cs ≠ [] ∧ ∀ c ∈ cs, NumberChar c := by
  cases h with
  | zero =>
    have hzero : NumberChar '0' := by decide
    exact ⟨by simp, by simpa using hzero⟩
  | digits hc _ hcs =>
    exact ⟨by simp, List.forall_mem_cons.mpr ⟨hc.numberChar, fun d hd => (hcs d hd).numberChar⟩⟩

theorem Fraction.numberChars {cs : List Char} (h : Fraction cs) : ∀ c ∈ cs, NumberChar c := by
  cases h with
  | absent => simp
  | point _ hcs =>
    exact List.forall_mem_cons.mpr ⟨by decide, fun d hd => (hcs d hd).numberChar⟩

theorem Exponent.numberChars {cs : List Char} (h : Exponent cs) : ∀ c ∈ cs, NumberChar c := by
  have hletter : ∀ {c : Char}, c = 'e' ∨ c = 'E' → NumberChar c := by
    rintro c (rfl | rfl) <;> decide
  cases h with
  | absent => simp
  | unsigned he _ hcs =>
    exact List.forall_mem_cons.mpr ⟨hletter he, fun d hd => (hcs d hd).numberChar⟩
  | signed he hsign _ hcs =>
    refine List.forall_mem_cons.mpr ⟨hletter he, List.forall_mem_cons.mpr ⟨?_, ?_⟩⟩
    · rcases hsign with rfl | rfl <;> decide
    · exact fun d hd => (hcs d hd).numberChar

theorem Scalar.name_or_numberChars {cs : List Char} (h : Scalar cs) :
    cs ∈ ["null".toList, "true".toList, "false".toList] ∨ (cs ≠ [] ∧ ∀ c ∈ cs, NumberChar c) := by
  cases h with
  | null => exact Or.inl (by decide)
  | true => exact Or.inl (by decide)
  | false => exact Or.inl (by decide)
  | number hwhole hfraction hexponent =>
    refine Or.inr ⟨by simp [hwhole.numberChars.1], ?_⟩
    rw [List.forall_mem_append, List.forall_mem_append]
    exact ⟨⟨hwhole.numberChars.2, hfraction.numberChars⟩, hexponent.numberChars⟩
  | negative hwhole hfraction hexponent =>
    refine Or.inr ⟨by simp, ?_⟩
    rw [List.forall_mem_append, List.forall_mem_append, List.forall_mem_cons]
    exact ⟨⟨⟨by decide, hwhole.numberChars.2⟩, hfraction.numberChars⟩, hexponent.numberChars⟩

theorem Scalar.word {cs : List Char} (h : Scalar cs) : Word cs := by
  rcases h.name_or_numberChars with hname | ⟨hne, hchars⟩
  · simp only [List.mem_cons, List.not_mem_nil, or_false] at hname
    rcases hname with rfl | rfl | rfl
    · exact word_null
    · exact word_true
    · exact word_false
  · exact word_of_numberChars hne hchars

/-! ## Texts -/

/-- What a stretch of a text is, as in `Part`. -/
inductive Form where
  | value
  | item
  | items
  | member
  | members

/-- The grammar of JSON over the given scalars; strings are made of units, paired or not. -/
inductive Grammar (scalar : List Char → Prop) : Form → List Char → Prop where
  | scalar {cs : List Char} : scalar cs → Grammar scalar .value cs
  | string {body : List Char} {units : List StringUnit} :
      Units body units → Grammar scalar .value ('"' :: body ++ ['"'])
  | emptyArray {gap : List Char} : Blanks gap → Grammar scalar .value ('[' :: gap ++ [']'])
  | array {inner : List Char} :
      Grammar scalar .items inner → Grammar scalar .value ('[' :: inner ++ [']'])
  | emptyObject {gap : List Char} : Blanks gap → Grammar scalar .value ('{' :: gap ++ ['}'])
  | object {inner : List Char} :
      Grammar scalar .members inner → Grammar scalar .value ('{' :: inner ++ ['}'])
  | item {lead text trail : List Char} :
      Blanks lead → Grammar scalar .value text → Blanks trail →
      Grammar scalar .item (lead ++ text ++ trail)
  | lastItem {text : List Char} : Grammar scalar .item text → Grammar scalar .items text
  | moreItems {text more : List Char} :
      Grammar scalar .item text → Grammar scalar .items more →
      Grammar scalar .items (text ++ ',' :: more)
  | member {lead body gap text : List Char} {units : List StringUnit} :
      Blanks lead → Units body units → Blanks gap → Grammar scalar .item text →
      Grammar scalar .member (lead ++ '"' :: body ++ '"' :: gap ++ ':' :: text)
  | lastMember {text : List Char} : Grammar scalar .member text → Grammar scalar .members text
  | moreMembers {text more : List Char} :
      Grammar scalar .member text → Grammar scalar .members more →
      Grammar scalar .members (text ++ ',' :: more)

def JsonText (scalar : List Char → Prop) (text : List Char) : Prop :=
  Grammar scalar .item text

def Part.form : Part → Form
  | .value _ => .value
  | .item _ => .item
  | .items _ => .items
  | .member _ _ => .member
  | .members _ => .members

/-- Documents have the grammar of JSON, with any words for scalars. -/
theorem Derives.grammar {limit depth : Nat} {before text : List Char} {part : Part}
    (h : Derives limit depth before text part) : Grammar Word part.form text := by
  induction h with
  | word _ hword => exact .scalar hword
  | literal _ hspells =>
    obtain ⟨units, hunits, -⟩ := units_of_spells hspells
    exact .string hunits
  | emptyArray _ hgap => exact .emptyArray hgap
  | array _ _ ih => exact .array ih
  | emptyObject _ hgap => exact .emptyObject hgap
  | object _ _ ih => exact .object ih
  | item hlead _ _ htrail ih => exact .item hlead ih htrail
  | lastItem _ ih => exact .lastItem ih
  | moreItems _ _ ih ihmore => exact .moreItems ih ihmore
  | member hlead hspells hgap hgap' _ _ htrail ih =>
    obtain ⟨units, hunits, -⟩ := units_of_spells hspells
    have hmember := Grammar.member hlead hunits hgap (.item hgap' ih htrail)
    simpa [Part.form] using hmember
  | lastMember _ ih => exact .lastMember ih
  | moreMembers _ _ ih ihmore => exact .moreMembers ih ihmore

theorem jsonText_of_ofText? {text : String} {index : LineIndex} (h : ofText? text = some index) :
    JsonText Word (withoutMark text.toList) := by
  obtain ⟨entries, hscan, -⟩ := Option.map_eq_some_iff.mp h
  obtain ⟨outline, ⟨lead, body, trail, hlead, htrail, htext, -, hderives⟩, -⟩ :=
    document_of_scan? hscan
  rw [htext]
  exact .item hlead hderives.grammar htrail

theorem Grammar.bracket_closed {text : List Char} (h : Grammar Scalar .value text)
    (hopen : text.head? = some '[') : ']' ∈ text := by
  cases h with
  | scalar hscalar => exact absurd rfl (hscalar.word.start '[' hopen).2.1
  | string _ => simp at hopen
  | emptyArray _ => simp
  | array _ => simp
  | emptyObject _ => simp at hopen
  | object _ => simp at hopen

theorem not_jsonText_of_unclosed {rest : List Char} (h : ']' ∉ rest) :
    ¬ JsonText Scalar ('[' :: rest) := by
  intro hjson
  have hblank : ∀ {ws : List Char}, Blanks ws → '[' ∉ ws := by
    intro ws hws hmem
    exact absurd (hws '[' hmem) (by decide)
  generalize htext : '[' :: rest = text at hjson
  cases hjson with
  | @item lead body trail hlead hbody htrail =>
    cases lead with
    | cons c lead =>
      obtain ⟨rfl, -⟩ : '[' = c ∧ _ := by simpa using htext
      exact hblank hlead List.mem_cons_self
    | nil =>
      cases body with
      | nil =>
        obtain rfl : '[' :: rest = trail := htext
        exact hblank htrail List.mem_cons_self
      | cons c body =>
        obtain ⟨rfl, rfl⟩ : '[' = c ∧ rest = body ++ trail := by simpa using htext
        have hclosed := hbody.bracket_closed rfl
        exact h (List.mem_append_left trail (by simpa using hclosed))

/-! ## Bare words -/

/-- What the characters so far leave open. -/
inductive Inside where
  | nothing
  /-- Behind a string literal, where a colon may follow. -/
  | behindLiteral
  | literal
  /-- Behind a backslash in a string literal. -/
  | escape
  | word (start : List Char)

/-- A search for bare words: what it is inside of, and the words that have ended. -/
structure WordSearch where
  inside : Inside
  ended : List (List Char)

namespace WordSearch

def next (ended : List (List Char)) (c : Char) : WordSearch :=
  if c = '"' then ⟨.literal, ended⟩
  else if c = '{' || c = '[' || endsScalar c then ⟨.nothing, ended⟩
  else ⟨.word [c], ended⟩

def step (s : WordSearch) (c : Char) : WordSearch :=
  match s.inside with
  | .nothing => next s.ended c
  | .behindLiteral =>
    -- Anywhere else a colon counts as part of a word.
    if c = ':' then ⟨.nothing, s.ended⟩
    else if Text.isJsonBlank c then s
    else next s.ended c
  | .literal =>
    if c = '"' then ⟨.behindLiteral, s.ended⟩
    else if c = '\\' then ⟨.escape, s.ended⟩
    else s
  | .escape => ⟨.literal, s.ended⟩
  | .word start =>
    if endsScalar c then ⟨.nothing, s.ended ++ [start]⟩ else ⟨.word (start ++ [c]), s.ended⟩

def words (s : WordSearch) : List (List Char) :=
  match s.inside with
  | .word start => s.ended ++ [start]
  | _ => s.ended

def Outside (s : WordSearch) : Prop :=
  match s.inside with
  | .literal | .escape => False
  | _ => True

theorem next_of_endsScalar {c : Char} (h : endsScalar c = true) (ended : List (List Char)) :
    next ended c = ⟨.nothing, ended⟩ := by
  have hquote : c ≠ '"' := by
    rintro rfl
    exact absurd h (by decide)
  rw [next, if_neg hquote, if_pos (by simp [h])]

theorem step_closing {s : WordSearch} {c : Char} (hs : s.Outside) (hends : endsScalar c = true)
    (hblank : Text.isJsonBlank c = false) : s.step c = ⟨.nothing, s.words⟩ := by
  obtain ⟨inside, ended⟩ := s
  cases inside with
  | nothing => exact next_of_endsScalar hends ended
  | behindLiteral =>
    have hcolon : c ≠ ':' := by
      rintro rfl
      exact absurd hends (by decide)
    simp only [step, if_neg hcolon, hblank, Bool.false_eq_true, if_false]
    exact next_of_endsScalar hends ended
  | literal => exact hs.elim
  | escape => exact hs.elim
  | word start => simp only [step, hends, if_true, words]

theorem step_between {c : Char} (hblank : Text.isJsonBlank c = true) {inside : Inside}
    (hinside : inside = .nothing ∨ inside = .behindLiteral) (ended : List (List Char)) :
    step ⟨inside, ended⟩ c = ⟨inside, ended⟩ := by
  rcases hinside with rfl | rfl
  · exact next_of_endsScalar (endsScalar_of_isJsonBlank hblank) ended
  · have hcolon : c ≠ ':' := by
      rintro rfl
      exact absurd hblank (by decide)
    simp only [step, if_neg hcolon, hblank, if_true]

theorem foldl_between {gap : List Char} (hgap : Blanks gap) {inside : Inside}
    (hinside : inside = .nothing ∨ inside = .behindLiteral) (ended : List (List Char)) :
    gap.foldl step ⟨inside, ended⟩ = ⟨inside, ended⟩ := by
  induction gap with
  | nil => rfl
  | cons c gap ih =>
    have hblank := isJsonBlank_iff.mpr (hgap c List.mem_cons_self)
    rw [List.foldl_cons, step_between hblank hinside]
    exact ih fun d hd => hgap d (List.mem_cons_of_mem c hd)

theorem step_blank {s : WordSearch} {c : Char} (hs : s.Outside)
    (hblank : Text.isJsonBlank c = true) :
    (s.step c).Outside ∧ (s.step c).words = s.words := by
  obtain ⟨inside, ended⟩ := s
  cases inside with
  | nothing =>
    rw [step_between hblank (Or.inl rfl)]
    exact ⟨trivial, rfl⟩
  | behindLiteral =>
    rw [step_between hblank (Or.inr rfl)]
    exact ⟨trivial, rfl⟩
  | literal => exact hs.elim
  | escape => exact hs.elim
  | word start =>
    simp only [step, endsScalar_of_isJsonBlank hblank, if_true, Outside, words, and_self]

theorem foldl_blanks {gap : List Char} (hgap : Blanks gap) {s : WordSearch} (hs : s.Outside) :
    (gap.foldl step s).Outside ∧ (gap.foldl step s).words = s.words := by
  induction gap generalizing s with
  | nil => exact ⟨hs, rfl⟩
  | cons c gap ih =>
    have hgap' : Blanks gap := fun d hd => hgap d (List.mem_cons_of_mem c hd)
    have hblank := isJsonBlank_iff.mpr (hgap c List.mem_cons_self)
    obtain ⟨hstep, hwords⟩ := step_blank hs hblank
    obtain ⟨hout, hall⟩ := ih hgap' hstep
    exact ⟨hout, hall.trans hwords⟩

theorem foldl_plain {cs : List Char} (h : ∀ c ∈ cs, c ≠ '"' ∧ c ≠ '\\') (ended : List (List Char)) :
    cs.foldl step ⟨.literal, ended⟩ = ⟨.literal, ended⟩ := by
  induction cs with
  | nil => rfl
  | cons c cs ih =>
    rw [List.forall_mem_cons] at h
    have hstep : step ⟨.literal, ended⟩ c = ⟨.literal, ended⟩ := by
      simp only [step, if_neg h.1.1, if_neg h.1.2]
    rw [List.foldl_cons, hstep, ih h.2]

theorem foldl_literal {body : List Char} {units : List StringUnit} (h : Units body units)
    (ended : List (List Char)) : body.foldl step ⟨.literal, ended⟩ = ⟨.literal, ended⟩ := by
  induction h with
  | nil => rfl
  | @plain c body units _ hquote hslash _ ih =>
    have hplain : ∀ d ∈ [c], d ≠ '"' ∧ d ≠ '\\' := by simpa using ⟨hquote, hslash⟩
    rw [← List.singleton_append, List.foldl_append, foldl_plain hplain, ih]
  | escape _ _ ih => exact ih
  | @code a b c d n body units hn _ ih =>
    have hplain : ∀ e ∈ [a, b, c, d], e ≠ '"' ∧ e ≠ '\\' := by
      intro e he
      obtain ⟨m, hm⟩ := hexDigits_of_fourHex? hn e he
      exact (ne_of_hexDigit? hm).2
    change ([a, b, c, d] ++ body).foldl step ⟨.literal, ended⟩ = _
    rw [List.foldl_append, foldl_plain hplain, ih]

theorem foldl_word {cs : List Char} (h : ∀ c ∈ cs, endsScalar c = false) (start : List Char)
    (ended : List (List Char)) :
    cs.foldl step ⟨.word start, ended⟩ = ⟨.word (start ++ cs), ended⟩ := by
  induction cs generalizing start with
  | nil => rw [List.foldl_nil, List.append_nil]
  | cons c cs ih =>
    rw [List.forall_mem_cons] at h
    have hstep : step ⟨.word start, ended⟩ c = ⟨.word (start ++ [c]), ended⟩ := by
      simp only [step, h.1, Bool.false_eq_true, if_false]
    rw [List.foldl_cons, hstep, ih h.2, List.append_assoc, List.singleton_append]

end WordSearch

/-- The runs of characters that stand outside of string literals, between brackets, commas and
blanks; a colon behind a string literal belongs to none. -/
def bareWords (text : List Char) : List (List Char) :=
  (text.foldl WordSearch.step ⟨.nothing, []⟩).words

/-- Between two tokens, the search goes over the text and finds these words. -/
def HasWords (text : List Char) (words : List (List Char)) : Prop :=
  ∀ ended, (text.foldl WordSearch.step ⟨.nothing, ended⟩).Outside ∧
    (text.foldl WordSearch.step ⟨.nothing, ended⟩).words = ended ++ words

namespace HasWords

open WordSearch

theorem bareWords_eq {text : List Char} {words : List (List Char)} (h : HasWords text words) :
    bareWords text = words :=
  (h []).2

theorem word {cs : List Char} (h : Word cs) : HasWords cs [cs] := by
  intro ended
  cases cs with
  | nil => exact absurd rfl h.nonempty
  | cons c cs =>
    have hpass : ∀ d ∈ c :: cs, endsScalar d = false :=
      fun d hd => endsScalar_eq_false_iff.mpr (h.unbroken d hd)
    rw [List.forall_mem_cons] at hpass
    obtain ⟨hbrace, hbracket, hquote⟩ := h.start c rfl
    have hstart : WordSearch.step ⟨.nothing, ended⟩ c = ⟨.word [c], ended⟩ := by
      simp [WordSearch.step, next, hquote, hbrace, hbracket, hpass.1]
    rw [List.foldl_cons, hstart, foldl_word hpass.2]
    exact ⟨trivial, rfl⟩

theorem literal {body : List Char} {units : List StringUnit} (h : Units body units) :
    HasWords ('"' :: body ++ ['"']) [] := by
  intro ended
  have hopen : WordSearch.step ⟨.nothing, ended⟩ '"' = ⟨.literal, ended⟩ := rfl
  rw [List.cons_append, List.foldl_cons, hopen, List.foldl_append, foldl_literal h]
  exact ⟨trivial, (List.append_nil ended).symm⟩

theorem blanks {gap : List Char} (h : Blanks gap) : HasWords gap [] := by
  intro ended
  rw [foldl_between h (Or.inl rfl)]
  exact ⟨trivial, (List.append_nil ended).symm⟩

theorem opening {c : Char} (hc : c = '[' ∨ c = '{') {text : List Char} {words : List (List Char)}
    (h : HasWords text words) : HasWords (c :: text) words := by
  intro ended
  have hopen : WordSearch.step ⟨.nothing, ended⟩ c = ⟨.nothing, ended⟩ := by
    rcases hc with rfl | rfl <;> rfl
  rw [List.foldl_cons, hopen]
  exact h ended

/-- A comma or a closing bracket parts what stands before it from what follows. -/
theorem closing {c : Char} (hc : endsScalar c = true ∧ Text.isJsonBlank c = false)
    {text more : List Char} {words others : List (List Char)} (h : HasWords text words)
    (hmore : HasWords more others) : HasWords (text ++ c :: more) (words ++ others) := by
  intro ended
  obtain ⟨hout, hwords⟩ := h ended
  rw [List.foldl_append, List.foldl_cons, step_closing hout hc.1 hc.2, hwords, ← List.append_assoc]
  exact hmore (ended ++ words)

theorem closed {c : Char} (hc : endsScalar c = true ∧ Text.isJsonBlank c = false)
    {text : List Char} {words : List (List Char)} (h : HasWords text words) :
    HasWords (text ++ [c]) words := by
  have hclosing := h.closing hc (blanks blanks_nil)
  rwa [List.append_nil] at hclosing

theorem spaced {lead text trail : List Char} {words : List (List Char)} (hlead : Blanks lead)
    (h : HasWords text words) (htrail : Blanks trail) : HasWords (lead ++ text ++ trail) words := by
  intro ended
  obtain ⟨hout, hwords⟩ := h ended
  obtain ⟨hall, hsame⟩ := foldl_blanks htrail hout
  rw [List.foldl_append, List.foldl_append, foldl_between hlead (Or.inl rfl)]
  exact ⟨hall, hsame.trans hwords⟩

theorem member {lead body gap text : List Char} {units : List StringUnit}
    {words : List (List Char)} (hlead : Blanks lead) (hbody : Units body units) (hgap : Blanks gap)
    (h : HasWords text words) :
    HasWords (lead ++ '"' :: body ++ '"' :: gap ++ ':' :: text) words := by
  intro ended
  have hopen : WordSearch.step ⟨.nothing, ended⟩ '"' = ⟨.literal, ended⟩ := rfl
  have hclose : WordSearch.step ⟨.literal, ended⟩ '"' = ⟨.behindLiteral, ended⟩ := rfl
  have hcolon : WordSearch.step ⟨.behindLiteral, ended⟩ ':' = ⟨.nothing, ended⟩ := rfl
  simp only [List.foldl_append, List.foldl_cons, foldl_between hlead (Or.inl rfl), hopen,
    foldl_literal hbody, hclose, foldl_between hgap (Or.inr rfl), hcolon]
  exact h ended

end HasWords

/-- The words of a text are the scalars that the grammar takes it apart into, and others may take
their place. -/
theorem Grammar.exists_words {scalar : List Char → Prop} (hscalar : ∀ cs, scalar cs → Word cs)
    {form : Form} {text : List Char} (h : Grammar scalar form text) :
    ∃ words, HasWords text words ∧ (∀ w ∈ words, scalar w) ∧
      ∀ other : List Char → Prop, (∀ w ∈ words, other w) → Grammar other form text := by
  have hcomma : endsScalar ',' = true ∧ Text.isJsonBlank ',' = false := by decide
  have hbracket : endsScalar ']' = true ∧ Text.isJsonBlank ']' = false := by decide
  have hbrace : endsScalar '}' = true ∧ Text.isJsonBlank '}' = false := by decide
  -- Taking the text apart again with other scalars is part of the induction, since the grammar does
  -- not say which of two derivations the words came from.
  induction h with
  | @scalar cs hcs =>
    exact ⟨[cs], .word (hscalar cs hcs), by simpa using hcs,
      fun other hother => .scalar (hother cs List.mem_cons_self)⟩
  | string hbody => exact ⟨[], .literal hbody, by simp, fun _ _ => .string hbody⟩
  | emptyArray hgap =>
    exact ⟨[], .opening (Or.inl rfl) ((HasWords.blanks hgap).closed hbracket), by simp,
      fun _ _ => .emptyArray hgap⟩
  | array _ ih =>
    obtain ⟨words, hwords, hall, hother⟩ := ih
    exact ⟨words, .opening (Or.inl rfl) (hwords.closed hbracket), hall,
      fun other h => .array (hother other h)⟩
  | emptyObject hgap =>
    exact ⟨[], .opening (Or.inr rfl) ((HasWords.blanks hgap).closed hbrace), by simp,
      fun _ _ => .emptyObject hgap⟩
  | object _ ih =>
    obtain ⟨words, hwords, hall, hother⟩ := ih
    exact ⟨words, .opening (Or.inr rfl) (hwords.closed hbrace), hall,
      fun other h => .object (hother other h)⟩
  | item hlead _ htrail ih =>
    obtain ⟨words, hwords, hall, hother⟩ := ih
    exact ⟨words, .spaced hlead hwords htrail, hall,
      fun other h => .item hlead (hother other h) htrail⟩
  | lastItem _ ih =>
    obtain ⟨words, hwords, hall, hother⟩ := ih
    exact ⟨words, hwords, hall, fun other h => .lastItem (hother other h)⟩
  | moreItems _ _ ih ihmore =>
    obtain ⟨words, hwords, hall, hother⟩ := ih
    obtain ⟨more, hmore, hallmore, hothermore⟩ := ihmore
    refine ⟨words ++ more, hwords.closing hcomma hmore, List.forall_mem_append.mpr ⟨hall, hallmore⟩,
      fun other h => ?_⟩
    rw [List.forall_mem_append] at h
    exact .moreItems (hother other h.1) (hothermore other h.2)
  | member hlead hbody hgap _ ih =>
    obtain ⟨words, hwords, hall, hother⟩ := ih
    exact ⟨words, .member hlead hbody hgap hwords, hall,
      fun other h => .member hlead hbody hgap (hother other h)⟩
  | lastMember _ ih =>
    obtain ⟨words, hwords, hall, hother⟩ := ih
    exact ⟨words, hwords, hall, fun other h => .lastMember (hother other h)⟩
  | moreMembers _ _ ih ihmore =>
    obtain ⟨words, hwords, hall, hother⟩ := ih
    obtain ⟨more, hmore, hallmore, hothermore⟩ := ihmore
    refine ⟨words ++ more, hwords.closing hcomma hmore, List.forall_mem_append.mpr ⟨hall, hallmore⟩,
      fun other h => ?_⟩
    rw [List.forall_mem_append] at h
    exact .moreMembers (hother other h.1) (hothermore other h.2)

/-- A text is well formed if its structure is that of JSON and all of its bare words are scalars. -/
theorem jsonText_scalar_iff {text : List Char} :
    JsonText Scalar text ↔ JsonText Word text ∧ ∀ w ∈ bareWords text, Scalar w := by
  constructor
  · intro h
    obtain ⟨words, hwords, hall, hother⟩ := Grammar.exists_words (fun _ => Scalar.word) h
    rw [hwords.bareWords_eq]
    exact ⟨hother Word fun w hw => (hall w hw).word, hall⟩
  · rintro ⟨h, hall⟩
    obtain ⟨words, hwords, -, hother⟩ := Grammar.exists_words (fun _ hw => hw) h
    rw [hwords.bareWords_eq] at hall
    exact hother Scalar hall

end LineIndex

namespace Template

open LineIndex

/-- A text that is not well formed is rejected, and the template has the lines of the pretty layout,
unless the text is only well formed but for bare words that are no scalars. -/
theorem lineIndex_of_malformed (t : Template) (text : String) (htext : t.text = some text)
    (hmalformed : ¬ JsonText Scalar (withoutMark text.toList))
    (hwords : JsonText Word (withoutMark text.toList) →
      ∀ w ∈ bareWords (withoutMark text.toList), Scalar w) :
    ofText? text = none ∧
      ∀ path, t.lineIndex.resolve path = (LineIndex.ofValue t.expanded).resolve path := by
  have hrejected : ofText? text = none := by
    by_contra hsome
    obtain ⟨index, hindex⟩ := Option.ne_none_iff_exists'.mp hsome
    have hstructure := jsonText_of_ofText? hindex
    exact hmalformed (jsonText_scalar_iff.mpr ⟨hstructure, hwords hstructure⟩)
  refine ⟨hrejected, ?_⟩
  intro path
  rw [lineIndex, htext, Option.bind_some, hrejected]

/-- An array that is not closed. -/
theorem lineIndex_of_malformed_unclosed :
    let t : Template := { expanded := .object [("a", .null)], text := some "[7" }
    ¬ JsonText Scalar (withoutMark "[7".toList) ∧ ofText? "[7" = none ∧
      t.lineIndex.resolve "a" = (LineIndex.ofValue t.expanded).resolve "a" := by
  intro t
  have hmalformed : ¬ JsonText Scalar (withoutMark "[7".toList) :=
    not_jsonText_of_unclosed (by decide)
  have hdigit : Whole ['7'] := .digits ⟨by decide, by decide⟩ (by decide) (by simp)
  have hseven : Scalar ['7'] := .number hdigit .absent .absent
  have hwords : ∀ w ∈ bareWords (withoutMark "[7".toList), Scalar w := by
    rw [show bareWords (withoutMark "[7".toList) = [['7']] by decide]
    simpa using hseven
  obtain ⟨hrejected, hlines⟩ :=
    lineIndex_of_malformed t "[7" rfl hmalformed fun _ => hwords
  exact ⟨hmalformed, hrejected, hlines "a"⟩

/-- A cut-off literal name is accepted, and a line is read off the text that is not the one in the
pretty layout. -/
theorem accepted_though_malformed :
    let text := "\x7b \"a\": tru \x7d"
    let t : Template := { expanded := .object [("a", .bool true)], text := some text }
    ¬ JsonText Scalar (withoutMark text.toList) ∧ (ofText? text).isSome = true ∧
      t.lineIndex.resolve "a" = 1 ∧ (LineIndex.ofValue t.expanded).resolve "a" = 2 := by
  intro text t
  have hparse : Path.parse? "a" = some [.key "a"] := by decide +kernel
  have hindex : ofText? text = some (ofEntries [("a", 1)]) := by
    have hscan : scan? (withoutMark text.toList) = some [("a", 1)] := by decide +kernel
    rw [ofText?, hscan, Option.map_some]
  have hword : ['t', 'r', 'u'] ∈ bareWords (withoutMark text.toList) := by decide
  refine ⟨?_, by rw [hindex, Option.isSome_some], ?_, ?_⟩
  · intro hjson
    rcases ((jsonText_scalar_iff.mp hjson).2 _ hword).name_or_numberChars with hname | ⟨-, hchars⟩
    · exact absurd hname (by decide)
    · exact absurd (hchars 't' List.mem_cons_self) (by decide)
  · have hlines : t.lineIndex = ofEntries [("a", 1)] := by
      rw [lineIndex, Option.bind_some, hindex]
    rw [hlines]
    apply resolve_of_line? hparse
    rw [line?, ofEntries_getElem?]
    decide +kernel
  · apply resolve_of_line? hparse
    rw [line?, LineIndex.ofValue, ofEntries_getElem?]
    decide +kernel

end Template

end TemplateAudit
