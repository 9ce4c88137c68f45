import TemplateAudit.Json.Printer
import TemplateAudit.Json.Reader
import TemplateAudit.LineIndex.Scan

/-!
# String literals

`Spells` is the grammar of the text between the quotes of a string literal, together with the
characters that the text stands for. The strict reader accepts exactly the literals of this grammar,
the line scanner cuts them out of a text at the right quote, and the printer writes a spelling of
every string that holds no line break.
-/

namespace TemplateAudit.Json

set_option autoImplicit false

open Written

/-- The characters `value` can be written as `body` between quotes: as they are, by an escape, or by
one or two 16-bit units, of which two make up a character beyond them. -/
inductive Spells : List Char → List Char → Prop where
  | nil : Spells [] []
  | plain {c : Char} {body value : List Char} :
      32 ≤ c.toNat → c ≠ '"' → c ≠ '\\' → Spells body value → Spells (c :: body) (c :: value)
  | escape {letter c : Char} {body value : List Char} :
      escaped? letter = some c → Spells body value →
      Spells ('\\' :: letter :: body) (c :: value)
  | unit {a b c d : Char} {n : Nat} {body value : List Char} :
      fourHex? a b c d = some n → isHighSurrogate n = false → isLowSurrogate n = false →
      Spells body value →
      Spells ('\\' :: 'u' :: a :: b :: c :: d :: body) (Char.ofNat n :: value)
  | pair {a b c d e f g h : Char} {high low : Nat} {body value : List Char} :
      fourHex? a b c d = some high → isHighSurrogate high = true →
      fourHex? e f g h = some low → isLowSurrogate low = true → Spells body value →
      Spells ('\\' :: 'u' :: a :: b :: c :: d :: '\\' :: 'u' :: e :: f :: g :: h :: body)
        (Char.ofNat (0x10000 + (high - 0xD800) * 0x400 + (low - 0xDC00)) :: value)

/-- The units that a body is made of, before surrogates are put together. -/
inductive Units : List Char → List StringUnit → Prop where
  | nil : Units [] []
  | plain {c : Char} {body : List Char} {units : List StringUnit} :
      32 ≤ c.toNat → c ≠ '"' → c ≠ '\\' → Units body units → Units (c :: body) (.char c :: units)
  | escape {letter c : Char} {body : List Char} {units : List StringUnit} :
      escaped? letter = some c → Units body units →
      Units ('\\' :: letter :: body) (.char c :: units)
  | code {a b c d : Char} {n : Nat} {body : List Char} {units : List StringUnit} :
      fourHex? a b c d = some n → Units body units →
      Units ('\\' :: 'u' :: a :: b :: c :: d :: body) (.code n :: units)

theorem escaped?_u : escaped? 'u' = none := by decide

theorem stringUnits?_plain {c : Char} (hc : 32 ≤ c.toNat) (hq : c ≠ '"') (hb : c ≠ '\\')
    (rest : List Char) :
    stringUnits? (c :: rest) = (stringUnits? rest).map fun (units, after) => (.char c :: units, after) := by
  rw [stringUnits?]
  · simp only [hb, decide_false, Bool.or_false, decide_eq_true_eq, if_neg (Nat.not_lt.mpr hc)]
  · simpa using hq
  · intros; simp_all
  · intros; simp_all

theorem stringUnits?_escape {letter c : Char} (he : escaped? letter = some c) (rest : List Char) :
    stringUnits? ('\\' :: letter :: rest) =
      (stringUnits? rest).map fun (units, after) => (.char c :: units, after) := by
  have hu : letter ≠ 'u' := by
    rintro rfl
    simp [escaped?_u] at he
  rw [stringUnits?]
  · rw [he]
    cases stringUnits? rest <;> rfl
  · intros; simp_all

theorem stringUnits?_code {a b c d : Char} {n : Nat} (hn : fourHex? a b c d = some n)
    (rest : List Char) :
    stringUnits? ('\\' :: 'u' :: a :: b :: c :: d :: rest) =
      (stringUnits? rest).map fun (units, after) => (.code n :: units, after) := by
  rw [stringUnits?, hn]
  cases stringUnits? rest <;> rfl

theorem stringUnits?_of_units {body : List Char} {units : List StringUnit} (h : Units body units)
    (after : List Char) : stringUnits? (body ++ '"' :: after) = some (units, after) := by
  induction h with
  | nil => rfl
  | plain hc hq hb _ ih => rw [List.cons_append, stringUnits?_plain hc hq hb, ih]; rfl
  | escape he _ ih => rw [List.cons_append, List.cons_append, stringUnits?_escape he, ih]; rfl
  | code hn _ ih => simp only [List.cons_append, stringUnits?_code hn, ih, Option.map_some]

theorem units_of_stringUnits? {cs after : List Char} {units : List StringUnit}
    (h : stringUnits? cs = some (units, after)) :
    ∃ body, cs = body ++ '"' :: after ∧ Units body units := by
  fun_induction stringUnits? cs generalizing units after with
  | case1 => simp at h
  | case2 rest =>
    obtain ⟨rfl, rfl⟩ : [] = units ∧ rest = after := by simpa using h
    exact ⟨[], rfl, .nil⟩
  | case3 a b c d rest n us tail hrest hn ih =>
    obtain ⟨rfl, rfl⟩ : .code n :: us = units ∧ tail = after := by simpa using h
    obtain ⟨body, rfl, hbody⟩ := ih hrest
    exact ⟨_, rfl, .code hn hbody⟩
  | case4 => simp at h
  | case5 c rest _ e us tail hrest he ih =>
    obtain ⟨rfl, rfl⟩ : .char e :: us = units ∧ tail = after := by simpa using h
    obtain ⟨body, rfl, hbody⟩ := ih hrest
    exact ⟨_, rfl, .escape he hbody⟩
  | case6 => simp at h
  | case7 => simp at h
  | case8 c rest hquote _ _ hc ih =>
    obtain ⟨⟨us, tail⟩, hrest, heq⟩ := Option.map_eq_some_iff.mp h
    obtain ⟨rfl, rfl⟩ : .char c :: us = units ∧ tail = after := by simpa using heq
    obtain ⟨body, rfl, hbody⟩ := ih hrest
    simp only [Bool.or_eq_true, decide_eq_true_eq, not_or, Nat.not_lt] at hc
    exact ⟨c :: body, rfl, .plain hc.1 (fun hq => hquote hq) hc.2 hbody⟩

theorem spells_of_units {units : List StringUnit} {body value : List Char} (h : Units body units)
    (hd : decodeUnits? units = some value) : Spells body value := by
  fun_induction decodeUnits? units generalizing body value with
  | case1 =>
    obtain rfl : [] = value := by simpa using hd
    cases h
    exact .nil
  | case2 c rest ih =>
    obtain ⟨tail, htail, rfl⟩ := Option.map_eq_some_iff.mp hd
    cases h with
    | plain hc hq hb hrest => exact .plain hc hq hb (ih hrest htail)
    | escape he hrest => exact .escape he (ih hrest htail)
  | case3 high low rest hhigh hlow ih =>
    obtain ⟨tail, htail, rfl⟩ := Option.map_eq_some_iff.mp hd
    cases h with
    | code hn hrest =>
      cases hrest with
      | code hm hrest => exact .pair hn hhigh hm hlow (ih hrest htail)
  | case4 => simp at hd
  | case5 => simp at hd
  | case6 n low rest hhigh hlow ih =>
    obtain ⟨tail, htail, rfl⟩ := Option.map_eq_some_iff.mp hd
    cases h with
    | code hn hrest => exact .unit hn (by simpa using hhigh) (by simpa using hlow) (ih hrest htail)
  | case7 => simp at hd
  | case8 n rest _ hn ih =>
    obtain ⟨tail, htail, rfl⟩ := Option.map_eq_some_iff.mp hd
    simp only [Bool.or_eq_true, not_or, Bool.not_eq_true] at hn
    cases h with
    | code hunit hrest => exact .unit hunit hn.1 hn.2 (ih hrest htail)

theorem decodeUnits?_code {n : Nat} (hhigh : isHighSurrogate n = false)
    (hlow : isLowSurrogate n = false) (units : List StringUnit) :
    decodeUnits? (.code n :: units) = (decodeUnits? units).map (Char.ofNat n :: ·) := by
  rw [decodeUnits?.eq_def]
  split <;> simp_all

theorem units_of_spells {body value : List Char} (h : Spells body value) :
    ∃ units, Units body units ∧ decodeUnits? units = some value := by
  induction h with
  | nil => exact ⟨[], .nil, rfl⟩
  | @plain c _ _ hc hq hb _ ih =>
    obtain ⟨units, hunits, hd⟩ := ih
    exact ⟨.char c :: units, .plain hc hq hb hunits, by simp [decodeUnits?, hd]⟩
  | @escape _ c _ _ he _ ih =>
    obtain ⟨units, hunits, hd⟩ := ih
    exact ⟨.char c :: units, .escape he hunits, by simp [decodeUnits?, hd]⟩
  | @unit _ _ _ _ n _ _ hn hhigh hlow _ ih =>
    obtain ⟨units, hunits, hd⟩ := ih
    exact ⟨.code n :: units, .code hn hunits, by simp [decodeUnits?_code hhigh hlow, hd]⟩
  | @pair _ _ _ _ _ _ _ _ high low _ _ hn hhigh hm hlow _ ih =>
    obtain ⟨units, hunits, hd⟩ := ih
    exact ⟨.code high :: .code low :: units, .code hn (.code hm hunits),
      by simp [decodeUnits?, hhigh, hlow, hd]⟩

/-- The strict reader decodes exactly the spellings, and stops at the first quote that is not part
of one. -/
theorem stringUnits?_decode_iff {cs after : List Char} {value : String} :
    (∃ units, stringUnits? cs = some (units, after) ∧ decodeString? units = some value) ↔
      ∃ body, cs = body ++ '"' :: after ∧ Spells body value.toList := by
  constructor
  · rintro ⟨units, hunits, hd⟩
    obtain ⟨body, rfl, hbody⟩ := units_of_stringUnits? hunits
    obtain ⟨chars, hchars, rfl⟩ := Option.map_eq_some_iff.mp hd
    exact ⟨body, rfl, by simpa using spells_of_units hbody hchars⟩
  · rintro ⟨body, rfl, hbody⟩
    obtain ⟨units, hunits, hd⟩ := units_of_spells hbody
    exact ⟨units, stringUnits?_of_units hunits after, by simp [decodeString?, hd]⟩

theorem ne_of_hexDigit? {c : Char} {n : Nat} (h : hexDigit? c = some n) :
    c ≠ '\n' ∧ c ≠ '"' ∧ c ≠ '\\' := by
  refine ⟨?_, ?_, ?_⟩ <;> rintro rfl <;> simp [hexDigit?] at h

theorem hexDigits_of_fourHex? {a b c d : Char} {n : Nat} (h : fourHex? a b c d = some n) :
    ∀ x ∈ [a, b, c, d], ∃ m, hexDigit? x = some m := by
  unfold fourHex? at h
  split at h
  · rename_i ha hb hc hd
    simpa using ⟨⟨_, ha⟩, ⟨_, hb⟩, ⟨_, hc⟩, ⟨_, hd⟩⟩
  · simp at h

theorem not_mem_of_fourHex? {a b c d : Char} {n : Nat} (h : fourHex? a b c d = some n) :
    '\n' ∉ [a, b, c, d] := by
  intro hmem
  obtain ⟨m, hm⟩ := hexDigits_of_fourHex? h _ hmem
  exact (ne_of_hexDigit? hm).1 rfl

theorem Spells.newline_not_mem {body value : List Char} (h : Spells body value) : '\n' ∉ body := by
  induction h with
  | nil => simp
  | plain hc _ _ _ ih =>
    simp only [List.mem_cons, not_or]
    refine ⟨?_, ih⟩
    rintro rfl
    simp at hc
  | escape he _ ih =>
    simp only [List.mem_cons, not_or]
    refine ⟨by decide, ?_, ih⟩
    rintro rfl
    simp [escaped?] at he
  | unit hn _ _ _ ih =>
    have hdigits := not_mem_of_fourHex? hn
    simp_all
  | pair hn _ hm _ _ ih =>
    have hfirst := not_mem_of_fourHex? hn
    have hsecond := not_mem_of_fourHex? hm
    simp_all

theorem hexDigit?_hexChar {n : Nat} (h : n < 16) : hexDigit? (hexChar n) = some n := by
  revert n
  decide

theorem fourHex?_control {n : Nat} (h : n < 32) :
    fourHex? '0' '0' (hexChar (n / 16)) (hexChar (n % 16)) = some n := by
  have hhigh := hexDigit?_hexChar (show n / 16 < 16 by omega)
  have hlow := hexDigit?_hexChar (Nat.mod_lt n (show 16 > 0 by omega))
  have hzero : hexDigit? '0' = some 0 := by decide
  simp only [fourHex?, hzero, hhigh, hlow, Option.some.injEq]
  omega

theorem surrogate_of_control {n : Nat} (h : n < 32) :
    isHighSurrogate n = false ∧ isLowSurrogate n = false := by
  simp only [isHighSurrogate, isLowSurrogate, Bool.and_eq_false_iff, decide_eq_false_iff_not]
  omega

theorem spells_escapeChar (c : Char) {body value : List Char} (h : Spells body value) :
    Spells (escapeChar c ++ body) (c :: value) := by
  have named : ∀ (letter : Char) (n : Nat), c.toNat = n → escaped? letter = some (Char.ofNat n) →
      Spells ('\\' :: letter :: body) (c :: value) := by
    intro letter n hn he
    rw [← hn, Char.ofNat_toNat] at he
    exact .escape he h
  unfold escapeChar
  split
  · subst c
    exact .escape (by decide) h
  split
  · subst c
    exact .escape (by decide) h
  split
  · exact named 'b' 8 ‹_› (by decide)
  split
  · exact named 't' 9 ‹_› (by decide)
  split
  · exact named 'n' 10 ‹_› (by decide)
  split
  · exact named 'f' 12 ‹_› (by decide)
  split
  · exact named 'r' 13 ‹_› (by decide)
  split
  · rename_i hcontrol
    obtain ⟨hhigh, hlow⟩ := surrogate_of_control hcontrol
    simpa using Spells.unit (fourHex?_control hcontrol) hhigh hlow h
  · exact .plain (by omega) ‹_› ‹_› h

/-- The printer writes a spelling of every string. -/
theorem spells_flatMap_escapeChar (cs : List Char) : Spells (cs.flatMap escapeChar) cs := by
  induction cs with
  | nil => exact .nil
  | cons c rest ih =>
    rw [List.flatMap_cons]
    exact spells_escapeChar c ih

end TemplateAudit.Json

namespace TemplateAudit.LineIndex

set_option autoImplicit false

open Json

theorem splitLiteral?_plain {c : Char} (hq : c ≠ '"') (hb : c ≠ '\\') (rest : List Char) :
    splitLiteral? (c :: rest) =
      (splitLiteral? rest).map fun (body, after) => (c :: body, after) := by
  rw [splitLiteral?]
  · rw [if_neg hb]
  · simpa using hq
  · intros; simp_all

theorem splitLiteral?_hex {c : Char} {n : Nat} (h : Written.hexDigit? c = some n)
    (rest : List Char) :
    splitLiteral? (c :: rest) =
      (splitLiteral? rest).map fun (body, after) => (c :: body, after) :=
  splitLiteral?_plain (ne_of_hexDigit? h).2.1 (ne_of_hexDigit? h).2.2 rest

theorem splitLiteral?_fourHex {a b c d : Char} {n : Nat} (h : Written.fourHex? a b c d = some n)
    (rest : List Char) :
    splitLiteral? ('\\' :: 'u' :: a :: b :: c :: d :: rest) =
      (splitLiteral? rest).map fun (body, after) =>
        ('\\' :: 'u' :: a :: b :: c :: d :: body, after) := by
  have hhex := hexDigits_of_fourHex? h
  simp only [List.mem_cons, List.not_mem_nil, or_false, forall_eq_or_imp, forall_eq] at hhex
  obtain ⟨⟨_, ha⟩, ⟨_, hb⟩, ⟨_, hc⟩, ⟨_, hd⟩⟩ := hhex
  rw [splitLiteral?, splitLiteral?_hex ha, splitLiteral?_hex hb, splitLiteral?_hex hc,
    splitLiteral?_hex hd]
  cases splitLiteral? rest <;> rfl

theorem splitLiteral?_of_spells {body value : List Char} (h : Spells body value)
    (after : List Char) : splitLiteral? (body ++ '"' :: after) = some (body, after) := by
  induction h with
  | nil => rfl
  | plain _ hq hb _ ih => rw [List.cons_append, splitLiteral?_plain hq hb, ih]; rfl
  | escape _ _ ih => simp only [List.cons_append, splitLiteral?, ih, Option.map_some]
  | unit hn _ _ _ ih => simp only [List.cons_append, splitLiteral?_fourHex hn, ih, Option.map_some]
  | pair hn _ hm _ _ ih =>
    simp only [List.cons_append, splitLiteral?_fourHex hn, splitLiteral?_fourHex hm, ih,
      Option.map_some]

theorem eq_of_splitLiteral? {cs body after : List Char}
    (h : splitLiteral? cs = some (body, after)) : cs = body ++ '"' :: after := by
  fun_induction splitLiteral? cs generalizing body after with
  | case1 => simp at h
  | case2 rest =>
    obtain ⟨rfl, rfl⟩ : [] = body ∧ rest = after := by simpa using h
    rfl
  | case3 c rest ih =>
    obtain ⟨⟨inner, tail⟩, hrest, heq⟩ := Option.map_eq_some_iff.mp h
    obtain ⟨rfl, rfl⟩ : '\\' :: c :: inner = body ∧ tail = after := by simpa using heq
    rw [ih hrest]
    rfl
  | case4 => simp at h
  | case5 c rest _ _ _ ih =>
    obtain ⟨⟨inner, tail⟩, hrest, heq⟩ := Option.map_eq_some_iff.mp h
    obtain ⟨rfl, rfl⟩ : c :: inner = body ∧ tail = after := by simpa using heq
    rw [ih hrest]
    rfl

theorem decodeBody?_eq_some_iff {body : List Char} {s : String} :
    decodeBody? body = some s ↔ Spells body s.toList := by
  constructor
  · intro h
    unfold decodeBody? at h
    split at h
    · rename_i units hunits
      obtain ⟨inner, heq, hinner⟩ := stringUnits?_decode_iff.mp ⟨units, hunits, h⟩
      rwa [List.append_cancel_right heq]
    · simp at h
  · intro h
    obtain ⟨units, hunits, hd⟩ : ∃ units, Written.stringUnits? (body ++ ['"']) = some (units, []) ∧
        decodeString? units = some s := stringUnits?_decode_iff.mpr ⟨body, rfl, h⟩
    simp only [decodeBody?, hunits, hd]

/-- The scanner reads a literal exactly where its grammar has one. -/
theorem literal?_eq_some_iff {cs after : List Char} {s : String} :
    literal? cs = some (s, after) ↔
      ∃ body, cs = '"' :: body ++ '"' :: after ∧ Spells body s.toList := by
  constructor
  · intro h
    unfold literal? at h
    split at h
    · rename_i rest
      split at h
      · rename_i body tail hsplit
        obtain ⟨text, htext, heq⟩ := Option.map_eq_some_iff.mp h
        obtain ⟨rfl, rfl⟩ : text = s ∧ tail = after := by simpa using heq
        exact ⟨body, by rw [eq_of_splitLiteral? hsplit]; rfl, decodeBody?_eq_some_iff.mp htext⟩
      · simp at h
    · simp at h
  · rintro ⟨body, rfl, hbody⟩
    have hdecode := decodeBody?_eq_some_iff.mpr hbody
    simp only [List.cons_append, literal?, splitLiteral?_of_spells hbody, hdecode, Option.map_some]

end TemplateAudit.LineIndex
