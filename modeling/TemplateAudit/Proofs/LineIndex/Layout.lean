import TemplateAudit.Json.Printer
import TemplateAudit.LineIndex.Layout
import TemplateAudit.Proofs.LineIndex.Completeness

/-!
# The pretty layout is a document

Counting lines over a value gives the outline of its pretty text: each member and item stands one
line below what comes before it, and a container that is not empty closes on a line of its own. So
the lines that are counted are those that a scan of the text finds, and counting them in 32 bits
makes no difference between the two.
-/

namespace TemplateAudit.Json

set_option autoImplicit false

mutual

/-- Number of containers around the deepest value in a value. -/
def nesting : Json → Nat
  | .array items => itemsNesting items
  | .object members => membersNesting members
  | _ => 0

def itemsNesting : List Json → Nat
  | [] => 0
  | item :: rest => max (nesting item + 1) (itemsNesting rest)

def membersNesting : List (String × Json) → Nat
  | [] => 0
  | (_, value) :: rest => max (nesting value + 1) (membersNesting rest)

end

mutual

/-- Number of line breaks in the pretty layout of a value. -/
def breaks : Json → Nat
  | .array (item :: rest) => itemsBreaks (item :: rest) + 1
  | .object (member :: rest) => membersBreaks (member :: rest) + 1
  | _ => 0

def itemsBreaks : List Json → Nat
  | [] => 0
  | item :: rest => breaks item + 1 + itemsBreaks rest

def membersBreaks : List (String × Json) → Nat
  | [] => 0
  | (_, value) :: rest => breaks value + 1 + membersBreaks rest

end

end TemplateAudit.Json

namespace TemplateAudit.LineIndex

set_option autoImplicit false

open Json Decimal

mutual

/-- The outline of a value that starts on `line` of the pretty layout. -/
def Outline.ofValue (line : Nat) : Json → Outline
  | .array items => .array line (Outline.ofItems line items)
  | .object members => .object line (Outline.ofMembers line members)
  | _ => .leaf line

def Outline.ofItems (line : Nat) : List Json → List Outline
  | [] => []
  | item :: rest =>
    Outline.ofValue (line + 1) item :: Outline.ofItems (line + 1 + item.breaks) rest

def Outline.ofMembers (line : Nat) : List (String × Json) → List (String × Outline)
  | [] => []
  | (key, value) :: rest =>
    (key, Outline.ofValue (line + 1) value) :: Outline.ofMembers (line + 1 + value.breaks) rest

end

@[simp] theorem line_ofValue (line : Nat) (value : Json) :
    (Outline.ofValue line value).line = line := by
  cases value <;> simp [Outline.ofValue, Outline.line]

mutual

theorem lastLine_eq (line : UInt32) :
    ∀ value : Json, lastLine line value = line + UInt32.ofNat value.breaks
  | .null | .bool _ | .number _ | .string _ | .array [] | .object [] => by
    simp [lastLine, breaks]
  | .array (item :: rest) => by
    rw [lastLine, breaks, itemsLastLine_eq line (item :: rest), UInt32.ofNat_add,
      ← UInt32.add_assoc]
    rfl
  | .object (member :: rest) => by
    rw [lastLine, breaks, membersLastLine_eq line (member :: rest), UInt32.ofNat_add,
      ← UInt32.add_assoc]
    rfl

theorem itemsLastLine_eq (line : UInt32) :
    ∀ items : List Json, itemsLastLine line items = line + UInt32.ofNat (itemsBreaks items)
  | [] => by simp [itemsLastLine, itemsBreaks]
  | item :: rest => by
    rw [itemsLastLine, itemsBreaks, lastLine_eq (line + 1) item, itemsLastLine_eq _ rest,
      UInt32.ofNat_add, UInt32.ofNat_add]
    ac_rfl

theorem membersLastLine_eq (line : UInt32) :
    ∀ members : List (String × Json),
      membersLastLine line members = line + UInt32.ofNat (membersBreaks members)
  | [] => by simp [membersLastLine, membersBreaks]
  | (key, value) :: rest => by
    rw [membersLastLine, membersBreaks, lastLine_eq (line + 1) value, membersLastLine_eq _ rest,
      UInt32.ofNat_add, UInt32.ofNat_add]
    ac_rfl

end

theorem ofNat_succ (line : Nat) : UInt32.ofNat (line + 1) = UInt32.ofNat line + 1 :=
  UInt32.ofNat_add line 1

/-- Counting over a value in 32 bits stays in step with counting without a bound. -/
theorem lastLine_ofNat (line : Nat) (value : Json) :
    lastLine (UInt32.ofNat line + 1) value = UInt32.ofNat (line + 1 + value.breaks) := by
  rw [lastLine_eq, UInt32.ofNat_add, ofNat_succ]

/-- One of the lines behind `first` and up to `last`, in 32 bits. -/
def LineBetween (first last : Nat) (word : UInt32) : Prop :=
  ∃ line, first < line ∧ line ≤ last ∧ word = UInt32.ofNat line

theorem LineBetween.mono {first last less more : Nat} {word : UInt32}
    (h : LineBetween first last word) (hless : less ≤ first) (hmore : last ≤ more) :
    LineBetween less more word := by
  obtain ⟨line, hfirst, hlast, hword⟩ := h
  exact ⟨line, Nat.lt_of_le_of_lt hless hfirst, Nat.le_trans hlast hmore, hword⟩

theorem LineBetween.toNat_le {first last : Nat} {word : UInt32} (h : LineBetween first last word) :
    word.toNat ≤ last := by
  obtain ⟨line, -, hlast, rfl⟩ := h
  rw [UInt32.toNat_ofNat']
  exact Nat.le_trans (Nat.mod_le _ _) hlast

/-- Lines that all fit do not start again at zero. -/
theorem LineBetween.lt_toNat {first last : Nat} {word : UInt32} (h : LineBetween first last word)
    (hfits : last < UInt32.size) : first < word.toNat := by
  obtain ⟨line, hfirst, hlast, rfl⟩ := h
  rwa [UInt32.toNat_ofNat_of_lt' (Nat.lt_of_le_of_lt hlast hfits)]

mutual

/-- The entries that are counted are those of the outline. -/
theorem entries_ofValue (path : String) (line : Nat) : ∀ value : Json,
    (Outline.ofValue line value).entries Path.item path = layout path (UInt32.ofNat line) value
  | .null => by simp [Outline.ofValue, Outline.entries, layout]
  | .bool _ => by simp [Outline.ofValue, Outline.entries, layout]
  | .number _ => by simp [Outline.ofValue, Outline.entries, layout]
  | .string _ => by simp [Outline.ofValue, Outline.entries, layout]
  | .array items => by
    simp only [Outline.ofValue, Outline.entries, layout]
    exact itemEntries_ofItems path line 0 items
  | .object members => by
    simp only [Outline.ofValue, Outline.entries, layout]
    exact memberEntries_ofMembers path line members

theorem itemEntries_ofItems (path : String) (line position : Nat) :
    ∀ items : List Json,
      Outline.itemEntries Path.item path position (Outline.ofItems line items) =
        layoutItems path (UInt32.ofNat line) position items
  | [] => by simp [Outline.ofItems, Outline.itemEntries, layoutItems]
  | item :: rest => by
    have hitem := entries_ofValue (Path.item path position) (line + 1) item
    have hrest := itemEntries_ofItems path (line + 1 + item.breaks) (position + 1) rest
    simp only [Outline.ofItems, Outline.itemEntries, layoutItems, line_ofValue, hitem, hrest,
      lastLine_ofNat, ofNat_succ]

theorem memberEntries_ofMembers (path : String) (line : Nat) :
    ∀ members : List (String × Json),
      Outline.memberEntries Path.item path (Outline.ofMembers line members) =
        layoutMembers path (UInt32.ofNat line) members
  | [] => by simp [Outline.ofMembers, Outline.memberEntries, layoutMembers]
  | (key, value) :: rest => by
    have hvalue := entries_ofValue (Path.member path key) (line + 1) value
    have hrest := memberEntries_ofMembers path (line + 1 + value.breaks) rest
    simp only [Outline.ofMembers, Outline.memberEntries, layoutMembers, line_ofValue, hvalue, hrest,
      lastLine_ofNat, ofNat_succ]

end

theorem ofValue_eq_ofEntries (value : Json) :
    LineIndex.ofValue value = ofEntries ((Outline.ofValue 1 value).entries Path.item "") := by
  rw [LineIndex.ofValue, entries_ofValue]
  rfl

theorem length_ofItems (line : Nat) (items : List Json) :
    (Outline.ofItems line items).length = items.length := by
  induction items generalizing line with
  | nil => rfl
  | cons item rest ih => rw [Outline.ofItems, List.length_cons, List.length_cons, ih]

mutual

theorem longest_ofValue (line : Nat) :
    ∀ value : Json, (Outline.ofValue line value).longest = value.longest
  | .null | .bool _ | .number _ | .string _ => rfl
  | .array items => by
    rw [Outline.ofValue, Outline.longest, Json.longest, length_ofItems, longest_ofItems line items]
  | .object members => by
    rw [Outline.ofValue, Outline.longest, Json.longest, longest_ofMembers line members]

theorem longest_ofItems (line : Nat) :
    ∀ items : List Json, Outline.longestOfItems (Outline.ofItems line items) = itemsLongest items
  | [] => rfl
  | item :: rest => by
    rw [Outline.ofItems, Outline.longestOfItems, itemsLongest, longest_ofValue _ item,
      longest_ofItems _ rest]

theorem longest_ofMembers (line : Nat) : ∀ members : List (String × Json),
    Outline.longestOfMembers (Outline.ofMembers line members) = membersLongest members
  | [] => rfl
  | (key, value) :: rest => by
    rw [Outline.ofMembers, Outline.longestOfMembers, membersLongest, longest_ofValue _ value,
      longest_ofMembers _ rest]

end

/-! ## Scalars are words -/

theorem numberChar_toString {n : Nat} {c : Char} (hc : c ∈ (toString n).toList) : NumberChar c := by
  rw [Nat.toString_eq_repr, Nat.toList_repr] at hc
  exact Or.inl (Path.digit_bounds hc)

theorem toString_ne_nil (n : Nat) : (toString n).toList ≠ [] := by
  rw [Nat.toString_eq_repr, Nat.toList_repr]
  exact Nat.toDigits_ne_nil

theorem toString_negSucc (n : Nat) :
    (toString (Int.negSucc n)).toList = '-' :: (toString (n + 1)).toList :=
  String.toList_append

theorem numberChar_int {n : Int} {c : Char} (hc : c ∈ (toString n).toList) : NumberChar c := by
  cases n with
  | ofNat n => exact numberChar_toString hc
  | negSucc n =>
    rw [toString_negSucc] at hc
    rcases List.mem_cons.mp hc with rfl | hc
    · decide
    · exact numberChar_toString hc

theorem int_ne_nil (n : Int) : (toString n).toList ≠ [] := by
  cases n with
  | ofNat n => exact toString_ne_nil n
  | negSucc n =>
    rw [toString_negSucc]
    exact List.cons_ne_nil _ _

theorem numberChar_pointAfter {digits : List Char} (h : ∀ c ∈ digits, NumberChar c) (whole : Nat) :
    ∀ c ∈ pointAfter whole digits, NumberChar c := by
  intro c hc
  rw [pointAfter] at hc
  split at hc
  · simp only [List.mem_append, List.mem_replicate, List.mem_cons, List.not_mem_nil, or_false] at hc
    rcases hc with (hc | ⟨-, rfl⟩) | rfl | rfl
    · exact h c hc
    all_goals decide
  · simp only [List.mem_append, List.mem_cons] at hc
    rcases hc with hc | rfl | hc
    · exact h c (List.mem_of_mem_take hc)
    · decide
    · exact h c (List.mem_of_mem_drop hc)

theorem numberChar_pointBefore {digits : List Char} (h : ∀ c ∈ digits, NumberChar c)
    (power : Int) : ∀ c ∈ pointBefore power digits, NumberChar c := by
  intro c hc
  simp only [pointBefore, List.mem_append, List.mem_replicate, List.mem_cons, List.not_mem_nil,
    or_false] at hc
  rcases hc with ((rfl | rfl) | ⟨-, rfl⟩) | hc
  · decide
  · decide
  · decide
  · exact h c hc

theorem numberChar_withExponent {digits : List Char} (h : ∀ c ∈ digits, NumberChar c)
    (plusSign : Bool) (power : Int) : ∀ c ∈ withExponent plusSign power digits, NumberChar c := by
  intro c hc
  simp only [withExponent, List.append_assoc, List.cons_append, List.mem_append, List.mem_cons] at hc
  rcases hc with hc | rfl | hc | hc
  · split at hc
    · rename_i first second rest
      simp only [List.mem_cons] at h hc
      rcases hc with rfl | rfl | hc
      · exact h c (Or.inl rfl)
      · decide
      · exact h c (Or.inr hc)
    · exact h c hc
  · decide
  · split at hc
    · obtain rfl := List.mem_singleton.mp hc
      decide
    · split at hc
      · obtain rfl := List.mem_singleton.mp hc
        decide
      · simp at hc
  · exact numberChar_toString hc

theorem numberChar_magnitude (f : Format) (m : Magnitude) : ∀ c ∈ f.magnitude m, NumberChar c := by
  have hdigits : ∀ c ∈ (toString m.shortest.digits).toList, NumberChar c :=
    fun c hc => numberChar_toString hc
  simp only [Format.magnitude]
  split
  · simp [NumberChar]
  · split
    · exact numberChar_withExponent hdigits _ _
    · split
      · exact numberChar_pointBefore hdigits _
      · exact numberChar_pointAfter hdigits _

theorem magnitude_ne_nil (f : Format) (m : Magnitude) : f.magnitude m ≠ [] := by
  simp only [Format.magnitude]
  split
  · simp
  · split
    · simp [withExponent]
    · split
      · simp [pointBefore]
      · rw [pointAfter]
        split <;> simp

theorem numberChar_text (n : Number) : ∀ c ∈ n.text, NumberChar c := by
  intro c hc
  cases n with
  | int n => exact numberChar_int hc
  | float x =>
    rw [Number.text, Format.finite, String.toList_ofList] at hc
    rcases List.mem_append.mp hc with hc | hc
    · split at hc
      · obtain rfl := List.mem_singleton.mp hc
        decide
      · simp at hc
    · exact numberChar_magnitude Format.json x.magnitude c hc

theorem text_ne_nil (n : Number) : n.text ≠ [] := by
  cases n with
  | int n => exact int_ne_nil n.value
  | float x => simp [Number.text, Format.finite, magnitude_ne_nil]

theorem word_number (n : Number) : Word n.text :=
  word_of_numberChars (text_ne_nil n) (numberChar_text n)

/-! ## Lines of the printed text -/

theorem blanks_lineBreak (level : Nat) : Blanks (lineBreak level) := by
  intro c hc
  simp only [lineBreak, List.mem_cons, List.mem_replicate] at hc
  rcases hc with rfl | ⟨-, rfl⟩
  · simp
  · simp

@[simp] theorem count_lineBreak (level : Nat) : (lineBreak level).count '\n' = 1 := by
  rw [lineBreak, List.count_cons_self, List.count_eq_zero.mpr (by simp [List.mem_replicate])]

@[simp] theorem count_quote (s : String) : (quote s).count '\n' = 0 := by
  have hbody := (spells_flatMap_escapeChar s.toList).newline_not_mem
  exact List.count_eq_zero.mpr (by simpa [quote] using hbody)

@[simp] theorem count_number (n : Number) : n.text.count '\n' = 0 :=
  List.count_eq_zero.mpr (word_number n).newline_not_mem

mutual

theorem breaks_eq_count (level : Nat) :
    ∀ value : Json, value.breaks = (prettyChars level value).count '\n'
  | .null => by simp [prettyChars, breaks]
  | .bool true => by simp [prettyChars, breaks]
  | .bool false => by simp [prettyChars, breaks]
  | .number n => by simp [prettyChars, breaks]
  | .string s => by simp [prettyChars, breaks]
  | .array [] => by simp [prettyChars, breaks]
  | .array (item :: rest) => by
    have hitems := itemsBreaks_eq_count level (item :: rest)
    simp [prettyChars, breaks, hitems]
  | .object [] => by simp [prettyChars, breaks]
  | .object (member :: rest) => by
    have hmembers := membersBreaks_eq_count level (member :: rest)
    simp [prettyChars, breaks, hmembers]

theorem itemsBreaks_eq_count (level : Nat) :
    ∀ items : List Json, itemsBreaks items = (prettyItems level items).count '\n'
  | [] => by simp [prettyItems, itemsBreaks]
  | item :: rest => by
    have hitem := breaks_eq_count (level + 1) item
    have hrest := itemsBreaks_eq_count level rest
    have hcomma : (if rest.isEmpty then [] else [',']).count '\n' = 0 := by split <;> rfl
    simp only [prettyItems, itemsBreaks, List.count_append, count_lineBreak, hcomma]
    omega

theorem membersBreaks_eq_count (level : Nat) :
    ∀ members : List (String × Json), membersBreaks members = (prettyMembers level members).count '\n'
  | [] => by simp [prettyMembers, membersBreaks]
  | (key, value) :: rest => by
    have hvalue := breaks_eq_count (level + 1) value
    have hrest := membersBreaks_eq_count level rest
    have hcomma : (if rest.isEmpty then [] else [',']).count '\n' = 0 := by split <;> rfl
    have hcolon : (':' :: ' ' :: prettyChars (level + 1) value).count '\n' =
        (prettyChars (level + 1) value).count '\n' := by simp
    simp only [prettyMembers, membersBreaks, List.count_append, count_lineBreak, count_quote,
      hcomma, hcolon]
    omega

end

/-- A printed value ends on the line that is counted for it. -/
theorem lineAfter_prettyChars (before : List Char) (level : Nat) (value : Json) :
    lineAfter (before ++ prettyChars level value) = lineAfter before + value.breaks := by
  rw [lineAfter_append, ← breaks_eq_count]

/-! ## The printed text is a document -/

theorem lineAfter_lineBreak (before : List Char) (level : Nat) :
    lineAfter (before ++ lineBreak level) = lineAfter before + 1 := by
  rw [lineAfter_append, count_lineBreak]

theorem lineAfter_key (before : List Char) (level : Nat) (key : String) :
    lineAfter (before ++ lineBreak level ++ quote key ++ [':', ' ']) = lineAfter before + 1 := by
  simp [lineAfter_append]

theorem derives_printedItem {limit depth : Nat} {before text trail : List Char} {node : Outline}
    (level : Nat) (hvalue : Derives limit (depth + 1) (before ++ lineBreak level) text (.value node))
    (hline : node.line = lineAfter before + 1) (htrail : Blanks trail) :
    Derives limit depth before (lineBreak level ++ text ++ trail) (.item node) :=
  .item (blanks_lineBreak level) hvalue (by rw [hline, lineAfter_lineBreak]) htrail

theorem derives_printedMember {limit depth : Nat} {before text trail : List Char} {node : Outline}
    (level : Nat) (key : String)
    (hvalue : Derives limit (depth + 1) (before ++ lineBreak level ++ quote key ++ [':', ' ']) text
      (.value node))
    (hline : node.line = lineAfter before + 1) (htrail : Blanks trail) :
    Derives limit depth before (lineBreak level ++ quote key ++ ':' :: ' ' :: text ++ trail)
      (.member key node) := by
  have hblank : Blanks [' '] := by simp [Blanks]
  have hmember := Derives.member (blanks_lineBreak level) (spells_flatMap_escapeChar key.toList)
    blanks_nil hblank (by simpa [quote] using hvalue) (by rw [hline, lineAfter_lineBreak]) htrail
  simpa [quote] using hmember

mutual

/-- Printed behind any text, a value has the outline that is counted from its line on. -/
theorem derives_prettyChars {limit : Nat} (before : List Char) (depth level line : Nat) :
    ∀ value : Json, depth + value.nesting ≤ limit → lineAfter before = line →
      Derives limit depth before (prettyChars level value) (.value (Outline.ofValue line value))
  | .null, hdepth, _ => by
    simp only [prettyChars, Outline.ofValue]
    exact .word (Nat.le_of_add_right_le hdepth) word_null
  | .bool true, hdepth, _ => by
    simp only [prettyChars, Outline.ofValue]
    exact .word (Nat.le_of_add_right_le hdepth) word_true
  | .bool false, hdepth, _ => by
    simp only [prettyChars, Outline.ofValue]
    exact .word (Nat.le_of_add_right_le hdepth) word_false
  | .number n, hdepth, _ => by
    simp only [prettyChars, Outline.ofValue]
    exact .word (Nat.le_of_add_right_le hdepth) (word_number n)
  | .string s, hdepth, _ => by
    simp only [prettyChars, Outline.ofValue]
    exact .literal (Nat.le_of_add_right_le hdepth) (spells_flatMap_escapeChar s.toList)
  | .array [], hdepth, _ => by
    simp only [prettyChars, Outline.ofValue, Outline.ofItems]
    exact .emptyArray (Nat.le_of_add_right_le hdepth) blanks_nil
  | .array (item :: rest), hdepth, hline => by
    have hopen : lineAfter (before ++ ['[']) = line := by
      rw [lineAfter_concat (by decide), hline]
    rw [nesting] at hdepth
    have hitems := derives_prettyItems (before ++ ['[']) depth level line (item :: rest)
      (List.cons_ne_nil _ _) hdepth hopen
    rw [prettyChars, Outline.ofValue, List.cons_append]
    exact .array (Nat.le_of_add_right_le hdepth) hitems
  | .object [], hdepth, _ => by
    simp only [prettyChars, Outline.ofValue, Outline.ofMembers]
    exact .emptyObject (Nat.le_of_add_right_le hdepth) blanks_nil
  | .object (member :: rest), hdepth, hline => by
    have hopen : lineAfter (before ++ ['{']) = line := by
      rw [lineAfter_concat (by decide), hline]
    rw [nesting] at hdepth
    have hmembers := derives_prettyMembers (before ++ ['{']) depth level line (member :: rest)
      (List.cons_ne_nil _ _) hdepth hopen
    rw [prettyChars, Outline.ofValue, List.cons_append]
    exact .object (Nat.le_of_add_right_le hdepth) hmembers

theorem derives_prettyItems {limit : Nat} (before : List Char) (depth level line : Nat) :
    ∀ items : List Json, items ≠ [] → depth + itemsNesting items ≤ limit →
      lineAfter before = line →
      Derives limit depth before (prettyItems level items ++ lineBreak level)
        (.items (Outline.ofItems line items))
  | [], hne, _, _ => absurd rfl hne
  | [item], _, hdepth, hline => by
    have hbound : depth + 1 + item.nesting ≤ limit := by
      simp only [itemsNesting] at hdepth
      omega
    have hvalue := derives_prettyChars (before ++ lineBreak (level + 1)) (depth + 1) (level + 1)
      (line + 1) item hbound (by rw [lineAfter_lineBreak, hline])
    have hitem := derives_printedItem (level + 1) hvalue (by rw [line_ofValue, hline])
      (blanks_lineBreak level)
    simpa [prettyItems, Outline.ofItems] using Derives.lastItem hitem
  | item :: next :: rest, _, hdepth, hline => by
    rw [itemsNesting] at hdepth
    have hbound : depth + 1 + item.nesting ≤ limit := by omega
    have hrest : depth + itemsNesting (next :: rest) ≤ limit := by omega
    have hvalue := derives_prettyChars (before ++ lineBreak (level + 1)) (depth + 1) (level + 1)
      (line + 1) item hbound (by rw [lineAfter_lineBreak, hline])
    have hitem := derives_printedItem (level + 1) hvalue (by rw [line_ofValue, hline]) blanks_nil
    have hafter : lineAfter (before ++ (lineBreak (level + 1) ++
        prettyChars (level + 1) item ++ []) ++ [',']) = line + 1 + item.breaks := by
      rw [lineAfter_concat (by decide), List.append_nil, ← List.append_assoc, lineAfter_prettyChars,
        lineAfter_lineBreak, hline]
    have hmore := derives_prettyItems _ depth level (line + 1 + item.breaks) (next :: rest)
      (List.cons_ne_nil _ _) hrest hafter
    rw [prettyItems, Outline.ofItems]
    simpa using Derives.moreItems hitem hmore

theorem derives_prettyMembers {limit : Nat} (before : List Char) (depth level line : Nat) :
    ∀ members : List (String × Json), members ≠ [] → depth + membersNesting members ≤ limit →
      lineAfter before = line →
      Derives limit depth before (prettyMembers level members ++ lineBreak level)
        (.members (Outline.ofMembers line members))
  | [], hne, _, _ => absurd rfl hne
  | [(key, value)], _, hdepth, hline => by
    have hbound : depth + 1 + value.nesting ≤ limit := by
      simp only [membersNesting] at hdepth
      omega
    have hvalue := derives_prettyChars
      (before ++ lineBreak (level + 1) ++ quote key ++ [':', ' ']) (depth + 1) (level + 1)
      (line + 1) value hbound (by rw [lineAfter_key, hline])
    have hmember := derives_printedMember (level + 1) key hvalue (by rw [line_ofValue, hline])
      (blanks_lineBreak level)
    simpa [prettyMembers, Outline.ofMembers] using Derives.lastMember hmember
  | (key, value) :: next :: rest, _, hdepth, hline => by
    rw [membersNesting] at hdepth
    have hbound : depth + 1 + value.nesting ≤ limit := by omega
    have hrest : depth + membersNesting (next :: rest) ≤ limit := by omega
    have hvalue := derives_prettyChars
      (before ++ lineBreak (level + 1) ++ quote key ++ [':', ' ']) (depth + 1) (level + 1)
      (line + 1) value hbound (by rw [lineAfter_key, hline])
    have hmember := derives_printedMember (level + 1) key hvalue (by rw [line_ofValue, hline])
      blanks_nil
    have hafter : lineAfter (before ++ (lineBreak (level + 1) ++ quote key ++
        ':' :: ' ' :: prettyChars (level + 1) value ++ []) ++ [',']) =
          line + 1 + value.breaks := by
      have hprinted := lineAfter_prettyChars
        (before ++ lineBreak (level + 1) ++ quote key ++ [':', ' ']) (level + 1) value
      rw [lineAfter_key, hline] at hprinted
      rw [lineAfter_concat (by decide)]
      simpa using hprinted
    have hmore := derives_prettyMembers _ depth level (line + 1 + value.breaks) (next :: rest)
      (List.cons_ne_nil _ _) hrest hafter
    rw [prettyMembers, Outline.ofMembers]
    simpa using Derives.moreMembers hmember hmore

end

theorem withoutMark_cons {c : Char} (hc : c.toNat ≠ 0xFEFF) (rest : List Char) :
    withoutMark (c :: rest) = c :: rest := by
  rw [withoutMark, if_neg hc]

theorem withoutMark_prettyChars (level : Nat) (value : Json) :
    withoutMark (prettyChars level value) = prettyChars level value := by
  fun_cases prettyChars level value with
  | case4 _ n =>
    obtain ⟨c, rest, htext⟩ := List.exists_cons_of_ne_nil (text_ne_nil n)
    have hc : NumberChar c := numberChar_text n c (by simp [htext])
    rw [htext]
    exact withoutMark_cons (hc.mark_ne) rest
  | _ => exact withoutMark_cons (by decide) _

theorem document_pretty {limit : Nat} {value : Json} (h : value.nesting ≤ limit) :
    Document limit value.pretty.toList (Outline.ofValue 1 value) := by
  refine ⟨[], prettyChars 0 value, [], blanks_nil, blanks_nil, ?_, line_ofValue 1 value, ?_⟩
  · simp [pretty]
  · exact derives_prettyChars [] 0 0 1 value (by omega) rfl

/-- The lines that are counted over a value are those that are found in its printed text: the two
indexes are made of one outline. They are the same unless an array has more items than a scan can
count. -/
theorem ofText?_pretty (value : Json) (h : value.nesting ≤ deepest) :
    (∃ outline, Document deepest value.pretty.toList outline ∧
      ofText? value.pretty = some (ofEntries outline.scanned) ∧
      LineIndex.ofValue value = ofEntries (outline.entries Path.item "")) ∧
    (value.longest ≤ itemLimit → ofText? value.pretty = some (LineIndex.ofValue value)) := by
  have hmark : withoutMark value.pretty.toList = value.pretty.toList := by
    rw [pretty, String.toList_ofList, withoutMark_prettyChars]
  have hdocument := document_pretty h
  have htext := ofText?_of_document (hmark.symm ▸ hdocument)
  refine ⟨⟨_, hdocument, htext, ofValue_eq_ofEntries value⟩, ?_⟩
  intro hfew
  rw [htext, Outline.scanned_eq_entries (by rwa [longest_ofValue]), ofValue_eq_ofEntries]

/-- Empty containers, an empty key, keys that differ in case only and one that has to be escaped. -/
theorem ofText?_pretty_odd_keys :
    let value : Json := .object [("", .array []), ("a.b[0]", .object []), ("Key", .array [.null]),
      ("kEY", .string "\n"), ("\u0001\"é", .bool true)]
    value.nesting ≤ deepest ∧ value.longest ≤ itemLimit ∧
      ofText? value.pretty = some (LineIndex.ofValue value) :=
  ⟨by decide, by decide, (ofText?_pretty _ (by decide)).2 (by decide)⟩

end TemplateAudit.LineIndex
