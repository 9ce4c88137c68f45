import TemplateAudit.Proofs.LineIndex.Layout
import TemplateAudit.Proofs.LineIndex.Nodes
import TemplateAudit.Proofs.Path.FirstStep

/-!
# The line of the root

The root is kept among the entries of all other nodes, under the empty path, and a path that the
document knows nothing of falls back on it. So the root stays on the first line unless one of its
own members has the empty key, and a path that leaves the root by a step it does not have leads to
the first line unless its first steps are written like a key of the root that is empty, or holds a
point or a bracket. Keys further down do not matter, and neither do positions that are too great to be
counted: they are not written in the digits of any greater one. In the pretty layout, where only the
root is on the first line as long as all lines fit, such a key does lead elsewhere.
-/

namespace TemplateAudit

set_option autoImplicit false

open TemplateAudit.Path

namespace Json

def keys : Json → List String
  | .object members => members.map Prod.fst
  | _ => []

def firstSteps : Json → List Segment
  | .array items => (List.range items.length).map .index
  | .object members => members.map fun m => .key (Text.lowercase m.1)
  | _ => []

end Json

namespace LineIndex

namespace Outline

def keys : Outline → List String
  | .object _ members => members.map Prod.fst
  | _ => []

theorem map_fst_ofMembers (line : Nat) (members : Json.Members) :
    (Outline.ofMembers line members).map Prod.fst = members.map Prod.fst := by
  induction members generalizing line with
  | nil => rfl
  | cons m rest ih => rw [Outline.ofMembers, List.map_cons, List.map_cons, ih]

theorem keys_ofValue (line : Nat) (value : Json) :
    (Outline.ofValue line value).keys = value.keys := by
  cases value with
  | object members => rw [Outline.ofValue, keys, Json.keys, map_fst_ofMembers]
  | _ => rfl

theorem firstSteps_ofValue (line : Nat) (value : Json) :
    (Outline.ofValue line value).firstSteps = value.firstSteps := by
  cases value with
  | array items => rw [Outline.ofValue, firstSteps, Json.firstSteps, length_ofItems]
  | object members =>
    have hkeys := congrArg (List.map fun key => Segment.key (Text.lowercase key))
      (map_fst_ofMembers line members)
    rw [List.map_map, List.map_map] at hkeys
    rw [Outline.ofValue, firstSteps, Json.firstSteps]
    exact hkeys
  | _ => rfl

theorem cases_of_mem_firstSteps {o : Outline} {s : Segment} (h : s ∈ o.firstSteps) :
    (∃ n, s = .index n) ∨ ∃ key ∈ o.keys, s = .key (Text.lowercase key) := by
  cases o with
  | leaf line => simp [firstSteps] at h
  | array line items =>
    obtain ⟨n, -, rfl⟩ := List.mem_map.mp h
    exact Or.inl ⟨n, rfl⟩
  | object line members =>
    obtain ⟨m, hm, rfl⟩ := List.mem_map.mp h
    exact Or.inr ⟨m.1, List.mem_map.mpr ⟨m, hm, rfl⟩, rfl⟩

theorem firstSteps_of_le {o : Outline} {m n : Nat} (h : .index n ∈ o.firstSteps) (hle : m ≤ n) :
    .index m ∈ o.firstSteps := by
  cases o with
  | leaf line => simp [firstSteps] at h
  | array line items =>
    simp only [firstSteps, List.mem_map, List.mem_range, Segment.index.injEq, exists_eq_right] at h ⊢
    omega
  | object line members => simp [firstSteps] at h

end Outline

/-! ## Positions in brackets -/

/-- Positions are written in brackets, and none of them in the digits of a greater one. -/
def Bracketed (itemPath : ItemPath) : Prop :=
  ∀ path position, ∃ inside, ']' ∉ inside ∧
    (itemPath path position).toList = path.toList ++ '[' :: (inside ++ [']']) ∧
    ∀ n, inside = Nat.toDigits 10 n → n ≤ position

theorem bracketed_item : Bracketed Path.item := by
  intro path position
  refine ⟨Nat.toDigits 10 position, not_mem_toDigits (by decide) position, ?_, ?_⟩
  · rw [item_toList, List.append_assoc, List.cons_append]
  · intro n hdigits
    exact Nat.le_of_eq (toDigits_inj hdigits).symm

/-- Only a number that is not negative is written in digits alone. -/
theorem eq_of_toString_eq_toDigits {m : Int} {n : Nat}
    (h : (toString m).toList = Nat.toDigits 10 n) : m = n := by
  cases m with
  | ofNat m =>
    have hsame : Nat.toDigits 10 m = Nat.toDigits 10 n := by
      rw [← h, ← Nat.toList_repr]
      rfl
    rw [toDigits_inj hsame]
    rfl
  | negSucc m =>
    rw [toString_negSucc] at h
    have hsign : '-' ∈ Nat.toDigits 10 n := h ▸ List.mem_cons_self
    exact absurd hsign (not_mem_toDigits (by decide) n)

/-- A number of 32 bits with a sign is not greater than the position that it was counted for. -/
theorem le_of_toInt_ofNat {position n : Nat} (h : (Int32.ofNat position).toInt = n) :
    n ≤ position := by
  have hsize : (Int32.size : Int) = 4294967296 := rfl
  rw [Int32.toInt_ofNat', Int.bmod_def, hsize] at h
  split at h <;> omega

theorem scannedItem_toList (path : String) (position : Nat) :
    (scannedItem path position).toList =
      path.toList ++ '[' :: ((toString (Int32.ofNat position).toInt).toList ++ [']']) := by
  rw [scannedItem, countedItem, toString_word]
  simp only [String.toList_append, List.append_assoc]
  rfl

theorem bracketed_scannedItem : Bracketed scannedItem := by
  intro path position
  refine ⟨_, ?_, scannedItem_toList path position, ?_⟩
  · intro hclosing
    exact (numberChar_int hclosing).ne (by decide) rfl
  · intro n hdigits
    exact le_of_toInt_ofNat (eq_of_toString_eq_toDigits hdigits)

namespace Outline

section Marks
variable {itemPath : ItemPath} (hitems : Bracketed itemPath)
include hitems

theorem stepBy_tail {path : String} (hpath : path ≠ "") (s : Segment) :
    ∃ tail, (stepBy itemPath path s).toList = path.toList ++ s.mark :: tail := by
  cases s with
  | key name => exact ⟨name.toList, join_toList_of_ne hpath name⟩
  | index position =>
    obtain ⟨inside, -, hwritten, -⟩ := hitems path position
    exact ⟨inside ++ [']'], hwritten⟩

/-- Behind a path that is not empty everything starts with a mark. -/
theorem foldl_stepBy_tail {path : String} (hpath : path ≠ "") (a : List Segment) :
    ∃ tail, (a.foldl (stepBy itemPath) path).toList = path.toList ++ tail ∧ StartsMarked tail := by
  induction a generalizing path with
  | nil => exact ⟨[], by simp, by simp [StartsMarked]⟩
  | cons s a ih =>
    obtain ⟨here, hhere⟩ := stepBy_tail hitems hpath s
    have hnext : stepBy itemPath path s ≠ "" := by
      intro hempty
      rw [hempty] at hhere
      simp at hhere
    obtain ⟨tail, htail, -⟩ := ih hnext
    refine ⟨s.mark :: (here ++ tail), ?_, ?_⟩
    · rw [List.foldl_cons, htail, hhere, List.append_assoc, List.cons_append]
    · intro c hc
      obtain rfl : s.mark = c := by simpa using hc
      cases s with
      | key name => exact Or.inl rfl
      | index position => exact Or.inr rfl

theorem eq_key_of_foldl_empty {s : Segment} {a : List Segment}
    (h : (s :: a).foldl (stepBy itemPath) "" = "") : s = .key "" := by
  have hfirst : stepBy itemPath "" s = "" := by
    by_contra hne
    obtain ⟨tail, htail, -⟩ := foldl_stepBy_tail hitems hne a
    rw [List.foldl_cons] at h
    rw [h] at htail
    have hnil := (List.append_eq_nil_iff.mp htail.symm).1
    exact hne (String.toList_eq_nil_iff.mp hnil)
  cases s with
  | key name =>
    rw [stepBy, join_empty] at hfirst
    rw [hfirst]
  | index position =>
    obtain ⟨inside, -, hwritten, -⟩ := hitems "" position
    rw [stepBy] at hfirst
    rw [hfirst] at hwritten
    simp at hwritten

/-! ## Entries that stand in for the root -/

/-- A node is written as the empty path only below a member with the empty key. -/
theorem empty_mem_keys {o : Outline} {e : Entry} (he : e ∈ o.entries itemPath "")
    (h : e.1 = "") : "" ∈ o.keys := by
  obtain ⟨a, ha, hwritten⟩ := exists_descent_of_mem itemPath he
  obtain ⟨s, hs, b, rfl⟩ := exists_firstStep ha
  obtain rfl := eq_key_of_foldl_empty hitems (hwritten.trans h)
  rcases cases_of_mem_firstSteps hs with ⟨n, hn⟩ | ⟨key, hkey, hname⟩
  · simp at hn
  · have hlower : Text.lowercase key = "" := by simpa using hname.symm
    rwa [Text.lowercase_eq_empty hlower] at hkey

theorem line?_root {o : Outline} (hkeys : "" ∉ o.keys) :
    (ofEntries (o.entries itemPath "")).line? [] = some firstLine := by
  apply getElem?_of_unique
  · exact List.mem_cons_self
  · intro other hother
    rcases List.mem_cons.mp hother with heq | hentry
    · exact (Prod.mk.inj heq).2
    · exact absurd (empty_mem_keys hitems hentry rfl) hkeys

/-- When a part of a path is written like a node, its first step is one of the root's, or a key of
the root is written like some of its steps. -/
theorem mem_firstSteps_or_shadows {o : Outline} {s : Segment} {rest part : List Segment}
    (hsteps : ∀ t ∈ s :: rest, t.Unmarked) (hpart : s :: part <+: s :: rest) {e : Entry}
    (he : e ∈ o.entries itemPath "") (h : e.1 = render (s :: part)) :
    s ∈ o.firstSteps ∨ ∃ key ∈ o.keys, Shadows key (s :: rest) := by
  have hs := hsteps s List.mem_cons_self
  obtain ⟨a, ha, hwritten⟩ := exists_descent_of_mem itemPath he
  obtain ⟨t, ht, b, rfl⟩ := exists_firstStep ha
  rw [h, List.foldl_cons] at hwritten
  rcases cases_of_mem_firstSteps ht with ⟨n, rfl⟩ | ⟨key, hkey, rfl⟩
  · obtain ⟨inside, hclosed, hitem, hleast⟩ := hitems "" n
    have hne : stepBy itemPath "" (.index n) ≠ "" := by
      intro hempty
      rw [stepBy] at hempty
      rw [hempty] at hitem
      simp at hitem
    obtain ⟨tail, htail, -⟩ := foldl_stepBy_tail hitems hne b
    rw [hwritten, stepBy, hitem] at htail
    obtain ⟨m, rfl, hdigits⟩ := head_eq_index hclosed hs (by simpa using htail)
    exact Or.inl (firstSteps_of_le ht (hleast m hdigits))
  · by_cases hempty : Text.lowercase key = ""
    · obtain rfl := Text.lowercase_eq_empty hempty
      exact Or.inr ⟨"", hkey, shadows_empty _⟩
    · have hfirst : stepBy itemPath "" (.key (Text.lowercase key)) = Text.lowercase key :=
        join_empty _
      rw [hfirst] at hwritten
      obtain ⟨tail, htail, hmarks⟩ := foldl_stepBy_tail hitems hempty b
      rw [hwritten] at htail
      by_cases hclear : Unmarked key
      · rw [head_eq_key hclear.lowercase hmarks hs htail]
        exact Or.inl ht
      · exact Or.inr ⟨key, hkey, shadows_of_written hsteps hclear hpart hmarks htail⟩

/-- No part of a path has an entry when its first step is none of the root's and no key of the root
is written like some of its steps. -/
theorem line?_take_eq_none {o : Outline} {s : Segment} {rest : List Segment}
    (hsteps : ∀ t ∈ s :: rest, t.Unmarked) (hunknown : s ∉ o.firstSteps)
    (hkeys : ∀ key ∈ o.keys, ¬ Shadows key (s :: rest)) {k : Nat} (hk : 0 < k) :
    (ofEntries (o.entries itemPath "")).line? ((s :: rest).take k) = none := by
  have hpart := List.take_prefix k (s :: rest)
  obtain ⟨k, rfl⟩ := Nat.exists_eq_add_one_of_ne_zero (by omega : k ≠ 0)
  rw [List.take_succ_cons] at hpart ⊢
  by_contra hsome
  obtain ⟨line, hline⟩ := Option.ne_none_iff_exists'.mp hsome
  rcases exists_entry_of_line? hline with hempty | ⟨e, he, hpath⟩
  · exact step_empty_ne_empty (hsteps s List.mem_cons_self) (step_eq_empty_of_render hempty)
  · rcases mem_firstSteps_or_shadows hitems hsteps hpart he hpath with hfirst | ⟨key, hkey, hshadows⟩
    · exact hunknown hfirst
    · exact hkeys key hkey hshadows

end Marks

theorem exists_entry_of_key {o : Outline} {key : String} (h : key ∈ o.keys) :
    ∃ e ∈ o.entries Path.item "", e.1 = Text.lowercase key := by
  cases o with
  | object line members =>
    obtain ⟨m, hm, rfl⟩ := List.mem_map.mp h
    refine ⟨(Path.member "" m.1, UInt32.ofNat m.2.line),
      mem_memberEntries.mpr ⟨m.1, m.2, hm, Or.inl rfl⟩, ?_⟩
    exact join_empty (Text.lowercase m.1)
  | _ => simp [keys] at h

end Outline

/-! ## Indexes of documents -/

/-- With `keys` and `steps` those of its root, the index has the root and what is unknown to it on
the first line. -/
structure StartsAtRoot (index : LineIndex) (keys : List String) (steps : List Segment) : Prop where
  root : "" ∉ keys → index.exactLine? "" = some firstLine ∧
    index.resolve "" = firstLine ∧ index.resolve "$" = firstLine
  unknown : ∀ path s rest, parse? path = some (s :: rest) → s ∉ steps →
    (∀ key ∈ keys, ¬ Shadows key (s :: rest)) → index.resolve path = firstLine

theorem startsAtRoot_ofEntries {itemPath : ItemPath} (hitems : Bracketed itemPath) (o : Outline) :
    StartsAtRoot (ofEntries (o.entries itemPath "")) o.keys o.firstSteps where
  root := by
    intro hkeys
    have hroot := Outline.line?_root hitems hkeys
    exact ⟨hroot, resolve_of_line? (by decide) hroot, resolve_of_line? (by decide) hroot⟩
  unknown := by
    intro path s rest hparse hunknown hkeys
    have hempty : "" ∉ o.keys := fun hmem => hkeys "" hmem (shadows_empty _)
    rw [resolve, hparse]
    apply nearestLine_of_take (n := 0) (Nat.zero_le _) (Outline.line?_root hitems hempty)
    intro k hk _
    exact Outline.line?_take_eq_none hitems (unmarked_of_parse? hparse) hunknown hkeys hk

/-! ## The pretty layout -/

mutual

/-- Below a value everything starts on a later line of it. -/
theorem mem_layout_between (path : String) (line : Nat) : ∀ value : Json,
    ∀ e ∈ layout path (UInt32.ofNat line) value, LineBetween line (line + value.breaks) e.2
  | .null | .bool _ | .number _ | .string _ | .array [] | .object [] => by
    simp [layout, layoutItems, layoutMembers]
  | .array (item :: rest) => by
    intro e he
    rw [layout] at he
    have hbetween := mem_layoutItems_between path line 0 (item :: rest) e he
    exact hbetween.mono (Nat.le_refl line) (by rw [Json.breaks]; omega)
  | .object (member :: rest) => by
    intro e he
    rw [layout] at he
    have hbetween := mem_layoutMembers_between path line (member :: rest) e he
    exact hbetween.mono (Nat.le_refl line) (by rw [Json.breaks]; omega)

theorem mem_layoutItems_between (path : String) (line position : Nat) : ∀ items : List Json,
    ∀ e ∈ layoutItems path (UInt32.ofNat line) position items,
      LineBetween line (line + Json.itemsBreaks items) e.2
  | [] => by simp [layoutItems]
  | item :: rest => by
    intro e he
    rw [layoutItems, lastLine_ofNat, ← ofNat_succ, List.cons_append, List.mem_cons,
      List.mem_append] at he
    rw [Json.itemsBreaks]
    rcases he with rfl | hitem | hrest
    · exact ⟨line + 1, Nat.lt_succ_self line, by omega, rfl⟩
    · have hbelow := mem_layout_between _ (line + 1) item e hitem
      exact hbelow.mono (Nat.le_succ line) (by omega)
    · have hafter := mem_layoutItems_between path _ (position + 1) rest e hrest
      exact hafter.mono (by omega) (by omega)

theorem mem_layoutMembers_between (path : String) (line : Nat) :
    ∀ members : List (String × Json), ∀ e ∈ layoutMembers path (UInt32.ofNat line) members,
      LineBetween line (line + Json.membersBreaks members) e.2
  | [] => by simp [layoutMembers]
  | (key, value) :: rest => by
    intro e he
    rw [layoutMembers, lastLine_ofNat, ← ofNat_succ, List.cons_append, List.mem_cons,
      List.mem_append] at he
    rw [Json.membersBreaks]
    rcases he with rfl | hvalue | hrest
    · exact ⟨line + 1, Nat.lt_succ_self line, by omega, rfl⟩
    · have hbelow := mem_layout_between _ (line + 1) value e hvalue
      exact hbelow.mono (Nat.le_succ line) (by omega)
    · have hafter := mem_layoutMembers_between path _ rest e hrest
      exact hafter.mono (by omega) (by omega)

end

theorem getElem?_of_mem {entries : List Entry} {e : Entry} (he : e ∈ entries) :
    ∃ found ∈ entries, (ofEntries entries).lines[e.1]? = some found.2 := by
  rw [ofEntries, foldl_insert_getElem?, latestLine?]
  cases hfind : entries.reverse.find? fun other => other.1 == e.1 with
  | none =>
    have hnone := List.find?_eq_none.mp hfind e (List.mem_reverse.mpr he)
    simp at hnone
  | some found =>
    exact ⟨found, List.mem_reverse.mp (List.mem_of_find?_eq_some hfind), rfl⟩

section Fits
variable {value : Json} (hfits : value.breaks + 1 < UInt32.size)
include hfits

theorem ne_firstLine_of_mem {e : Entry} (he : e ∈ layout "" firstLine value) : e.2 ≠ firstLine := by
  have hlater := (mem_layout_between "" 1 value e he).lt_toNat (by omega)
  intro hfirst
  rw [hfirst] at hlater
  exact Nat.lt_irrefl 1 hlater

/-- In the pretty layout nothing but the root is on the first line. -/
theorem eq_empty_of_firstLine {path : String}
    (h : (LineIndex.ofValue value).lines[path]? = some firstLine) : path = "" := by
  rw [LineIndex.ofValue, ofEntries_getElem?, latestLine?, Option.map_eq_some_iff] at h
  obtain ⟨e, hfind, hline⟩ := h
  have hpath : e.1 = path := by simpa using List.find?_some hfind
  rcases List.mem_cons.mp (List.mem_reverse.mp (List.mem_of_find?_eq_some hfind)) with rfl | hmem
  · exact hpath.symm
  · exact absurd hline (ne_firstLine_of_mem hfits hmem)

/-- The member of a key is found under its lower case, and not on the first line. -/
theorem exists_line_of_key {key : String} (h : key ∈ value.keys) :
    ∃ line, line ≠ firstLine ∧
      (LineIndex.ofValue value).lines[Text.lowercase key]? = some line := by
  rw [← Outline.keys_ofValue 1] at h
  obtain ⟨e, he, hpath⟩ := Outline.exists_entry_of_key h
  rw [entries_ofValue] at he
  obtain ⟨found, hfound, hline⟩ := getElem?_of_mem he
  rw [hpath] at hline
  exact ⟨found.2, ne_firstLine_of_mem hfits hfound, hline⟩

theorem line?_root_ofValue :
    (LineIndex.ofValue value).line? [] = some firstLine ↔ "" ∉ value.keys := by
  constructor
  · intro hroot hkey
    obtain ⟨line, hlater, hline⟩ := exists_line_of_key hfits hkey
    exact hlater (Option.some.inj (hline.symm.trans hroot))
  · intro hkeys
    rw [← Outline.keys_ofValue 1] at hkeys
    rw [ofValue_eq_ofEntries]
    exact Outline.line?_root bracketed_item hkeys

/-- A path whose first steps are written like a key of the root leads past the first line. -/
theorem not_shadows_of_firstLine {path : String} {steps : List Segment}
    (hparse : parse? path = some steps) (hline : (LineIndex.ofValue value).resolve path = firstLine)
    {key : String} (hkey : key ∈ value.keys) : ¬ Shadows key steps := by
  rintro ⟨-, part, hinits, hwritten⟩
  have hpart := (List.mem_inits _ _).mp hinits
  obtain ⟨line, -, hhit⟩ := exists_line_of_key hfits hkey
  rw [← hwritten, List.prefix_iff_eq_take.mp hpart] at hhit
  obtain ⟨m, hlonger, hm, hfound⟩ := exists_take_of_hit hpart.length_le hhit
  have hnearest : (LineIndex.ofValue value).nearestLine steps.reverse = firstLine := by
    rw [resolve, hparse] at hline
    exact hline
  rw [hnearest] at hfound
  -- The longest part with an entry is written as the empty path, so no step was taken at all.
  have hnone : steps.take m = [] := by
    cases htaken : steps.take m with
    | nil => rfl
    | cons s rest =>
      have hs := unmarked_of_parse? hparse s (List.mem_of_mem_take (htaken ▸ List.mem_cons_self))
      have hempty := eq_empty_of_firstLine hfits hfound
      rw [htaken] at hempty
      exact absurd (step_eq_empty_of_render hempty) (step_empty_ne_empty hs)
  have hlength : part.length = 0 := by
    have hzero := congrArg List.length hnone
    rw [List.length_take, List.length_nil] at hzero
    omega
  obtain rfl := List.eq_nil_of_length_eq_zero hlength
  rw [hnone] at hfound
  obtain rfl := Text.lowercase_eq_empty hwritten.symm
  exact (line?_root_ofValue hfits).mp hfound hkey

end Fits

/-- The root of a value, and every path that leaves it by a step it does not have, is on the first
line if no key of the root is empty or, with a point or a bracket in it, written like the first steps
of the path; and only then, as long as all lines of the pretty layout fit into 32 bits. The first half
holds of every text that can be indexed, with the keys of the root as the text has them. -/
theorem root_and_unknown_on_firstLine (value : Json) (text : String) :
    StartsAtRoot (LineIndex.ofValue value) value.keys value.firstSteps ∧
    (value.breaks + 1 < UInt32.size →
      ((LineIndex.ofValue value).exactLine? "" = some firstLine ↔ "" ∉ value.keys) ∧
      ∀ path steps, parse? path = some steps → (LineIndex.ofValue value).resolve path = firstLine →
        ∀ key ∈ value.keys, ¬ Shadows key steps) ∧
    ∀ index, ofText? text = some index →
      (∃ outline, Document deepest (withoutMark text.toList) outline) ∧
      ∀ outline, Document deepest (withoutMark text.toList) outline →
        StartsAtRoot index outline.keys outline.firstSteps := by
  refine ⟨?_, ?_, ?_⟩
  · have hstarts := startsAtRoot_ofEntries bracketed_item (Outline.ofValue 1 value)
    rwa [Outline.keys_ofValue, Outline.firstSteps_ofValue, ← ofValue_eq_ofEntries] at hstarts
  · intro hfits
    refine ⟨line?_root_ofValue hfits, ?_⟩
    intro path steps hparse hline key hkey
    exact not_shadows_of_firstLine hfits hparse hline hkey
  · intro index hindex
    obtain ⟨entries, hscan, -⟩ := Option.map_eq_some_iff.mp hindex
    obtain ⟨outline, hdocument, -⟩ := document_of_scan? hscan
    refine ⟨⟨outline, hdocument⟩, ?_⟩
    intro other hother
    rw [ofText?_of_document hother] at hindex
    obtain rfl := Option.some.inj hindex
    exact startsAtRoot_ofEntries bracketed_scannedItem other

/-- Odd keys that a path does not start with, below the root too; and a text with a blank line
before its root. -/
theorem root_and_unknown_on_firstLine_odd_keys :
    let value : Json := .object [("a.b", .object [("", .null)]), ("C[0]", .array [.null])]
    let text := "\n[\n7]"
    (LineIndex.ofValue value).exactLine? "" = some firstLine ∧
    (LineIndex.ofValue value).resolve "$" = firstLine ∧
    (LineIndex.ofValue value).resolve "a.c[0]" = firstLine ∧
    ∃ index, ofText? text = some index ∧ index.resolve "" = firstLine ∧
      index.resolve "[1].a" = firstLine := by
  intro value text
  obtain ⟨hvalue, hconverse, htexts⟩ := root_and_unknown_on_firstLine value text
  have hroot := (hconverse (by decide)).1.mpr (by decide)
  have hmarked := (hvalue.root (by decide)).2.2
  have hunknown := hvalue.unknown "a.c[0]" (.key "a") [.key "c", .index 0] (by decide +kernel)
    (by decide +kernel) (by decide +kernel)
  refine ⟨hroot, hmarked, hunknown, ?_⟩
  have hseven : NumberChar '7' := by decide
  have hword : Word ['7'] := word_of_numberChars (by simp) (by simpa using hseven)
  have hitem : Derives deepest 0 (['\n'] ++ ['[']) (['\n'] ++ ['7'] ++ []) (.item (.leaf 3)) :=
    .item (by simp [Blanks]) (.word (by decide) hword) rfl blanks_nil
  have harray : Derives deepest 0 ['\n'] ('[' :: (['\n'] ++ ['7'] ++ []) ++ [']'])
      (.value (.array 1 [.leaf 3])) :=
    .array (Nat.zero_le deepest) (.lastItem hitem)
  have hdocument : Document deepest (withoutMark text.toList) (.array 1 [.leaf 3]) :=
    ⟨['\n'], _, [], by simp [Blanks], blanks_nil, by decide, rfl, harray⟩
  have hindex := ofText?_of_document hdocument
  have hstarts := (htexts _ hindex).2 _ hdocument
  exact ⟨_, hindex, (hstarts.root (by decide)).2.1,
    hstarts.unknown "[1].a" (.index 1) [.key "a"] (by decide +kernel) (by decide +kernel)
      (by simp [Outline.keys])⟩

/-- The empty key takes the entry of the root, in a value and in a text, and a key with a point is
found by a path whose first step is no key. -/
theorem root_moved_by_keys :
    ((LineIndex.ofValue (.object [("", .null)])).exactLine? "" = some 2 ∧
      (LineIndex.ofValue (.object [("", .null)])).resolve "$" = 2) ∧
    (∃ index, ofText? "\x7b\n\"\":1\x7d" = some index ∧ index.resolve "" = 2) ∧
    parse? "a.b" = some [.key "a", .key "b"] ∧
      .key "a" ∉ (Json.object [("a.b", .null)]).firstSteps ∧
      (LineIndex.ofValue (.object [("a.b", .null)])).resolve "a.b" = 2 := by
  have hempty : (LineIndex.ofValue (.object [("", .null)])).line? [] = some 2 := by
    rw [line?, LineIndex.ofValue, ofEntries_getElem?]
    decide +kernel
  have hdotted : (LineIndex.ofValue (.object [("a.b", .null)])).line? [.key "a", .key "b"] =
      some 2 := by
    rw [line?, LineIndex.ofValue, ofEntries_getElem?]
    decide +kernel
  have hparse : parse? "a.b" = some [.key "a", .key "b"] := by decide +kernel
  have hscan : scan? (withoutMark "\x7b\n\"\":1\x7d".toList) = some [("", 2)] := by
    decide +kernel
  have htext : (ofEntries [("", 2)]).line? [] = some 2 := by
    rw [line?, ofEntries_getElem?]
    decide
  refine ⟨⟨hempty, resolve_of_line? (by decide) hempty⟩, ⟨ofEntries [("", 2)], ?_, ?_⟩, hparse,
    by decide +kernel, resolve_of_line? hparse hdotted⟩
  · rw [ofText?, hscan, Option.map_some]
  · exact resolve_of_line? (by decide) htext

end LineIndex

end TemplateAudit
