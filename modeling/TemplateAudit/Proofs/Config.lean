import Mathlib.Data.List.Nodup
import Mathlib.Data.List.TakeWhile
import TemplateAudit.Config.Basic

/-!
# Consistent configurations

A configuration is accepted when its version is supported and its rules are read to the end without
a defect. The search for a defect carries the ids of the rules before; that none is found means that
no id is repeated and that every rule, taken by itself, is filled in and has a pattern that can be
read.
-/

namespace TemplateAudit

set_option autoImplicit false

theorem Text.trimChars_eq_nil_iff (cs : List Char) :
    Text.trimChars cs = [] ↔ ∀ c ∈ cs, Text.isBlank c = true := by
  constructor
  · intro h
    have hback : (cs.dropWhile Text.isBlank).reverse.dropWhile Text.isBlank = [] :=
      List.reverse_eq_nil_iff.mp h
    have hall := List.dropWhile_eq_nil_iff.mp hback
    apply List.dropWhile_eq_nil_iff.mp
    by_contra hne
    have hhead := List.head_dropWhile_not Text.isBlank hne
    rw [hall _ (List.mem_reverse.mpr (List.head_mem hne))] at hhead
    exact Bool.noConfusion hhead
  · intro h
    rw [Text.trimChars, List.dropWhile_eq_nil_iff.mpr h]
    rfl

theorem Text.isBlankText_iff (s : String) : Text.isBlankText s = true ↔ Text.trim s = "" := by
  rw [Text.isBlankText, List.all_eq_true, ← Text.trimChars_eq_nil_iff, Text.trim,
    String.ofList_eq_empty_iff]

namespace Rule

/-- A rule that has no defect of its own. -/
structure Sound (r : Rule) : Prop where
  filled : ∀ field ∈ r.descriptiveFields, Text.trim field.2 ≠ ""
  readable : r.hasBadPattern = false

theorem blankField?_eq_none_iff (r : Rule) :
    r.blankField? = none ↔ ∀ field ∈ r.descriptiveFields, Text.trim field.2 ≠ "" := by
  rw [blankField?, Option.map_eq_none_iff, List.find?_eq_none]
  constructor
  · intro h field hfield hblank
    exact h field hfield ((Text.isBlankText_iff field.2).mpr hblank)
  · intro h field hfield hblank
    exact h field hfield ((Text.isBlankText_iff field.2).mp hblank)

theorem defect?_eq_none_iff (r : Rule) (earlier : List String) :
    r.defect? earlier = none ↔ r.id ∉ earlier ∧ r.Sound := by
  unfold defect?
  constructor
  · intro h
    split at h
    · simp at h
    · rename_i hfresh
      split at h
      · simp at h
      · rename_i hblank
        split at h
        · simp at h
        · rename_i hpattern
          refine ⟨by simpa using hfresh, (blankField?_eq_none_iff r).mp hblank, ?_⟩
          simpa using hpattern
  · rintro ⟨hfresh, hsound⟩
    have hblank := (blankField?_eq_none_iff r).mpr hsound.filled
    simp [hfresh, hblank, hsound.readable]

end Rule

namespace Config

/-- The search for a defect ends without one exactly when ids are new, among the rules themselves
and to those before, and each rule is sound. -/
theorem firstDefect?_eq_none_iff (earlier : List String) (rules : List Rule) :
    firstDefect? earlier rules = none ↔
      (rules.map Rule.id).Nodup ∧ ∀ r ∈ rules, r.id ∉ earlier ∧ r.Sound := by
  induction rules generalizing earlier with
  | nil => simp [firstDefect?]
  | cons r rest ih =>
    have hstep : firstDefect? earlier (r :: rest) = none ↔
        r.defect? earlier = none ∧ firstDefect? (r.id :: earlier) rest = none := by
      rw [firstDefect?]
      cases r.defect? earlier with
      | none => simp
      | some e => simp
    rw [hstep, ih, Rule.defect?_eq_none_iff, List.map_cons, List.nodup_cons, List.forall_mem_cons]
    constructor
    · rintro ⟨hr, hdistinct, hrest⟩
      refine ⟨⟨?_, hdistinct⟩, hr, ?_⟩
      · intro hmem
        obtain ⟨other, hother, hid⟩ := List.mem_map.mp hmem
        exact (hrest other hother).1 (hid ▸ List.mem_cons_self)
      · intro other hother
        obtain ⟨hfresh, hsound⟩ := hrest other hother
        exact ⟨fun hmem => hfresh (List.mem_cons_of_mem _ hmem), hsound⟩
    · rintro ⟨⟨hnew, hdistinct⟩, hr, hrest⟩
      refine ⟨hr, hdistinct, ?_⟩
      intro other hother
      obtain ⟨hfresh, hsound⟩ := hrest other hother
      refine ⟨?_, hsound⟩
      intro hmem
      rcases List.mem_cons.mp hmem with hid | hmem
      · exact hnew (List.mem_map.mpr ⟨other, hother, hid⟩)
      · exact hfresh hmem

/-- What holds of the rules of every accepted configuration. -/
structure Consistent (c : Config) : Prop where
  distinct : (c.rules.map Rule.id).Nodup
  sound : ∀ r ∈ c.rules, r.Sound

theorem consistent_of_validate {c : Config} (h : c.validate = .ok ()) : c.Consistent := by
  unfold validate at h
  split at h
  · simp at h
  · split at h
    · simp at h
    · rename_i hnone
      obtain ⟨hdistinct, hrules⟩ := (firstDefect?_eq_none_iff [] c.rules).mp hnone
      exact ⟨hdistinct, fun r hr => (hrules r hr).2⟩

theorem Consistent.eq_of_id {c : Config} (h : c.Consistent) {r other : Rule} (hr : r ∈ c.rules)
    (hother : other ∈ c.rules) (hid : r.id = other.id) : r = other :=
  List.inj_on_of_nodup_map h.distinct hr hother hid

end Config

end TemplateAudit
