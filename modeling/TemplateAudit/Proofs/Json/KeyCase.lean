import Mathlib.Data.List.Pairwise
import TemplateAudit.Proofs.Json.Address
import TemplateAudit.Text.Case

/-!
# Keys up to letter case

Keys are told apart up to the case of ASCII letters when no two members of an object have keys that
differ in nothing else. A search for a key, in whatever case, can then find one member only, and does
not depend on the order in which members stand.
-/

namespace TemplateAudit

set_option autoImplicit false

namespace Text

theorem asciiEq_iff (a b : String) :
    asciiEq a b = true ↔ a.toList.map asciiLower = b.toList.map asciiLower := by
  rw [asciiEq, beq_iff_eq]

theorem asciiEq_refl (a : String) : asciiEq a a = true :=
  (asciiEq_iff a a).mpr rfl

theorem asciiEq_comm (a b : String) : asciiEq a b = asciiEq b a := by
  rw [Bool.eq_iff_iff, asciiEq_iff, asciiEq_iff, eq_comm]

theorem asciiEq_trans {a b c : String} (hab : asciiEq a b = true) (hbc : asciiEq b c = true) :
    asciiEq a c = true := by
  rw [asciiEq_iff] at hab hbc ⊢
  exact hab.trans hbc

theorem asciiEq_of_both {key : String} :
    ∀ a b, asciiEq a key = true → asciiEq b key = true → asciiEq a b = true := by
  intro a b ha hb
  rw [asciiEq_comm] at hb
  exact asciiEq_trans ha hb

end Text

/-! ## Searches that can find one thing only -/

section Unique
variable {α : Type} {p : α → Bool} {xs ys : List α}
variable (h : ∀ x ∈ xs, ∀ y ∈ xs, p x = true → p y = true → x = y)
include h

theorem find?_eq_some_iff_of_unique {x : α} : xs.find? p = some x ↔ x ∈ xs ∧ p x = true := by
  constructor
  · intro hfind
    exact ⟨List.mem_of_find?_eq_some hfind, List.find?_some hfind⟩
  · rintro ⟨hx, hpx⟩
    cases hfind : xs.find? p with
    | none => exact absurd hpx (List.find?_eq_none.mp hfind x hx)
    | some y =>
      have hy := h y (List.mem_of_find?_eq_some hfind) x hx (List.find?_some hfind) hpx
      rw [hy]

theorem find?_eq_of_perm (hperm : xs.Perm ys) : xs.find? p = ys.find? p := by
  have hys : ∀ x ∈ ys, ∀ y ∈ ys, p x = true → p y = true → x = y := by
    intro x hx y hy
    exact h x (hperm.mem_iff.mpr hx) y (hperm.mem_iff.mpr hy)
  apply Option.ext
  intro x
  rw [find?_eq_some_iff_of_unique h, find?_eq_some_iff_of_unique hys, hperm.mem_iff]

end Unique

namespace Json

def KeysApart : Json → Prop
  | .object members => (members.map Prod.fst).Pairwise fun a b => Text.asciiEq a b = false
  | _ => True

/-- No object of the value has two keys that are equal up to the case of ASCII letters. -/
def CaseApart (value : Json) : Prop :=
  value.Everywhere KeysApart

theorem CaseApart.keys {members : Members} (h : CaseApart (.object members)) :
    KeysApart (.object members) :=
  h.root

theorem keysApart_of_perm {members others : Members}
    (hperm : (members.map Prod.fst).Perm (others.map Prod.fst)) (h : KeysApart (.object members)) :
    KeysApart (.object others) := by
  apply (hperm.pairwise_iff _).mp h
  intro a b hab
  rw [Text.asciiEq_comm]
  exact hab

/-- A search can find one member only if the keys that it accepts are equal up to case. -/
theorem KeysApart.unique {members : Members} (h : KeysApart (.object members)) {p : String → Bool}
    (hp : ∀ a b, p a = true → p b = true → Text.asciiEq a b = true) :
    ∀ m ∈ members, ∀ other ∈ members, p m.1 = true → p other.1 = true → m = other := by
  intro m hm other hother hpm hpother
  by_contra hne
  have hapart : members.Pairwise fun m other => Text.asciiEq m.1 other.1 = false :=
    List.pairwise_map.mp h
  have hsymm : Std.Symm fun m other : String × Json => Text.asciiEq m.1 other.1 = false := by
    constructor
    intro m other hapart
    rw [Text.asciiEq_comm]
    exact hapart
  have hdiffer := hapart.forall hm hother hne
  rw [hp m.1 other.1 hpm hpother] at hdiffer
  cases hdiffer

theorem KeysApart.nodup {members : Members} (h : KeysApart (.object members)) :
    (members.map Prod.fst).Nodup := by
  apply List.Pairwise.imp _ h
  rintro a _ hapart rfl
  rw [Text.asciiEq_refl] at hapart
  cases hapart

theorem CaseApart.distinctKeys {value : Json} (h : value.CaseApart) : value.DistinctKeys := by
  apply Everywhere.mono (Q := KeysDistinct) h
  intro node hnode
  cases node with
  | object members => exact KeysApart.nodup hnode
  | _ => trivial

theorem caseApart_object_iff {members : Members} :
    CaseApart (.object members) ↔
      KeysApart (.object members) ∧ ∀ m ∈ members, m.2.CaseApart := by
  constructor
  · intro h
    refine ⟨h.keys, ?_⟩
    intro m hm
    exact h.child (s := .key m.1) (Members.get?_of_mem h.distinctKeys.keys hm)
  · rintro ⟨hkeys, hmembers⟩
    exact everywhere_object hkeys hmembers

theorem caseApart_array_iff {items : List Json} :
    CaseApart (.array items) ↔ ∀ item ∈ items, item.CaseApart := by
  constructor
  · intro h item hitem
    obtain ⟨position, hposition⟩ := List.mem_iff_getElem?.mp hitem
    exact h.child (s := .index position) hposition
  · intro hitems
    exact everywhere_array trivial hitems

@[simp] theorem caseApart_null : CaseApart .null :=
  everywhere_scalar trivial fun _ => rfl

@[simp] theorem caseApart_string (s : String) : CaseApart (.string s) :=
  everywhere_scalar trivial fun _ => rfl

end Json

end TemplateAudit
