import TemplateAudit.Proofs.LineIndex.Outline

/-!
# Outlines of values

An outline covers a value when it has a node for every address of the value. Of several members with
one key both an outline and an object that was read take the last.
-/

namespace TemplateAudit.LineIndex

set_option autoImplicit false

open Json TemplateAudit.Path

namespace Outline

def Covers (node : Outline) (value : Json) : Prop :=
  ∀ a found, value.at? a = some found → ∃ inner, node.at? a = some inner

theorem covers_step {node : Outline} {value : Json}
    (h : ∀ s next, value.child? s = some next →
      ∃ inner, node.child? s = some inner ∧ inner.Covers next) :
    node.Covers value := by
  intro a found hfound
  cases a with
  | nil => exact ⟨node, rfl⟩
  | cons s a =>
    obtain ⟨next, hnext, hrest⟩ := Json.at?_cons_eq_some.mp hfound
    obtain ⟨inner, hinner, hcovers⟩ := h s next hnext
    obtain ⟨last, hlast⟩ := hcovers a found hrest
    exact ⟨last, at?_cons_eq_some.mpr ⟨inner, hinner, hlast⟩⟩

theorem covers_array {line : Nat} {nodes : List Outline} {values : List Json}
    (h : List.Forall₂ Covers nodes values) : (Outline.array line nodes).Covers (.array values) := by
  refine covers_step fun s next hnext => ?_
  cases s with
  | key name => simp [Json.child?] at hnext
  | index position =>
    obtain ⟨hposition, hvalue⟩ := List.getElem?_eq_some_iff.mp hnext
    have hlength : position < nodes.length := h.length_eq ▸ hposition
    refine ⟨nodes[position], List.getElem?_eq_getElem hlength, ?_⟩
    rw [← hvalue]
    exact h.get hlength hposition

/-- A member of an object that was read comes from the last of the members with its key. -/
theorem memberAt?_of_foldl_set {nodes : List (String × Outline)} {members : List (String × Json)}
    (h : List.Forall₂ (fun n m => n.1 = m.1 ∧ n.2.Covers m.2) nodes members) (before : Members)
    {name : String} {value : Json}
    (hvalue : Members.get? (members.foldl (fun ms m => Members.set ms m.1 m.2) before) name =
      some value) :
    (∃ node, memberAt? nodes name = some node ∧ node.Covers value) ∨
      memberAt? nodes name = none ∧ Members.get? before name = some value := by
  induction h generalizing before with
  | nil => exact Or.inr ⟨rfl, hvalue⟩
  | @cons n m nodes members hpair _ ih =>
    rcases ih (Members.set before m.1 m.2) hvalue with ⟨node, hnode, hcovers⟩ | ⟨hnone, hbefore⟩
    · exact Or.inl ⟨node, by rw [memberAt?, hnode, Option.some_or], hcovers⟩
    · rw [Members.get?_set] at hbefore
      split at hbefore
      · rename_i hkey
        obtain rfl := Option.some.inj hbefore
        refine Or.inl ⟨n.2, ?_, hpair.2⟩
        rw [memberAt?, hnone, Option.none_or, if_pos (hpair.1.trans hkey)]
      · rename_i hkey
        refine Or.inr ⟨?_, hbefore⟩
        rw [memberAt?, hnone, Option.none_or, if_neg (hpair.1 ▸ hkey)]

theorem covers_object {line : Nat} {nodes : List (String × Outline)}
    {members : List (String × Json)}
    (h : List.Forall₂ (fun n m => n.1 = m.1 ∧ n.2.Covers m.2) nodes members) :
    (Outline.object line nodes).Covers (.object (Members.ofList members)) := by
  refine covers_step fun s next hnext => ?_
  cases s with
  | index position => simp [Json.child?] at hnext
  | key name =>
    rcases memberAt?_of_foldl_set h [] hnext with hfound | ⟨-, hempty⟩
    · exact hfound
    · simp [Members.get?] at hempty

theorem pathSafe_array {line : Nat} {nodes : List Outline} (h : ∀ node ∈ nodes, node.PathSafe) :
    (Outline.array line nodes).PathSafe := by
  intro a found members hfound
  cases a with
  | nil => simp at hfound
  | cons s a =>
    obtain ⟨next, hnext, hrest⟩ := at?_cons_eq_some.mp hfound
    cases s with
    | key name => simp [child?] at hnext
    | index position => exact h next (List.mem_of_getElem? hnext) a found members hrest

theorem pathSafe_object {line : Nat} {nodes : List (String × Outline)}
    (hkeys : SafeKeys (nodes.map Prod.fst)) (h : ∀ node ∈ nodes, node.2.PathSafe) :
    (Outline.object line nodes).PathSafe := by
  intro a found members hfound
  cases a with
  | nil =>
    obtain ⟨-, rfl⟩ : line = found ∧ nodes = members := by simpa using hfound
    exact hkeys
  | cons s a =>
    obtain ⟨next, hnext, hrest⟩ := at?_cons_eq_some.mp hfound
    cases s with
    | key name => exact h _ (mem_of_memberAt? hnext) a found members hrest
    | index position => simp [child?] at hnext

theorem pathSafe_leaf (line : Nat) : (Outline.leaf line).PathSafe := by
  intro a found members hfound
  cases a with
  | nil => simp at hfound
  | cons s a => simp [at?, child?] at hfound

end Outline

end TemplateAudit.LineIndex
