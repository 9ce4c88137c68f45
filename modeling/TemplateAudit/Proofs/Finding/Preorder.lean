import TemplateAudit.Proofs.Finding
import TemplateAudit.Proofs.Listing

/-!
# Findings in pre-order

The address of a node in a finding is the list of the positions of the children on the way to it.
In the lexicographic order of addresses a node comes before those below it, and these come in the
order of the children. The searches for failures agree with one another and with this order, and
relocating a finding replaces the place at every address and changes nothing else.
-/

namespace TemplateAudit.Finding

set_option autoImplicit false

variable {α β : Type}

def at? : Finding α → List Nat → Option (Finding α)
  | finding, [] => some finding
  | finding, position :: rest => finding.children[position]?.bind fun child => at? child rest

mutual

def addressed : Finding α → List (List Nat × Finding α)
  | .node passed place children => ([], .node passed place children) :: addressedIn 0 children

/-- The nodes of findings, the first of which stands at `position` among its siblings. -/
def addressedIn (position : Nat) : List (Finding α) → List (List Nat × Finding α)
  | [] => []
  | child :: rest => under position (addressed child) ++ addressedIn (position + 1) rest

end

theorem at?_cons_eq_some {finding node : Finding α} {position : Nat} {rest : List Nat} :
    finding.at? (position :: rest) = some node ↔
      ∃ child, finding.children[position]? = some child ∧ child.at? rest = some node := by
  rw [at?, Option.bind_eq_some_iff]

/-! ## Nodes and addresses -/

mutual

theorem map_snd_addressed : ∀ finding : Finding α, finding.addressed.map Prod.snd = finding.nodes
  | .node passed place children => by
    rw [addressed, nodes, List.map_cons, map_snd_addressedIn 0 children]

theorem map_snd_addressedIn (position : Nat) : ∀ found : List (Finding α),
    (addressedIn position found).map Prod.snd = nodesIn found
  | [] => rfl
  | child :: rest => by
    rw [addressedIn, nodesIn, List.map_append, map_snd_under, map_snd_addressed child,
      map_snd_addressedIn (position + 1) rest]

end

theorem mem_addressedIn {position : Nat} {found : List (Finding α)} {a : List Nat}
    {node : Finding α} :
    (a, node) ∈ addressedIn position found ↔ ∃ i child, found[i]? = some child ∧
      (a, node) ∈ under (position + i) child.addressed :=
  mem_numbered addressedIn (fun position child => under position child.addressed)
    (fun _ => by rw [addressedIn]) (fun _ _ _ => by rw [addressedIn])

theorem exists_cons_of_mem_addressedIn {position : Nat} {found : List (Finding α)} {a : List Nat}
    (h : a ∈ (addressedIn position found).map Prod.fst) : ∃ i b, a = (position + i) :: b := by
  obtain ⟨⟨_, node⟩, hnode, rfl⟩ := List.mem_map.mp h
  obtain ⟨i, child, -, hunder⟩ := mem_addressedIn.mp hnode
  obtain ⟨b, hb, -⟩ := mem_under.mp hunder
  exact ⟨i, b, hb⟩

theorem mem_addressed {finding node : Finding α} {a : List Nat} :
    (a, node) ∈ finding.addressed ↔ finding.at? a = some node := by
  induction a generalizing finding with
  | nil =>
    cases finding with
    | node passed place children =>
      simp [addressed, mem_addressedIn, mem_under, at?, eq_comm]
  | cons position rest ih =>
    rw [at?_cons_eq_some]
    cases finding with
    | node passed place children =>
      simp only [addressed, List.mem_cons, Prod.mk.injEq, reduceCtorEq, false_and, false_or,
        mem_addressedIn, mem_under, Nat.zero_add, List.cons.injEq, Finding.children]
      constructor
      · rintro ⟨_, child, hchild, _, ⟨rfl, rfl⟩, hnode⟩
        exact ⟨child, hchild, ih.mp hnode⟩
      · rintro ⟨child, hchild, hnode⟩
        exact ⟨position, child, hchild, rest, ⟨rfl, rfl⟩, ih.mpr hnode⟩

mutual

theorem pairwise_addressed : ∀ finding : Finding α,
    (finding.addressed.map Prod.fst).Pairwise (List.Lex (· < ·))
  | .node passed place children => by
    rw [addressed, List.map_cons, List.pairwise_cons]
    refine ⟨?_, pairwise_addressedIn 0 children⟩
    intro a ha
    obtain ⟨i, b, rfl⟩ := exists_cons_of_mem_addressedIn ha
    exact .nil

theorem pairwise_addressedIn (position : Nat) : ∀ found : List (Finding α),
    ((addressedIn position found).map Prod.fst).Pairwise (List.Lex (· < ·))
  | [] => List.Pairwise.nil
  | child :: rest => by
    rw [addressedIn, List.map_append, map_fst_under, List.pairwise_append]
    refine ⟨(pairwise_addressed child).map _ fun _ _ hab => .cons hab,
      pairwise_addressedIn (position + 1) rest, ?_⟩
    -- Whatever stands below a later sibling, the greater position decides.
    intro a ha b hb
    obtain ⟨below, -, rfl⟩ := List.mem_map.mp ha
    obtain ⟨i, other, rfl⟩ := exists_cons_of_mem_addressedIn hb
    exact .rel (by omega)

end

/-! ## Failures by address -/

/-- The addresses are those of the nodes that failed, a node before those below it and these in the
order of the children. -/
structure FailedAddresses (finding : Finding α) (addresses : List (List Nat)) : Prop where
  ordered : addresses.Pairwise (List.Lex (· < ·))
  exact : ∀ a, a ∈ addresses ↔ ∃ node, finding.at? a = some node ∧ node.passed = false

/-- The places are those of the nodes that failed, in pre-order. -/
def FailedPlaces (finding : Finding α) (places : List α) : Prop :=
  ∃ addresses, finding.FailedAddresses addresses ∧
    places.map some = addresses.map fun a => (finding.at? a).map place

def failedNodes (finding : Finding α) : List (List Nat × Finding α) :=
  finding.addressed.filter fun entry => !entry.2.passed

theorem mem_failedNodes {finding node : Finding α} {a : List Nat} :
    (a, node) ∈ finding.failedNodes ↔ finding.at? a = some node ∧ node.passed = false := by
  rw [failedNodes, List.mem_filter, mem_addressed, Bool.not_eq_true']

theorem failedAddresses_failedNodes (finding : Finding α) :
    finding.FailedAddresses (finding.failedNodes.map Prod.fst) where
  ordered := (pairwise_addressed finding).sublist (List.filter_sublist.map Prod.fst)
  exact := by
    intro a
    constructor
    · intro ha
      obtain ⟨⟨_, node⟩, hnode, rfl⟩ := List.mem_map.mp ha
      exact ⟨node, mem_failedNodes.mp hnode⟩
    · rintro ⟨node, hnode⟩
      exact List.mem_map.mpr ⟨(a, node), mem_failedNodes.mpr hnode, rfl⟩

theorem failures_eq_failedNodes (finding : Finding α) :
    finding.failures = finding.failedNodes.map fun entry => entry.2.place := by
  rw [failures_eq_nodes, ← map_snd_addressed, List.filter_map, List.map_map]
  rfl

theorem failedPlaces_failures (finding : Finding α) : finding.FailedPlaces finding.failures := by
  refine ⟨_, failedAddresses_failedNodes finding, ?_⟩
  rw [failures_eq_failedNodes, List.map_map, List.map_map]
  refine List.map_congr_left ?_
  rintro ⟨a, node⟩ hnode
  obtain ⟨hat, -⟩ := mem_failedNodes.mp hnode
  simp [hat]

/-! ## Relocation by address -/

theorem at?_map (f : α → β) (finding : Finding α) (a : List Nat) :
    (finding.map f).at? a = (finding.at? a).map (map f) := by
  induction a generalizing finding with
  | nil => rfl
  | cons position rest ih =>
    cases finding with
    | node passed place children =>
      rw [map, at?, at?, Finding.children, Finding.children, mapList_eq_map, List.getElem?_map]
      cases children[position]? with
      | none => rfl
      | some child => exact ih child

/-- A relocated finding has a node at an address exactly if the finding has one, with the same
verdict and the new place. -/
theorem node_at_map (f : α → β) (finding : Finding α) (a : List Nat) :
    ((finding.map f).at? a).map (fun node => (node.passed, node.place)) =
      (finding.at? a).map fun node => (node.passed, f node.place) := by
  rw [at?_map, Option.map_map]
  congr 1
  funext node
  cases node
  rfl

/-- The listed failures are the failed places in pre-order, the search for the first failure ends
at the head of the list, and there is a failure exactly if the list is not empty. A finding whose
paths are resolved to lines keeps its shape and its verdicts, and its failures are the lines of the
paths that failed. -/
theorem searches_agree_in_preorder (result : Finding UInt32) (finding : Finding String)
    (lineOf : String → UInt32) :
    (result.FailedPlaces result.failures ∧ result.firstFailure? = result.failures.head? ∧
      (result.firstFailure? = none ↔ result.failures = []) ∧
      (result.hasFailure = true ↔ result.failures ≠ [])) ∧
    (∀ a, ((finding.map lineOf).at? a).map (fun node => (node.passed, node.place)) =
      (finding.at? a).map fun node => (node.passed, lineOf node.place)) ∧
    finding.FailedPlaces finding.failures ∧
    (finding.map lineOf).failures = finding.failures.map lineOf := by
  refine ⟨⟨failedPlaces_failures result, firstFailure?_eq result, ?_, ?_⟩,
    node_at_map lineOf finding, failedPlaces_failures finding, failures_map lineOf finding⟩
  · rw [firstFailure?_eq, List.head?_eq_none_iff]
  · rw [hasFailure_eq, Bool.not_eq_true', List.isEmpty_eq_false_iff]

end TemplateAudit.Finding
