import TemplateAudit.Finding

/-!
# Failures of findings

A finding has a failure exactly when one of its places failed, the first failure is the head of
those that are listed, and relocating the places of a finding keeps its shape and its failures.
-/

namespace TemplateAudit.Finding

set_option autoImplicit false

variable {α β : Type}

mutual

/-- All places of a finding as findings, in pre-order. -/
def nodes : Finding α → List (Finding α)
  | .node passed place children => .node passed place children :: nodesIn children

def nodesIn : List (Finding α) → List (Finding α)
  | [] => []
  | child :: rest => nodes child ++ nodesIn rest

end

theorem mem_nodesIn_cons {node : Finding α} {passed : Bool} {place : α}
    {children found : List (Finding α)} :
    node ∈ nodesIn (.node passed place children :: found) ↔
      node = .node passed place children ∨ node ∈ nodesIn children ∨ node ∈ nodesIn found := by
  simp [nodesIn, nodes]

theorem mapList_eq_map (f : α → β) (found : List (Finding α)) :
    mapList f found = found.map (map f) := by
  induction found with
  | nil => rfl
  | cons child rest ih => rw [mapList, ih, List.map_cons]

theorem failuresIn_append (found others : List (Finding α)) :
    failuresIn (found ++ others) = failuresIn found ++ failuresIn others := by
  induction found with
  | nil => rfl
  | cons child rest ih => rw [List.cons_append, failuresIn, failuresIn, ih, List.append_assoc]

theorem failuresIn_flatMap {γ : Type} (entries : List γ) (f : γ → List (Finding α)) :
    failuresIn (entries.flatMap f) = entries.flatMap fun entry => failuresIn (f entry) := by
  induction entries with
  | nil => rfl
  | cons entry rest ih => rw [List.flatMap_cons, List.flatMap_cons, failuresIn_append, ih]

theorem failuresIn_eq_flatMap (found : List (Finding α)) :
    failuresIn found = found.flatMap failures := by
  induction found with
  | nil => rfl
  | cons child rest ih => rw [failuresIn, ih, List.flatMap_cons]

theorem failuresIn_perm {found others : List (Finding α)} (h : found.Perm others) :
    (failuresIn found).Perm (failuresIn others) := by
  rw [failuresIn_eq_flatMap, failuresIn_eq_flatMap]
  exact h.flatMap_right failures

mutual

theorem hasFailure_eq : ∀ finding : Finding α, finding.hasFailure = !finding.failures.isEmpty
  | .node true place children => by simp [hasFailure, failures, anyFailure_eq children]
  | .node false place children => by simp [hasFailure, failures]

theorem anyFailure_eq : ∀ found : List (Finding α), anyFailure found = !(failuresIn found).isEmpty
  | [] => rfl
  | child :: rest => by
    rw [anyFailure, failuresIn, hasFailure_eq child, anyFailure_eq rest]
    cases child.failures <;> simp

end

mutual

theorem failures_eq_nodes : ∀ finding : Finding α,
    finding.failures = (finding.nodes.filter fun node => !node.passed).map place
  | .node true place children => by
    simp [failures, nodes, passed, failuresIn_eq_nodesIn children]
  | .node false place children => by
    simp [failures, nodes, passed, Finding.place, failuresIn_eq_nodesIn children]

theorem failuresIn_eq_nodesIn : ∀ found : List (Finding α),
    failuresIn found = ((nodesIn found).filter fun node => !node.passed).map place
  | [] => rfl
  | child :: rest => by
    rw [failuresIn, nodesIn, List.filter_append, List.map_append, failures_eq_nodes child,
      failuresIn_eq_nodesIn rest]

end

theorem hasFailure_eq_any (finding : Finding α) :
    finding.hasFailure = finding.nodes.any fun node => !node.passed := by
  rw [hasFailure_eq, failures_eq_nodes, List.isEmpty_map, Bool.eq_iff_iff]
  simp

mutual

theorem failures_map (f : α → β) : ∀ finding : Finding α,
    (finding.map f).failures = finding.failures.map f
  | .node true place children => by simp [map, failures, failuresIn_mapList f children]
  | .node false place children => by simp [map, failures, failuresIn_mapList f children]

theorem failuresIn_mapList (f : α → β) : ∀ found : List (Finding α),
    failuresIn (mapList f found) = (failuresIn found).map f
  | [] => rfl
  | child :: rest => by
    rw [mapList, failuresIn, failuresIn, failures_map f child, failuresIn_mapList f rest,
      List.map_append]

end

theorem hasFailure_map (f : α → β) (finding : Finding α) :
    (finding.map f).hasFailure = finding.hasFailure := by
  rw [hasFailure_eq, hasFailure_eq, failures_map, List.isEmpty_map]

/-! ## The first failure -/

mutual

theorem firstFailure?_eq : ∀ finding : Finding α, finding.firstFailure? = finding.failures.head?
  | .node true place children => by
    simp only [firstFailure?, failures, if_true, List.nil_append]
    exact firstFailureIn?_eq children
  | .node false place children => by simp [firstFailure?, failures]

theorem firstFailureIn?_eq : ∀ found : List (Finding α),
    firstFailureIn? found = (failuresIn found).head?
  | [] => rfl
  | child :: rest => by
    rw [firstFailureIn?, failuresIn, firstFailure?_eq child, firstFailureIn?_eq rest]
    cases child.failures <;> simp

end

theorem firstFailureIn?_mapList (f : α → β) (found : List (Finding α)) :
    firstFailureIn? (mapList f found) = (firstFailureIn? found).map f := by
  rw [firstFailureIn?_eq, firstFailureIn?_eq, failuresIn_mapList, List.head?_map]

theorem exists_firstFailure {found : List (Finding α)} (hne : found ≠ [])
    (h : ∀ finding ∈ found, finding.hasFailure = true) :
    ∃ place, firstFailureIn? found = some place := by
  cases found with
  | nil => exact absurd rfl hne
  | cons child rest =>
    have hchild := h child List.mem_cons_self
    rw [hasFailure_eq] at hchild
    rw [firstFailureIn?_eq, failuresIn]
    cases hfailures : child.failures with
    | nil => simp [hfailures] at hchild
    | cons place others => exact ⟨place, rfl⟩

/-! ## Relocation -/

mutual

theorem map_map {γ : Type} (g : β → γ) (f : α → β) : ∀ finding : Finding α,
    (finding.map f).map g = finding.map fun place => g (f place)
  | .node passed place children => by rw [map, map, map, mapList_mapList g f children]

theorem mapList_mapList {γ : Type} (g : β → γ) (f : α → β) : ∀ found : List (Finding α),
    mapList g (mapList f found) = mapList (fun place => g (f place)) found
  | [] => rfl
  | child :: rest => by
    rw [mapList, mapList, mapList, map_map g f child, mapList_mapList g f rest]

end

/-- Whether a finding is kept does not depend on its places. -/
theorem filter_mapList (f : α → β) (found : List (Finding α)) :
    (mapList f found).filter hasFailure = mapList f (found.filter hasFailure) := by
  rw [mapList_eq_map, mapList_eq_map, List.filter_map]
  congr 2
  funext finding
  exact hasFailure_map f finding

mutual

theorem place_of_mem_nodes (f : α → β) : ∀ finding : Finding α, ∀ node ∈ (finding.map f).nodes,
    ∃ place, node.place = f place
  | .node passed place children => by
    intro node hnode
    rw [map, nodes, List.mem_cons] at hnode
    rcases hnode with rfl | hbelow
    · exact ⟨place, rfl⟩
    · exact place_of_mem_nodesIn f children node hbelow

theorem place_of_mem_nodesIn (f : α → β) : ∀ found : List (Finding α),
    ∀ node ∈ nodesIn (mapList f found), ∃ place, node.place = f place
  | [] => by
    intro node hnode
    simp [mapList, nodesIn] at hnode
  | child :: rest => by
    intro node hnode
    rw [mapList, nodesIn, List.mem_append] at hnode
    rcases hnode with hchild | hrest
    · exact place_of_mem_nodes f child node hchild
    · exact place_of_mem_nodesIn f rest node hrest

end

mutual

theorem exists_failed_node : ∀ finding : Finding α, finding.hasFailure = true →
    ∃ node ∈ finding.nodes, node.passed = false
  | .node false place children => by
    intro _
    rw [nodes]
    exact ⟨_, List.mem_cons_self, rfl⟩
  | .node true place children => by
    intro h
    obtain ⟨node, hnode, hfailed⟩ := exists_failed_nodeIn children (by simpa [hasFailure] using h)
    rw [nodes]
    exact ⟨node, List.mem_cons_of_mem _ hnode, hfailed⟩

theorem exists_failed_nodeIn : ∀ found : List (Finding α), anyFailure found = true →
    ∃ node ∈ nodesIn found, node.passed = false
  | [] => by
    intro h
    simp [anyFailure] at h
  | child :: rest => by
    intro h
    rw [anyFailure, Bool.or_eq_true] at h
    rw [nodesIn]
    rcases h with hchild | hrest
    · obtain ⟨node, hnode, hfailed⟩ := exists_failed_node child hchild
      exact ⟨node, List.mem_append_left _ hnode, hfailed⟩
    · obtain ⟨node, hnode, hfailed⟩ := exists_failed_nodeIn rest hrest
      exact ⟨node, List.mem_append_right _ hnode, hfailed⟩

end

end TemplateAudit.Finding
