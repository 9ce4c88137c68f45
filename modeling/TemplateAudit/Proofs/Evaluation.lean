import TemplateAudit.Evaluation
import TemplateAudit.Proofs.Finding

/-!
# Verdicts and results

The verdict of an evaluation, the flag for its results and the tree of its result say the same, and
the root of the tree takes its line from the first failure below it. Both ways to end an evaluation,
with findings and with a fault, bring this about from scratch.
-/

namespace TemplateAudit.Evaluation

set_option autoImplicit false

/-- The verdict of the evaluation agrees with its result. -/
structure Coherent (e : Evaluation) : Prop where
  flagged : e.hasResults = !e.passed
  failing : e.result.hasFailure = !e.passed
  root : e.result.passed = e.passed
  children : ∀ child ∈ e.result.children, ∃ node ∈ child.nodes, node.passed = false
  failedLine : e.passed = false → (Finding.failuresIn e.result.children).head? = some e.line
  passedLine : e.passed = true → e.line = 1

theorem coherent_withFault (e : Evaluation) (diagnostic : String) :
    (e.withFault diagnostic).Coherent where
  flagged := rfl
  failing := rfl
  root := rfl
  children := by
    intro child hchild
    obtain rfl := List.mem_singleton.mp hchild
    exact ⟨_, List.mem_cons_self, rfl⟩
  failedLine := fun _ => rfl
  passedLine := fun h => Bool.noConfusion h

theorem coherent_withResults (e : Evaluation) (found : List (Finding UInt32)) :
    (e.withResults found).Coherent := by
  have hfails : ∀ x ∈ found.filter Finding.hasFailure, x.hasFailure = true :=
    fun x hx => (List.mem_filter.mp hx).2
  unfold withResults
  generalize found.filter Finding.hasFailure = kept at hfails
  refine ⟨rfl, ?_, rfl, ?_, ?_, ?_⟩
  · cases kept with
    | nil => rfl
    | cons child rest => simp [Finding.hasFailure]
  · intro child hchild
    exact Finding.exists_failed_node child (hfails child hchild)
  · intro hfailed
    have hne : kept ≠ [] := by simpa using hfailed
    obtain ⟨place, hplace⟩ := Finding.exists_firstFailure hne hfails
    simp only [line, Finding.place, Finding.children, rootLine, hplace, Option.getD_some]
    rw [← Finding.firstFailureIn?_eq, hplace]
  · intro hpassed
    obtain rfl : kept = [] := by simpa using hpassed
    rfl

theorem passed_withResults (e : Evaluation) (found : List (Finding UInt32)) :
    (e.withResults found).passed = (Finding.failuresIn found).isEmpty := by
  rw [withResults]
  induction found with
  | nil => rfl
  | cons child rest ih =>
    rw [Finding.failuresIn, List.filter_cons, Finding.hasFailure_eq]
    cases hfailures : child.failures with
    | nil => simpa using ih
    | cons place places => simp

/-- Findings are dropped before or after they are located. -/
theorem withResults_mapList {α : Type} (e : Evaluation) (lineOf : α → UInt32)
    (found : List (Finding α)) :
    let kept := found.filter Finding.hasFailure
    e.withResults (Finding.mapList lineOf found) =
      { e with
        passed := kept.isEmpty
        hasResults := !kept.isEmpty
        result := .node kept.isEmpty (((Finding.firstFailureIn? kept).map lineOf).getD firstLine)
          (Finding.mapList lineOf kept) } := by
  intro kept
  simp only [withResults, rootLine, Finding.filter_mapList, Finding.firstFailureIn?_mapList]
  rw [Finding.mapList_eq_map, List.isEmpty_map]

/-- Every line of a result is that of a place that was found, or the first line. -/
theorem place_withResults {α : Type} (e : Evaluation) (lineOf : α → UInt32)
    (found : List (Finding α)) :
    ∀ node ∈ (e.withResults (Finding.mapList lineOf found)).result.nodes,
      node.place = firstLine ∨ ∃ place, node.place = lineOf place := by
  rw [withResults_mapList]
  generalize found.filter Finding.hasFailure = kept
  intro node hnode
  rw [Finding.nodes, List.mem_cons] at hnode
  rcases hnode with rfl | hbelow
  · cases hfirst : Finding.firstFailureIn? kept with
    | none => exact Or.inl rfl
    | some place => exact Or.inr ⟨place, rfl⟩
  · exact Or.inr (Finding.place_of_mem_nodesIn lineOf kept node hbelow)

theorem place_withFault (e : Evaluation) (diagnostic : String) :
    ∀ node ∈ (e.withFault diagnostic).result.nodes, node.place = firstLine := by
  intro node hnode
  have hcases : node = .node false firstLine [.node false firstLine []] ∨
      node = .node false firstLine [] := by
    simpa [withFault, Finding.nodes, Finding.nodesIn] using hnode
  rcases hcases with rfl | rfl
  · rfl
  · rfl

end TemplateAudit.Evaluation
