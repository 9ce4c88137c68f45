import TemplateAudit.Proofs.Evaluation

/-!
# Evaluations that are built up

An evaluation starts out passed and is built up by calls that name and describe its rule and by
calls that settle its verdict, in any order and as often as they come. After every sequence of calls
the verdict agrees with the result, and the last call that settles it has overwritten all that
earlier ones left of it.
-/

namespace TemplateAudit.Evaluation

set_option autoImplicit false

inductive Call where
  | name (text : String)
  | description (what uri fix : String)
  | results (found : List (Finding UInt32))
  | fault (diagnostic : String)

namespace Call

def apply (e : Evaluation) : Call → Evaluation
  | .name text => e.withName text
  | .description what uri fix => e.withDescription what uri fix
  | .results found => e.withResults found
  | .fault diagnostic => e.withFault diagnostic

def settles : Call → Bool
  | .results _ => true
  | .fault _ => true
  | _ => false

end Call

/-- The evaluation after some calls, the first one first. -/
def build (e : Evaluation) (calls : List Call) : Evaluation :=
  calls.foldl Call.apply e

def Built (e : Evaluation) : Prop :=
  ∃ ruleId severity template calls, e = (start ruleId severity template).build calls

structure SameVerdict (e other : Evaluation) : Prop where
  passed : e.passed = other.passed
  hasResults : e.hasResults = other.hasResults
  result : e.result = other.result

theorem SameVerdict.refl (e : Evaluation) : e.SameVerdict e :=
  ⟨rfl, rfl, rfl⟩

theorem SameVerdict.trans {e other third : Evaluation} (h : e.SameVerdict other)
    (hthird : other.SameVerdict third) : e.SameVerdict third :=
  ⟨h.passed.trans hthird.passed, h.hasResults.trans hthird.hasResults,
    h.result.trans hthird.result⟩

/-- What is coherent about an evaluation is a matter of its verdict alone. -/
theorem SameVerdict.coherent {e other : Evaluation} (h : e.SameVerdict other)
    (hother : other.Coherent) : e.Coherent where
  flagged := by rw [h.hasResults, h.passed, hother.flagged]
  failing := by rw [h.result, h.passed, hother.failing]
  root := by rw [h.result, h.passed, hother.root]
  children := by
    rw [h.result]
    exact hother.children
  failedLine := by
    rw [h.passed, line, h.result]
    exact hother.failedLine
  passedLine := by
    rw [h.passed, line, h.result]
    exact hother.passedLine

theorem coherent_start (ruleId : String) (severity : Severity) (template : String) :
    (start ruleId severity template).Coherent where
  flagged := rfl
  failing := rfl
  root := rfl
  children := by
    intro child hchild
    cases hchild
  failedLine := fun h => Bool.noConfusion h
  passedLine := fun _ => rfl

/-! ## One call -/

theorem sameVerdict_apply {call : Call} (h : call.settles = false) (e : Evaluation) :
    (call.apply e).SameVerdict e := by
  cases call with
  | name _ => exact ⟨rfl, rfl, rfl⟩
  | description _ _ _ => exact ⟨rfl, rfl, rfl⟩
  | results _ => cases h
  | fault _ => cases h

/-- A call that settles the verdict takes nothing over from the evaluation before it. -/
theorem apply_sameVerdict {call : Call} (h : call.settles = true) (e other : Evaluation) :
    (call.apply e).SameVerdict (call.apply other) := by
  cases call with
  | name _ => cases h
  | description _ _ _ => cases h
  | results _ => exact ⟨rfl, rfl, rfl⟩
  | fault _ => exact ⟨rfl, rfl, rfl⟩

theorem Coherent.apply {e : Evaluation} (h : e.Coherent) (call : Call) :
    (call.apply e).Coherent := by
  cases hsettles : call.settles with
  | false => exact (sameVerdict_apply hsettles e).coherent h
  | true =>
    cases call with
    | name _ => cases hsettles
    | description _ _ _ => cases hsettles
    | results found => exact coherent_withResults e found
    | fault diagnostic => exact coherent_withFault e diagnostic

/-! ## All calls -/

theorem build_append (e : Evaluation) (calls later : List Call) :
    e.build (calls ++ later) = (e.build calls).build later :=
  List.foldl_append

theorem Coherent.build {e : Evaluation} (h : e.Coherent) (calls : List Call) :
    (e.build calls).Coherent := by
  induction calls generalizing e with
  | nil => exact h
  | cons call rest ih => exact ih (h.apply call)

theorem Built.coherent {e : Evaluation} (h : e.Built) : e.Coherent := by
  obtain ⟨ruleId, severity, template, calls, rfl⟩ := h
  exact (coherent_start ruleId severity template).build calls

theorem sameVerdict_build {calls : List Call} (h : ∀ call ∈ calls, call.settles = false)
    (e : Evaluation) : (e.build calls).SameVerdict e := by
  induction calls generalizing e with
  | nil => exact .refl e
  | cons call rest ih =>
    obtain ⟨hcall, hrest⟩ := List.forall_mem_cons.mp h
    exact (ih hrest (call.apply e)).trans (sameVerdict_apply hcall e)

/-- The last call that settles the verdict gives it, whatever it is applied to. -/
theorem build_sameVerdict {call : Call} (hcall : call.settles = true) {after : List Call}
    (hafter : ∀ later ∈ after, later.settles = false) (e other : Evaluation)
    (before : List Call) : (e.build (before ++ call :: after)).SameVerdict (call.apply other) := by
  rw [build_append]
  exact (sameVerdict_build hafter _).trans (apply_sameVerdict hcall _ other)

theorem Coherent.failuresIn_eq_nil {e : Evaluation} (h : e.Coherent) (hpassed : e.passed = true) :
    Finding.failuresIn e.result.children = [] := by
  have hfailing := h.failing
  rw [hpassed, Finding.hasFailure_eq] at hfailing
  cases hresult : e.result with
  | node passed place children =>
    rw [hresult] at hfailing
    simp only [Finding.failures, Bool.not_true, Bool.not_eq_false', List.isEmpty_iff,
      List.append_eq_nil_iff] at hfailing
    exact hfailing.2

/-- The line of a coherent evaluation is that of the first node below the root that failed. -/
theorem Coherent.line_eq {e : Evaluation} (h : e.Coherent) :
    e.line = (((Finding.nodesIn e.result.children).find? fun node => !node.passed).map
      Finding.place).getD 1 := by
  rw [← List.head?_filter, ← List.head?_map, ← Finding.failuresIn_eq_nodesIn]
  cases hpassed : e.passed with
  | false => rw [h.failedLine hpassed, Option.getD_some]
  | true =>
    rw [h.failuresIn_eq_nil hpassed, h.passedLine hpassed]
    rfl

/-- Whatever calls an evaluation was built up by, its verdict agrees with its result and is that of
the last call that settles it; results keep the trees with a failed node, in their order. -/
theorem build_keeps_verdict (ruleId : String) (severity : Severity) (template : String)
    (calls : List Call) :
    let e := (start ruleId severity template).build calls
    (e.passed = !e.hasResults ∧ e.result.passed = e.passed ∧ e.result.hasFailure = !e.passed ∧
      (∀ child ∈ e.result.children, ∃ node ∈ child.nodes, node.passed = false) ∧
      e.line = (((Finding.nodesIn e.result.children).find? fun node => !node.passed).map
        Finding.place).getD 1) ∧
    ((∀ call ∈ calls, call.settles = false) →
      e.SameVerdict (start ruleId severity template)) ∧
    ∀ before call after, calls = before ++ call :: after → call.settles = true →
      (∀ later ∈ after, later.settles = false) →
      (∀ other : Evaluation, e.SameVerdict (call.apply other)) ∧
      ∀ found, call = .results found → e.result.children =
        found.filter fun tree => tree.nodes.any fun node => !node.passed := by
  intro e
  have hcoherent : e.Coherent := (coherent_start ruleId severity template).build calls
  refine ⟨⟨?_, hcoherent.root, hcoherent.failing, hcoherent.children, hcoherent.line_eq⟩,
    fun hcalls => sameVerdict_build hcalls _, ?_⟩
  · rw [hcoherent.flagged, Bool.not_not]
  · rintro before call after rfl hcall hafter
    have hsame : ∀ other : Evaluation, e.SameVerdict (call.apply other) :=
      fun other => build_sameVerdict hcall hafter _ other before
    refine ⟨hsame, ?_⟩
    rintro found rfl
    rw [(hsame e).result]
    exact List.filter_congr fun tree _ => Finding.hasFailure_eq_any tree

/-- A fault, then results of which one tree fails below a node that passed, then a name. -/
theorem build_keeps_verdict_overwritten :
    let deep : Finding UInt32 := .node true 4 [.node true 5 [], .node false 6 []]
    let calls : List Call := [.fault "stuck", .results [.node true 2 [], deep], .name "Https only"]
    let e := (start "AZR-000075" .error "main.json").build calls
    (∀ later ∈ [Call.name "Https only"], later.settles = false) ∧
      e.result.children = [deep] ∧ e.line = 6 ∧ e.passed = false := by
  intro deep calls e
  have hlast := (build_keeps_verdict "AZR-000075" .error "main.json" calls).2.2 [.fault "stuck"]
    (.results [.node true 2 [], deep]) [.name "Https only"] rfl rfl (by simp [Call.settles])
  refine ⟨by simp [Call.settles], ?_, rfl, (hlast.1 e).passed⟩
  exact hlast.2 _ rfl

end TemplateAudit.Evaluation
