import TemplateAudit.Report.Basic

/-!
# Counts of reports

A report is changed by adding evaluations, by sorting them and by setting its time. However often
and in whatever order this is done, its counters are those of its list: adding keeps list and
counters in step, and sorting only rearranges the list. What the counters say of failures and errors
is therefore said of the evaluations themselves.
-/

namespace TemplateAudit

set_option autoImplicit false

def SeverityCounts.of (c : SeverityCounts) : Severity → Nat
  | .error => c.error
  | .warning => c.warning
  | .info => c.info

theorem SeverityCounts.of_add (c : SeverityCounts) (added severity : Severity) :
    (c.add added).of severity = c.of severity + if added = severity then 1 else 0 := by
  cases added <;> cases severity <;> rfl

/-- The evaluation failed, and its failures have the given severity. -/
def Evaluation.failedWith (severity : Severity) (e : Evaluation) : Bool :=
  !e.passed && e.severity == severity

namespace Report

inductive Reached : Report → Prop where
  | start (template : String) (analyzedAt : Timestamp) : Reached (start template analyzedAt)
  | add {r : Report} (e : Evaluation) : Reached r → Reached (r.add e)
  | sort {r : Report} : Reached r → Reached r.sort
  | setTime {r : Report} (milliseconds : Nat) : Reached r → Reached (r.setTime milliseconds)

theorem Reached.foldl_add {r : Report} (h : r.Reached) (es : List Evaluation) :
    (es.foldl Report.add r).Reached := by
  induction es generalizing r with
  | nil => exact h
  | cons e rest ih => exact ih (h.add e)

structure Counted (r : Report) : Prop where
  evaluated : r.summary.rulesEvaluated = r.evaluations.length
  passed : r.summary.passed = r.evaluations.countP Evaluation.passed
  failures : ∀ severity,
    r.summary.failures.of severity = r.evaluations.countP (Evaluation.failedWith severity)

theorem counted_start (template : String) (analyzedAt : Timestamp) :
    (start template analyzedAt).Counted where
  evaluated := rfl
  passed := rfl
  failures := by
    intro severity
    cases severity <;> rfl

section Steps
variable {r : Report} (h : r.Counted)
include h

theorem Counted.add (e : Evaluation) : (r.add e).Counted where
  evaluated := by
    simp only [Report.add, h.evaluated, List.length_append, List.length_singleton]
  passed := by
    simp only [Report.add, h.passed, List.countP_append, List.countP_singleton]
    cases e.passed <;> rfl
  failures := by
    intro severity
    simp only [Report.add, List.countP_append, List.countP_singleton, ← h.failures severity]
    by_cases hpassed : e.passed = true
    · simp [hpassed, Evaluation.failedWith]
    · simp [hpassed, Evaluation.failedWith, SeverityCounts.of_add]

theorem Counted.sort : r.sort.Counted := by
  have hperm : r.sort.evaluations.Perm r.evaluations := List.mergeSort_perm _ _
  constructor
  · rw [hperm.length_eq]
    exact h.evaluated
  · rw [hperm.countP_eq]
    exact h.passed
  · intro severity
    rw [hperm.countP_eq]
    exact h.failures severity

theorem Counted.setTime (milliseconds : Nat) : (r.setTime milliseconds).Counted :=
  ⟨h.evaluated, h.passed, h.failures⟩

end Steps

theorem Reached.counted {r : Report} (h : r.Reached) : r.Counted := by
  induction h with
  | start template analyzedAt => exact counted_start template analyzedAt
  | add e _ ih => exact ih.add e
  | sort _ ih => exact ih.sort
  | setTime milliseconds _ ih => exact ih.setTime milliseconds

theorem countP_failed (es : List Evaluation) :
    es.countP (fun e => !e.passed) = es.countP (Evaluation.failedWith .error) +
      es.countP (Evaluation.failedWith .warning) + es.countP (Evaluation.failedWith .info) := by
  induction es with
  | nil => rfl
  | cons e rest ih =>
    rw [List.countP_cons, List.countP_cons, List.countP_cons, List.countP_cons, ih]
    cases hpassed : e.passed with
    | true => simp [Evaluation.failedWith, hpassed]
    | false =>
      cases hseverity : e.severity <;> simp [Evaluation.failedWith, hpassed, hseverity] <;> omega

namespace Counted

variable {r : Report} (h : r.Counted)
include h

theorem total_eq : r.summary.failures.total = r.evaluations.countP fun e => !e.passed := by
  rw [countP_failed, ← h.failures, ← h.failures, ← h.failures]
  rfl

theorem evaluated_eq :
    r.summary.rulesEvaluated = r.summary.passed + r.summary.failures.total := by
  rw [h.evaluated, h.passed, h.total_eq]
  simpa using List.length_eq_countP_add_countP Evaluation.passed

theorem hasFailures_iff : r.hasFailures = true ↔ r.failed ≠ [] := by
  rw [hasFailures, h.total_eq, decide_eq_true_eq, List.countP_eq_length_filter,
    List.length_pos_iff, failed]

theorem hasErrors_iff : r.hasErrors = true ↔ ∃ e ∈ r.evaluations, e.isBlocking = true := by
  rw [hasErrors, decide_eq_true_eq]
  have herror : r.summary.failures.error = _ := h.failures .error
  rw [herror, List.countP_pos_iff]
  rfl

end Counted

end Report

end TemplateAudit
