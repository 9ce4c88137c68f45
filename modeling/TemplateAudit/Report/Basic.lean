import TemplateAudit.Evaluation
import TemplateAudit.Report.Timestamp

/-!
# Reports

A report collects the evaluations of one template and counts them as they are added. The counts,
and not the list, decide whether the template is accepted.
-/

namespace TemplateAudit

set_option autoImplicit false

structure SeverityCounts where
  error : Nat := 0
  warning : Nat := 0
  info : Nat := 0
deriving DecidableEq

namespace SeverityCounts

def total (c : SeverityCounts) : Nat :=
  c.error + c.warning + c.info

def add (c : SeverityCounts) : Severity → SeverityCounts
  | .error => { c with error := c.error + 1 }
  | .warning => { c with warning := c.warning + 1 }
  | .info => { c with info := c.info + 1 }

def toJson (c : SeverityCounts) : Json :=
  .object [("error", .ofNat c.error), ("warning", .ofNat c.warning), ("info", .ofNat c.info)]

def ofJson? (value : Json) : Option SeverityCounts :=
  match Tree.fields? [["error"], ["warning"], ["info"]] value with
  | some [error, warning, info] => do
    return ⟨← Tree.required? Tree.nat? error, ← Tree.required? Tree.nat? warning,
      ← Tree.required? Tree.nat? info⟩
  | _ => none

end SeverityCounts

structure Summary where
  rulesEvaluated : Nat := 0
  passed : Nat := 0
  failures : SeverityCounts := {}
  milliseconds : Nat := 0
  analyzedAt : Timestamp := .epoch
deriving DecidableEq

namespace Summary

def toJson (s : Summary) : Json :=
  .object [("rules_evaluated", .ofNat s.rulesEvaluated), ("passed", .ofNat s.passed),
    ("failures_by_severity", s.failures.toJson), ("execution_time_ms", .ofNat s.milliseconds),
    ("analyzed_at", .string s.analyzedAt.render)]

def ofJson? (value : Json) : Option Summary :=
  match Tree.fields? [["rules_evaluated"], ["passed"], ["failures_by_severity"],
      ["execution_time_ms"], ["analyzed_at"]] value with
  | some [evaluated, passed, failures, milliseconds, analyzedAt] => do
    return {
      rulesEvaluated := ← Tree.required? Tree.nat? evaluated
      passed := ← Tree.required? Tree.nat? passed
      failures := ← Tree.required? SeverityCounts.ofJson? failures
      milliseconds := ← Tree.required? Tree.nat? milliseconds
      analyzedAt := ← Tree.required? (fun v => (Json.string? v).bind Timestamp.parse?) analyzedAt }
  | _ => none

end Summary

structure Report where
  template : String
  evaluations : List Evaluation := []
  summary : Summary := {}

namespace Report

def start (template : String) (analyzedAt : Timestamp) : Report :=
  { template := template, summary := { analyzedAt := analyzedAt } }

def add (r : Report) (e : Evaluation) : Report :=
  { r with
    evaluations := r.evaluations ++ [e]
    summary := { r.summary with
      rulesEvaluated := r.summary.rulesEvaluated + 1
      passed := if e.passed then r.summary.passed + 1 else r.summary.passed
      failures := if e.passed then r.summary.failures else r.summary.failures.add e.severity } }

def sort (r : Report) : Report :=
  { r with evaluations := r.evaluations.mergeSort Evaluation.precedes }

def setTime (r : Report) (milliseconds : Nat) : Report :=
  { r with summary := { r.summary with milliseconds := milliseconds } }

def failed (r : Report) : List Evaluation :=
  r.evaluations.filter fun e => !e.passed

def hasFailures (r : Report) : Bool :=
  0 < r.summary.failures.total

def hasErrors (r : Report) : Bool :=
  0 < r.summary.failures.error

/-- The sorted report of evaluations that were delivered in some order. -/
def ofEvaluations (template : String) (analyzedAt : Timestamp) (es : List Evaluation) : Report :=
  (es.foldl add (start template analyzedAt)).sort

def ofJson? (value : Json) : Option Report :=
  match Tree.fields? [["template_identifier"], ["evaluations"], ["summary"]] value with
  | some [template, evaluations, summary] => do
    return {
      template := ← Tree.required? Tree.string? template
      evaluations := ← Tree.required? (Tree.list? Evaluation.ofJson?) evaluations
      summary := ← Tree.required? Summary.ofJson? summary }
  | _ => none

end Report

end TemplateAudit
