import TemplateAudit.Finding
import TemplateAudit.Severity

/-!
# Evaluations

An evaluation is the outcome of one rule on one template. It is built from a passing one by adding
the rule's descriptions and then either the located findings, of which those without a failure are
dropped, or a fault that kept the rule from running.
-/

namespace TemplateAudit

set_option autoImplicit false

structure Evaluation where
  ruleId : String
  ruleName : String := ""
  description : String := ""
  helpUri : String := ""
  recommendation : String := ""
  severity : Severity
  template : String
  passed : Bool := true
  hasResults : Bool := false
  /-- The located findings under a root that carries the verdict. -/
  result : Finding UInt32 := .node true firstLine []
  /-- Why the rule could not be run. -/
  diagnostic : Option String := none

namespace Evaluation

def start (ruleId : String) (severity : Severity) (template : String) : Evaluation :=
  { ruleId := ruleId, severity := severity, template := template }

def withName (e : Evaluation) (name : String) : Evaluation :=
  { e with ruleName := name }

def withDescription (e : Evaluation) (description helpUri recommendation : String) : Evaluation :=
  { e with description := description, helpUri := helpUri, recommendation := recommendation }

def rootLine (findings : List (Finding UInt32)) : UInt32 :=
  (Finding.firstFailureIn? findings).getD firstLine

/-- Takes the verdict from findings; those without a failure are dropped. -/
def withResults (e : Evaluation) (findings : List (Finding UInt32)) : Evaluation :=
  let kept := findings.filter Finding.hasFailure
  { e with
    passed := kept.isEmpty
    hasResults := !kept.isEmpty
    result := .node kept.isEmpty (rootLine kept) kept }

/-- Fails because the rule could not be run. -/
def withFault (e : Evaluation) (diagnostic : String) : Evaluation :=
  { e with
    passed := false
    hasResults := true
    result := .node false firstLine [.node false firstLine []]
    diagnostic := some diagnostic }

/-- The line that the evaluation is reported at. -/
def line (e : Evaluation) : UInt32 :=
  e.result.place

def isBlocking (e : Evaluation) : Bool :=
  !e.passed && e.severity.isBlocking

def display (e : Evaluation) : String :=
  e.template ++ ":" ++ toString e.line ++ " [" ++ e.severity.name ++ "] " ++ e.ruleId ++ " " ++
    (if e.passed then "passed" else "failed") ++ ": " ++ e.description

/-- Order of reports: failures before passes, then by line, then by rule id. -/
def precedes (a b : Evaluation) : Bool :=
  if a.passed != b.passed then b.passed
  else if a.line ≠ b.line then a.line ≤ b.line
  else decide (a.ruleId ≤ b.ruleId)

def toJson (e : Evaluation) : Json :=
  .object ([("rule_id", .string e.ruleId), ("rule_name", .string e.ruleName),
      ("rule_description", .string e.description), ("help_uri", .string e.helpUri),
      ("recommendation", .string e.recommendation), ("severity", .string e.severity.name),
      ("template_identifier", .string e.template), ("passed", .bool e.passed),
      ("has_results", .bool e.hasResults), ("result", e.result.toJson Finding.lineFormat)] ++
    match e.diagnostic with
    | some text => [("diagnostic", .string text)]
    | none => [])

def fieldNames : List (List String) :=
  [["rule_id"], ["rule_name"], ["rule_description"], ["help_uri"], ["recommendation"],
    ["severity"], ["template_identifier"], ["passed"], ["has_results"], ["result"], ["diagnostic"]]

def ofJson? (value : Json) : Option Evaluation :=
  match Tree.fields? fieldNames value with
  | some [ruleId, ruleName, description, helpUri, recommendation, severity, template, passed,
      hasResults, result, diagnostic] => do
    return {
      ruleId := ← Tree.required? Tree.string? ruleId
      ruleName := ← Tree.required? Tree.string? ruleName
      description := ← Tree.required? Tree.string? description
      helpUri := ← Tree.required? Tree.string? helpUri
      recommendation := ← Tree.required? Tree.string? recommendation
      severity := ← Tree.required? Severity.ofTree? severity
      template := ← Tree.required? Tree.string? template
      passed := ← Tree.required? Tree.bool? passed
      hasResults := ← Tree.required? Tree.bool? hasResults
      result := ← Tree.required? (Finding.ofJson? Finding.lineFormat) result
      diagnostic := ← Tree.optionalField? Tree.string? diagnostic }
  | _ => none

end Evaluation

end TemplateAudit
