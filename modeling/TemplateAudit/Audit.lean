import TemplateAudit.Baseline.Basic
import TemplateAudit.Engine.Basic
import TemplateAudit.Report.Basic
import TemplateAudit.Selection

/-!
# Audits

An audit runs the selected rules of a consistent configuration on templates. A template that cannot
be used is refused; a rule that fails or crashes is reported as a failed evaluation and leaves the
other rules alone. Every place that a rule reports is located at a line.
-/

namespace TemplateAudit

set_option autoImplicit false

/-- The rules to be run, and what they are run with. -/
structure Audit where
  selection : Selection
  /-- The enabled rules of the selection. -/
  rules : List Rule
  engine : Engine
  /-- The rules that a full run leaves out. -/
  baseline : Baseline
  /-- Number of enabled rules outside of the selection. -/
  unselected : Nat
  /-- Number of rules that are not enabled. -/
  disabled : Nat

/-- How many rules a configuration has, by what becomes of them. -/
structure RuleStats where
  selected : Nat
  security : Nat
  general : Nat
  unselected : Nat
  disabled : Nat
deriving DecidableEq

def RuleStats.total (s : RuleStats) : Nat :=
  s.selected + s.unselected + s.disabled

namespace Audit

/-- An audit with the built-in engine and the baseline of the configuration. -/
def ofConfig (c : Config) (selection : Selection) (home : String) : Except Error Audit :=
  match c.validate with
  | .error e => .error e
  | .ok () =>
    let rules := c.enabledRules.filter selection.includes
    .ok {
      selection := selection
      rules := rules
      engine := (DeclarativeEngine.forRules rules).toEngine
      baseline := .ofFile (c.baselinePath home)
      unselected := (c.enabledRules.filter fun rule => !selection.includes rule).length
      disabled := (c.rules.filter fun rule => !rule.enabled).length }

def withEngine (a : Audit) (engine : Engine) : Audit :=
  { a with engine := engine }

def withBaseline (a : Audit) (baseline : Baseline) : Audit :=
  { a with baseline := baseline }

/-- The audit with its baseline read, unless it is known. -/
def load {m : Type → Type} [Monad m] (read : FileReader m) (a : Audit) : m Audit := do
  return a.withBaseline (← a.baseline.load read)

/-- Whether the baseline keeps a rule from being run. -/
def isSuppressed (a : Audit) (rule : Rule) : Bool :=
  a.selection.appliesBaseline && a.baseline.known.contains rule.id

def activeRules (a : Audit) : List Rule :=
  a.rules.filter fun rule => !a.isSuppressed rule

def stats (a : Audit) : RuleStats :=
  let security := (a.rules.filter fun rule => rule.category == .security).length
  ⟨a.rules.length, security, a.rules.length - security, a.unselected, a.disabled⟩

def crash (engine : Engine) (rule : Rule) (message : Option String) : Error :=
  .ruleFailed rule.id (engine.name ++ " engine panicked: " ++ message.getD "unknown panic")

/-- Runs one rule; `lineOf` locates the places that it reports. -/
def evaluate (engine : Engine) (template : Template) (lineOf : String → UInt32) (rule : Rule) :
    Evaluation :=
  let base := ((Evaluation.start rule.id rule.severity template.identifier).withName
    rule.name).withDescription rule.description rule.helpUri rule.recommendation
  match engine.run rule template with
  | .findings found => base.withResults (Finding.mapList lineOf found)
  | .failed cause => base.withFault cause.message
  | .crashed message => base.withFault (crash engine rule message).message

/-- The evaluations of a template, one for each rule that is run. -/
def evaluations (a : Audit) (template : Template) : Except Error (List Evaluation) :=
  match template.validate with
  | .error e => .error e
  | .ok () =>
    match template.lines with
    | .error e => .error e
    | .ok lineOf => .ok (a.activeRules.map (evaluate a.engine template lineOf))

def report (a : Audit) (template : Template) (analyzedAt : Timestamp) : Except Error Report :=
  match a.evaluations template with
  | .ok es => .ok (Report.ofEvaluations template.identifier analyzedAt es)
  | .error e => .error e

end Audit

end TemplateAudit
