import TemplateAudit.Engine.Check
import TemplateAudit.Template

/-!
# Engines

An engine runs one rule on one template. It may report findings, fail with an error or crash; the
audit has to cope with all three. The built-in engine checks the condition of the rule and can hold
patterns that were read beforehand.
-/

namespace TemplateAudit

set_option autoImplicit false

inductive Outcome where
  | findings (found : List (Finding String))
  | failed (cause : Error)
  /-- A crash, with its message when it has one. -/
  | crashed (message : Option String)

structure Engine where
  name : String := "rule-engine"
  run : Rule → Template → Outcome

/-- The built-in engine: patterns by their text. -/
structure DeclarativeEngine where
  patterns : List (String × Pattern) := []

namespace DeclarativeEngine

def name : String := "declarative"

/-- Adds the pattern of a rule unless it is there already or cannot be read. -/
def prepare (e : DeclarativeEngine) (rule : Rule) : DeclarativeEngine :=
  match rule.check.condition.pattern? with
  | none => e
  | some text =>
    if e.patterns.any (·.1 == text) then e
    else match Pattern.compile? text with
      | some pattern => ⟨e.patterns ++ [(text, pattern)]⟩
      | none => e

def forRules (rules : List Rule) : DeclarativeEngine :=
  rules.foldl prepare {}

/-- The pattern of a text, from those at hand or read now. -/
def pattern? (e : DeclarativeEngine) (text : String) : Option Pattern :=
  match e.patterns.find? (·.1 == text) with
  | some entry => some entry.2
  | none => Pattern.compile? text

/-- The check of a rule with its pattern. The error of a pattern that cannot be read ends where the
explanation of what is wrong with it would begin. -/
def ready (e : DeclarativeEngine) (rule : Rule) : Except Error ReadyCheck :=
  let check (pattern : Option Pattern) : ReadyCheck :=
    ⟨Text.trim rule.check.path, rule.check.condition, rule.check.default, pattern⟩
  match rule.check.condition.pattern? with
  | none => .ok (check none)
  | some text =>
    match e.pattern? text with
    | some pattern => .ok (check (some pattern))
    | none => .error (.ruleFailed rule.id ("invalid pattern '" ++ text ++ "'"))

/-- Runs the check of a rule on the expanded document. -/
def evaluate (e : DeclarativeEngine) (rule : Rule) (template : Template) :
    Except Error (List (Finding String)) :=
  match e.ready rule with
  | .ok check => .ok (check.findings rule.resourceType template.expanded)
  | .error cause => .error cause

def toEngine (e : DeclarativeEngine) : Engine where
  name := name
  run rule template :=
    match e.evaluate rule template with
    | .ok found => .findings found
    | .error cause => .failed cause

end DeclarativeEngine

end TemplateAudit
