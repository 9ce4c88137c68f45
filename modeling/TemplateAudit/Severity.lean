import TemplateAudit.Tree

/-!
# Severities

How much a violation matters. Only errors block a deployment.
-/

namespace TemplateAudit

set_option autoImplicit false

inductive Severity where
  | info
  | warning
  | error
deriving DecidableEq

namespace Severity

def name : Severity → String
  | .info => "info"
  | .warning => "warning"
  | .error => "error"

def ofName? : String → Option Severity
  | "info" => some .info
  | "warning" => some .warning
  | "error" => some .error
  | _ => none

def rank : Severity → Nat
  | .info => 0
  | .warning => 1
  | .error => 2

def isBlocking (s : Severity) : Bool :=
  s == .error

def ofTree? {α : Type} [Tree α] (tree : α) : Option Severity :=
  (Tree.plainVariant? ["error", "warning", "info"] tree).bind ofName?

end Severity

end TemplateAudit
