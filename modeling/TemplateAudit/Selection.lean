import TemplateAudit.Rule

/-!
# Rule selections

A full run takes every enabled rule and leaves out those of the baseline; a security run takes the
security rules and leaves out none.
-/

namespace TemplateAudit

set_option autoImplicit false

inductive Selection where
  | full
  | securityOnly
deriving DecidableEq

namespace Selection

def name : Selection → String
  | .full => "full"
  | .securityOnly => "security_only"

def ofName? : String → Option Selection
  | "full" => some .full
  | "security_only" => some .securityOnly
  | _ => none

def ofTree? {α : Type} [Tree α] (tree : α) : Option Selection :=
  (Tree.plainVariant? ["full", "security_only"] tree).bind ofName?

def ofAllRules (all : Bool) : Selection :=
  if all then .full else .securityOnly

def includes : Selection → Rule → Bool
  | .full, _ => true
  | .securityOnly, rule => rule.category == .security

def appliesBaseline : Selection → Bool
  | .full => true
  | .securityOnly => false

end Selection

end TemplateAudit
