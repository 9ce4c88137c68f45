import TemplateAudit.Config.Basic
import TemplateAudit.Loading
import TemplateAudit.Yaml.Value

/-!
# Baselines

A baseline lists rules whose findings are known to repeat those of other rules. It is given or read
from a file: a list of rule ids, a document that excludes rules, or a list of such documents. The
file is read when the baseline is first asked about its ids, and never again; a file that cannot be
read stands for no ids at all.
-/

namespace TemplateAudit

set_option autoImplicit false

namespace Baseline

open Yaml (Value)

def strings? : Value → Option (List String)
  | .sequence items => items.mapM fun item =>
    match item with
    | .string s => some s
    | _ => none
  | _ => none

/-- Whether a key names the only field of a record, by name or by position; `none` when it cannot be
a key at all. A position has neither a minus nor a tag. -/
def isField? (name : String) : Value → Option Bool
  | .string s => some (s == name)
  | .int n signed => if signed then none else some (n.value == 0)
  | _ => none

/-- The only field of a record, which is a mapping or the list of its fields; the field must not be
given twice. -/
def onlyField? (name : String) : Value → Option (Option Value)
  | .sequence [] => some none
  | .sequence [item] => some (some item)
  | .mapping entries =>
    match entries.mapM fun entry => (isField? name entry.1).map fun named => (named, entry.2) with
    | some marked =>
      match marked.filter (·.1) with
      | [] => some none
      | [entry] => some (some entry.2)
      | _ => none
    | none => none
  | _ => none

def requiredField? (name : String) (value : Value) : Option Value :=
  (onlyField? name value).bind id

def excluded? (document : Value) : Option (List String) := do
  let spec ← requiredField? "spec" document
  let rule ← requiredField? "rule" spec
  match ← onlyField? "exclude" rule with
  | some exclude => strings? exclude
  | none => some []

def excludedByAll? : Value → Option (List String)
  | .sequence documents => (documents.mapM excluded?).map List.flatten
  | _ => none

/-- The rule ids that a file lists, as written. -/
def listed? (value : Value) : Option (List String) :=
  (strings? value).or ((excluded? value).or (excludedByAll? value))

/-- Rule ids without the blanks around them; blank ones are dropped, and each is kept once. -/
def tidy (ids : List String) : List String :=
  ((ids.map Text.trim).filter fun id => !id.isEmpty).eraseDups

def idsOfText (content : String) : List String :=
  if Text.isBlankText content then []
  else match (Value.read? content).bind listed? with
    | some ids => tidy ids
    | none => []

/-- The rule ids of a file, given what comes of reading it. -/
def idsOfFile : Except FileError String → List String
  | .ok content => idsOfText content
  | .error _ => []

end Baseline

/-- Rule ids, given or still to be read from a file. -/
structure Baseline where
  source : Option String
  ids : Option (List String)

namespace Baseline

/-- The ids of a file, to be read on first use. -/
def ofFile (path : String) : Baseline :=
  ⟨some path, none⟩

/-- The baseline of repeated rules under rule content. -/
def ofRulesDir (dir : String) : Baseline :=
  ofFile (baselineUnder dir)

def ofIds (ids : List String) : Baseline :=
  ⟨none, some ids.eraseDups⟩

def empty : Baseline :=
  ofIds []

/-- The baseline with its ids read, unless they are known. -/
def load {m : Type → Type} [Monad m] (read : FileReader m) (b : Baseline) : m Baseline :=
  match b.ids, b.source with
  | none, some path => do
    let result ← read path
    return { b with ids := some (idsOfFile result) }
  | none, none => return { b with ids := some [] }
  | some _, _ => return b

def known (b : Baseline) : List String :=
  b.ids.getD []

end Baseline

end TemplateAudit
