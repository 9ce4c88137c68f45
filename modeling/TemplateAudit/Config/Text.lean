import TemplateAudit.Config.Basic
import TemplateAudit.Loading
import TemplateAudit.Yaml.Printer
import TemplateAudit.Yaml.View

/-!
# Configurations as YAML

Only consistent configurations can be loaded.
-/

namespace TemplateAudit.Config

set_option autoImplicit false

/-- Reads a configuration without checking it. -/
def parse? (text : String) : Option Config :=
  (Yaml.Document.read? text).bind fun document => ofTree? (Yaml.View.ofDocument document)

/-- Reads a consistent configuration. -/
def ofYaml (text : String) : Except Error Config :=
  match parse? text with
  | some c => c.checked
  | none => .error .configUnreadable

def toYaml (c : Config) : String :=
  Yaml.Value.render c.toForm

def load {m : Type → Type} [Monad m] (read : FileReader m) (path : String) :
    ExceptT Error m Config :=
  ExceptT.mk do
    match ← read path with
    | .error cause => return .error (.configFileMissing path cause)
    | .ok text =>
      match parse? text with
      | some c => return c.checked
      | none => return .error (.configFileUnreadable path)

end TemplateAudit.Config
