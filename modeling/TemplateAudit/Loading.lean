import TemplateAudit.Files
import TemplateAudit.Template

/-!
# Loading templates

A template is loaded from a compiled JSON file, of which the text is kept, and optionally from the
document it was compiled from and a source map. Loading is the same in every monad that can read
files.
-/

namespace TemplateAudit

set_option autoImplicit false

abbrev FileReader (m : Type → Type) := String → m (Except FileError String)

variable {m : Type → Type} [Monad m]

/-- The text of a file that must be readable. -/
def FileReader.text (read : FileReader m) (path : String) : ExceptT Error m String :=
  ExceptT.mk do
    match ← read path with
    | .ok content => return .ok content
    | .error cause => return .error (.fileUnreadable cause)

/-- The value of an authored document: JSON when it is JSON, else its text. -/
def authoredValue (content : String) : Json :=
  (Json.read? content).getD (.string content)

/-- Loads the files of a template in the order template, authored document, source map. -/
def Template.load (read : FileReader m) (path : String) (sourceMap authored : Option String) :
    ExceptT Error m Template := do
  let text ← read.text path
  let expanded ← match Json.read? text with
    | some value => pure value
    | none => throw (.templateUnreadable path)
  let template ← ExceptT.mk (pure (Template.make path expanded))
  let authoredDocument ← match authored with
    | some file => some <$> authoredValue <$> read.text file
    | none => pure none
  let map ← match sourceMap with
    | some file => do
      let content ← read.text file
      some <$> ExceptT.mk (pure (SourceMap.parse content))
    | none => pure none
  return { template with text := some text, authored := authoredDocument, sourceMap := map }

def FileStore.reader (store : FileStore) : FileReader Id :=
  store.read

end TemplateAudit
