import TemplateAudit.Error
import TemplateAudit.Files
import TemplateAudit.Pattern.Parser
import TemplateAudit.Rule
import TemplateAudit.Text.Blank
import TemplateAudit.Text.Case

/-!
# Configurations

A configuration lists the rules that can be run and says where rule content lies. It is consistent
when its version is supported, rule ids are distinct, the descriptive fields of all rules are filled
and all patterns can be read; the first defect is the one that is blamed.
-/

namespace TemplateAudit

set_option autoImplicit false

structure Config where
  version : String := "1.0"
  /-- Where rule content lies; beside the program when absent. -/
  rulesDir : Option String := none
  rules : List Rule := []

def baselineDir : String := "baselines"

def baselineFileName : String := "RepeatedRulesBaseline.Rule.json"

def baselineUnder (rulesDir : String) : String :=
  joinPath (joinPath rulesDir baselineDir) baselineFileName

namespace Rule

def descriptiveFields (r : Rule) : List (String × String) :=
  [("id", r.id), ("name", r.name), ("description", r.description), ("help_uri", r.helpUri),
    ("recommendation", r.recommendation)]

def blankField? (r : Rule) : Option String :=
  (r.descriptiveFields.find? fun field => Text.isBlankText field.2).map (·.1)

def hasBadPattern (r : Rule) : Bool :=
  match r.check.condition.pattern? with
  | some text => (Pattern.compile? text).isNone
  | none => false

/-- The first defect of a rule that comes after others with the given ids. -/
def defect? (r : Rule) (earlier : List String) : Option Error :=
  if earlier.contains r.id then some (.ruleRepeated r.id)
  else match r.blankField? with
    | some field => some (.fieldBlank r.id field)
    | none => if r.hasBadPattern then some (.patternInvalid r.id) else none

end Rule

namespace Config

def supportedVersions : List String := ["1.0"]

/-- The first defect of rules that come after others with the given ids. -/
def firstDefect? : List String → List Rule → Option Error
  | _, [] => none
  | earlier, r :: rest =>
    match r.defect? earlier with
    | some e => some e
    | none => firstDefect? (r.id :: earlier) rest

def validate (c : Config) : Except Error Unit :=
  if !supportedVersions.contains c.version then .error (.versionUnsupported c.version)
  else match firstDefect? [] c.rules with
    | some e => .error e
    | none => .ok ()

def checked (c : Config) : Except Error Config :=
  match c.validate with
  | .ok () => .ok c
  | .error e => .error e

def withRulesDir (c : Config) (dir : String) : Config :=
  { c with rulesDir := some dir }

def addRule (c : Config) (rule : Rule) : Config :=
  { c with rules := c.rules ++ [rule] }

def enabledRules (c : Config) : List Rule :=
  c.rules.filter (·.enabled)

/-- The first rule with this id, or with this name up to ASCII case. -/
def findRule? (c : Config) (idOrName : String) : Option Rule :=
  c.rules.find? fun r => r.id == idOrName || Text.asciiEq r.name idOrName

/-- The baseline of repeated rules; `home` is the directory of the program. -/
def baselinePath (c : Config) (home : String) : String :=
  baselineUnder (c.rulesDir.getD home)

def ofTree? {α : Type} [Tree α] (tree : α) : Option Config :=
  match Tree.fields? [["version"], ["rules_dir"], ["rules"]] tree with
  | some [version, rulesDir, rules] => do
    return ⟨← Tree.required? Tree.string? version, ← Tree.optionalField? Tree.string? rulesDir,
      ← Tree.defaulted? [] (Tree.list? Rule.ofTree?) rules⟩
  | _ => none

def toForm {α : Type} [Form α] (c : Config) : α :=
  Form.record [("version", Form.string c.version),
    ("rules_dir", Form.optional (c.rulesDir.map Form.string)),
    ("rules", Form.list (c.rules.map Rule.toForm))]

def toJson (c : Config) : Json :=
  c.toForm

end Config

end TemplateAudit
