import TemplateAudit.CommandLine.Options
import TemplateAudit.Report.Format
import TemplateAudit.Rule

/-!
# Invocations

What the program is asked to do. Some options belong to every command and may stand before or after
it; given in both places, the one after the command counts.
-/

namespace TemplateAudit.CommandLine

set_option autoImplicit false

inductive Command where
  | analyze (template : String) (sourceMap authored : Option String) (securityOnly : Bool)
      (format : ReportFormat) (leastSeverity : Option Severity) (showPassed : Bool)
  | rules (enabledOnly : Bool) (category : Option Category)
  | explain (rule : String)
  | validateConfig (file : Option String)

inductive Invocation where
  | run (config : Option String) (colors : Bool) (command : Command)
  | version
  | help

/-- Paths are never empty. -/
def isPath (word : String) : Bool :=
  !word.isEmpty

/-- The format with exactly this name. -/
def formatNamed? (name : String) : Option ReportFormat :=
  ReportFormat.all.find? (·.name == name)

def globalOptions : List OptionSpec :=
  [⟨"verbose", some 'v', none⟩, ⟨"config", some 'c', some isPath⟩, ⟨"no-color", none, none⟩,
    ⟨"help", some 'h', none⟩]

/-- What stands before a command. -/
def rootLevel : Level where
  options := ⟨"version", some 'V', none⟩ :: globalOptions
  commands := ["analyze", "rules", "explain", "validate-config", "help"]

def analyzeLevel : Level where
  options := globalOptions ++
    [⟨"source-map", none, some isPath⟩, ⟨"original", none, some isPath⟩,
      ⟨"security-only", none, none⟩,
      ⟨"format", some 'f', some fun name => (formatNamed? name).isSome⟩,
      ⟨"severity", some 's', some fun name => (Severity.ofName? name).isSome⟩,
      ⟨"show-passed", none, none⟩]
  operands := [isPath]

def rulesLevel : Level where
  options := globalOptions ++
    [⟨"enabled-only", none, none⟩,
      ⟨"category", none, some fun name => (Category.ofName? name).isSome⟩]

def explainLevel : Level where
  options := globalOptions
  operands := [fun _ => true]

def validateConfigLevel : Level where
  options := globalOptions
  operands := [isPath]

def command? (name : String) (p : Parsed) : Option Command :=
  match name, p.operands with
  | "analyze", [template] => some (.analyze template (p.value? "source-map") (p.value? "original")
      (p.has "security-only") (((p.value? "format").bind formatNamed?).getD .human)
      ((p.value? "severity").bind Severity.ofName?) (p.has "show-passed"))
  | "rules", [] => some (.rules (p.has "enabled-only") ((p.value? "category").bind Category.ofName?))
  | "explain", [rule] => some (.explain rule)
  | "validate-config", operands => some (.validateConfig operands.head?)
  | _, _ => none

def levelOf? (name : String) : Option Level :=
  match name with
  | "analyze" => some analyzeLevel
  | "rules" => some rulesLevel
  | "explain" => some explainLevel
  | "validate-config" => some validateConfigLevel
  | _ => none

/-- A request for help, which may be about a command. -/
def helpOn? (words : List String) : Option Invocation :=
  match words with
  | [] => some .help
  | [word] => if rootLevel.commands.contains word then some .help else none
  | _ => none

/-- The invocation of a command with the words after it; `before` is what stands before it. -/
def invocation? (before : Parsed) (name : String) (words : List String) : Option Invocation :=
  match levelOf? name with
  | none => helpOn? words
  | some level =>
    match level.read? words {} none with
    | some (.done p) =>
      (command? name p).map
        (.run ((p.value? "config").or (before.value? "config"))
          (!(p.has "no-color" || before.has "no-color")))
    | some .help => some .help
    | some .version => some .version
    | _ => none

/-- What the program is asked to do; `none` when the words make no sense. -/
def Invocation.parse? (words : List String) : Option Invocation :=
  match rootLevel.read? words {} none with
  | some (.command before name rest) => invocation? before name rest
  | some .version => some .version
  | some .help => some .help
  | _ => none

end TemplateAudit.CommandLine
