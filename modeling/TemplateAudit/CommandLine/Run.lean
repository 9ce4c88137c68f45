import TemplateAudit.Audit
import TemplateAudit.CommandLine.Explanation
import TemplateAudit.CommandLine.Invocation
import TemplateAudit.Config.Builtin
import TemplateAudit.Config.Text

/-!
# Running the program

What the program writes and the code it exits with, given a host that reads files and tells the
time. Codes are 0 when nothing blocks, 1 when an error was found, a rule is unknown or a
configuration is not valid, and 2 when the program cannot do what it was asked.
-/

namespace TemplateAudit.CommandLine

set_option autoImplicit false

/-- What the program needs of its surroundings. -/
structure Host (m : Type → Type) where
  read : FileReader m
  /-- The directory of the program. -/
  home : String
  now : m Timestamp
  /-- Milliseconds on a clock that only goes forward. -/
  clock : m Nat

structure Output where
  exitCode : Nat
  out : String := ""
  err : String := ""
deriving DecidableEq

/-- Lines of text, each ended. -/
def linesText (lines : List String) : String :=
  String.join (lines.map fun line => line ++ "\n")

def defaultConfigFiles : List String :=
  ["template_analyzer.yaml", "template_analyzer.yml", ".template_analyzer.yaml"]

variable {m : Type → Type} [Monad m]

/-- Whether a path leads anywhere, as far as reading it tells. -/
def pathExists (read : FileReader m) (path : String) : m Bool := do
  match ← read path with
  | .ok _ => return true
  | .error e => return e.isPresent

def firstExisting (read : FileReader m) : List String → m (Option String)
  | [] => return none
  | path :: rest => do
    if ← pathExists read path then return some path else firstExisting read rest

/-- The given configuration, else that of the first default file, else the built-in one. -/
def loadConfig (read : FileReader m) (path : Option String) : ExceptT Error m Config := do
  match path with
  | some file => Config.load read file
  | none =>
    match ← ExceptT.lift (firstExisting read defaultConfigFiles) with
    | some file => Config.load read file
    | none => return .builtin

/-- Only failed rules of severity `error` block. -/
def exitCode (r : Report) : Nat :=
  if r.hasErrors then 1 else 0

def analyze (host : Host m) (config : Option String) (template : String)
    (sourceMap authored : Option String) (selection : Selection) (format : ReportFormat)
    (options : ReportOptions) : ExceptT Error m Output := do
  let c ← loadConfig host.read config
  let audit ← ExceptT.mk (pure (Audit.ofConfig c selection host.home))
  let t ← Template.load host.read template sourceMap authored
  let audit ← ExceptT.lift (audit.load host.read)
  let started ← ExceptT.lift host.clock
  let now ← ExceptT.lift host.now
  let report ← ExceptT.mk (pure (audit.report t now))
  let finished ← ExceptT.lift host.clock
  let timed := report.setTime (finished - started)
  return { exitCode := exitCode timed, out := linesText [timed.render options format] }

def ruleLine (r : Rule) : String :=
  "  " ++ (if r.enabled then "enabled " else "disabled") ++ " " ++ r.id ++ " " ++ r.name ++ " [" ++
    r.category.name ++ ", " ++ r.severity.name ++ "] - " ++ r.description

def listRules (host : Host m) (config : Option String) (enabledOnly : Bool)
    (category : Option Category) : ExceptT Error m Output := do
  let c ← loadConfig host.read config
  let listed := c.rules.filter fun r =>
    (!enabledOnly || r.enabled) && category.all (· == r.category)
  return { exitCode := 0, out := linesText (["Available Rules", ""] ++ listed.map ruleLine) }

/-- Explains one rule, or lists the rules there are. -/
def explain (host : Host m) (config : Option String) (rule : String) : ExceptT Error m Output := do
  let c ← loadConfig host.read config
  match c.findRule? rule with
  | some r => return { exitCode := 0, out := linesText (explanation r) }
  | none =>
    return {
      exitCode := 1
      out := linesText (["", "Available rules:"] ++
        c.rules.map fun r => "  - " ++ r.id ++ " (" ++ r.name ++ ")")
      err := linesText ["Rule '" ++ rule ++ "' not found"] }

def configSummary (c : Config) (home : String) : List String :=
  let enabled := c.enabledRules
  let security := enabled.filter fun r => r.category == .security
  ["Configuration is valid",
    "Configuration summary:",
    "  Rules: " ++ toString c.rules.length ++ " total, " ++ toString enabled.length ++
      " enabled, " ++ toString security.length ++ " security",
    "  Baseline: " ++ c.baselinePath home]

def validateConfig (host : Host m) (file : Option String) : m Output := do
  let path := file.getD "template_analyzer.yaml"
  let start := "Validating configuration: " ++ path
  match ← (Config.load host.read path).run with
  | .ok c => return { exitCode := 0, out := linesText (start :: configSummary c host.home) }
  | .error e =>
    return {
      exitCode := 1
      out := linesText [start]
      err := linesText ["Configuration validation failed: " ++ e.message] }

/-- The output, or the error as output. -/
def reported (result : Except Error Output) : Output :=
  match result with
  | .ok output => output
  | .error e => { exitCode := 2, err := linesText ["Error: " ++ e.message] }

def versionText : String := "template-analyzer 0.1.0"

def helpText : List String :=
  ["Usage: template-analyzer [OPTIONS] <COMMAND>",
    "",
    "Commands:",
    "  analyze          Analyze a compiled template",
    "  rules            List available rules",
    "  explain          Explain what a specific rule does",
    "  validate-config  Validate configuration file"]

def Invocation.execute (host : Host m) : Invocation → m Output
  | .version => return { exitCode := 0, out := linesText [versionText] }
  | .help => return { exitCode := 0, out := linesText helpText }
  | .run config colors command =>
    match command with
    | .analyze template sourceMap authored securityOnly format least showPassed => do
      return reported (← (analyze host config template sourceMap authored
        (Selection.ofAllRules !securityOnly) format
        { colors := colors, showPassed := showPassed, leastSeverity := least }).run)
    | .rules enabledOnly category => do
      return reported (← (listRules host config enabledOnly category).run)
    | .explain rule => do
      return reported (← (explain host config rule).run)
    | .validateConfig file => validateConfig host (file.or config)

/-- Does what a command line asks for; words that make no sense are refused. -/
def run (host : Host m) (words : List String) : m Output :=
  match Invocation.parse? words with
  | some invocation => invocation.execute host
  | none => return { exitCode := 2, err := linesText helpText }

end TemplateAudit.CommandLine
