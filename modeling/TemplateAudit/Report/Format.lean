import TemplateAudit.Decimal.Format
import TemplateAudit.Json.Printer
import TemplateAudit.Report.Basic

/-!
# Report formats

A report is written for people, with optional colours, or as JSON. Both formats list the same
evaluations: the failed ones, and the passed ones on request, from a least severity on.
-/

namespace TemplateAudit

set_option autoImplicit false

inductive ReportFormat where
  | human
  | json
deriving DecidableEq

namespace ReportFormat

def name : ReportFormat → String
  | .human => "human"
  | .json => "json"

def all : List ReportFormat := [.human, .json]

/-- The format of a name, in whatever case it is written. -/
def ofName? (name : String) : Option ReportFormat :=
  all.find? fun format => format.name == Text.lowercase name

end ReportFormat

structure ReportOptions where
  colors : Bool := true
  showPassed : Bool := false
  recommendations : Bool := true
  leastSeverity : Option Severity := none

inductive Color where
  | red
  | green
  | yellow
  | cyan
  | dim

def Color.code : Color → String
  | .red => "31"
  | .green => "32"
  | .yellow => "33"
  | .cyan => "36"
  | .dim => "2"

def Severity.color : Severity → Color
  | .error => .red
  | .warning => .yellow
  | .info => .cyan

namespace Report

def lists (options : ReportOptions) (e : Evaluation) : Bool :=
  (options.showPassed || !e.passed) &&
    match options.leastSeverity with
    | some least => least.rank ≤ e.severity.rank
    | none => true

def listed (r : Report) (options : ReportOptions) : List Evaluation :=
  r.evaluations.filter (lists options)

def paint (options : ReportOptions) (color : Color) (text : String) : String :=
  if options.colors then "\x1b[" ++ color.code ++ "m" ++ text ++ "\x1b[0m" else text

/-- The failing lines of an evaluation other than the one in its heading. -/
def otherLines (e : Evaluation) : List UInt32 :=
  (Finding.failuresIn e.result.children).filter fun line => line ≠ e.line

def heading (options : ReportOptions) (e : Evaluation) : String :=
  "  " ++ paint options .dim ("line " ++ toString e.line) ++ ":" ++
    (if e.passed then "pass" else "fail") ++ " [" ++
    paint options e.severity.color e.severity.name ++ "] " ++ e.ruleId ++ " (" ++ e.ruleName ++
    ") " ++ e.description ++ "\n"

def details (options : ReportOptions) (e : Evaluation) : String :=
  (if (otherLines e).isEmpty then ""
    else "    also at lines " ++ ", ".intercalate ((otherLines e).map toString) ++ "\n") ++
  (match e.diagnostic with
    | some text => "    " ++ paint options .red text ++ "\n"
    | none => "") ++
  (if options.recommendations && !e.passed then
    "    " ++ paint options .green e.recommendation ++ "\n    " ++ e.helpUri ++ "\n"
    else "")

def plural (n : Nat) (noun : String) : String :=
  toString n ++ " " ++ noun ++ (if n = 1 then "" else "s")

/-- A number of milliseconds in seconds, with one place. -/
def seconds (milliseconds : Nat) : String :=
  open Decimal in
  ((Magnitude.ofNat milliseconds).div? (Magnitude.ofNat 1000)).elim "" Magnitude.toOnePlace

def summaryLine (r : Report) (options : ReportOptions) : String :=
  let counts := r.summary.failures
  let parts :=
    (if 0 < counts.error then [paint options .red (plural counts.error "error")] else []) ++
    (if 0 < counts.warning then [paint options .yellow (plural counts.warning "warning")] else []) ++
    (if 0 < counts.info then [paint options .cyan (toString counts.info ++ " info")] else [])
  "Summary: " ++ ", ".intercalate (if parts.isEmpty then ["no failures"] else parts) ++
    " across " ++ toString r.summary.rulesEvaluated ++ " rules, " ++ toString r.summary.passed ++
    " passed (" ++ seconds r.summary.milliseconds ++ "s)\n"

def title (r : Report) (options : ReportOptions) : String :=
  if r.hasFailures then
    paint options (if r.hasErrors then .red else .yellow) "Rule Violations Found" ++ "\n\n"
  else paint options .green "No rule violations found" ++ "\n"

def human (r : Report) (options : ReportOptions) : String :=
  r.title options ++ r.template ++ "\n" ++
    String.join ((r.listed options).map fun e => heading options e ++ details options e) ++
    "\n" ++ r.summaryLine options

def toJson (r : Report) (options : ReportOptions) : Json :=
  .object [("template", .string r.template),
    ("evaluations", .array ((r.listed options).map Evaluation.toJson)),
    ("summary", r.summary.toJson)]

def render (r : Report) (options : ReportOptions) : ReportFormat → String
  | .human => r.human options
  | .json => (r.toJson options).pretty

end Report

end TemplateAudit
