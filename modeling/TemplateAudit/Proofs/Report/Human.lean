import TemplateAudit.Proofs.Evaluation.Building
import TemplateAudit.Report.Format

/-!
# Lines in reports for people

A report for people is a list of entries, one for each evaluation that the JSON report lists. An
entry names one line in its heading and the others after it, so that every failing line of the
evaluation is named, and the line of the heading only once.
-/

namespace TemplateAudit.Report

set_option autoImplicit false

/-- What is printed of an evaluation: a heading with one line, and a list of other lines. -/
structure Entry where
  evaluation : Evaluation
  line : UInt32
  others : List UInt32

namespace Entry

def othersText : List UInt32 → String
  | [] => ""
  | line :: rest =>
    "    also at lines " ++ ", ".intercalate ((line :: rest).map toString) ++ "\n"

def headingText (options : ReportOptions) (entry : Entry) : String :=
  let e := entry.evaluation
  "  " ++ paint options .dim ("line " ++ toString entry.line) ++ ":" ++
    (if e.passed then "pass" else "fail") ++ " [" ++
    paint options e.severity.color e.severity.name ++ "] " ++ e.ruleId ++ " (" ++ e.ruleName ++
    ") " ++ e.description ++ "\n"

def remarks (options : ReportOptions) (e : Evaluation) : String :=
  (e.diagnostic.elim "" fun text => "    " ++ paint options .red text ++ "\n") ++
    (if options.recommendations && !e.passed then
      "    " ++ paint options .green e.recommendation ++ "\n    " ++ e.helpUri ++ "\n" else "")

def text (options : ReportOptions) (entry : Entry) : String :=
  headingText options entry ++ (othersText entry.others ++ remarks options entry.evaluation)

end Entry

end TemplateAudit.Report
