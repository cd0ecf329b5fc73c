import RouteAudit.Diagnostic
import RouteAudit.Json.Printer
import RouteAudit.Text.Newline

/-!
# Reports

The result of a check, and the forms in which it is written: a summary, lines of text, and a JSON
document.  The last two are the work of reporters, which are told the reports one after the other and
then the result.
-/

namespace RouteAudit

/-- The result of a check: what was looked at, and what was found. -/
structure CheckResult where
  diagnostics : List Diagnostic := []
  handles : Int := 0
  controllers : Int := 0
  routes : Int := 0
  templates : Int := 0
  references : Int := 0
  deriving DecidableEq, Repr

namespace CheckResult

/-- Whether nothing was found. -/
def ok (r : CheckResult) : Bool :=
  r.diagnostics.isEmpty

/-- The line that says what was looked at. -/
def totals (r : CheckResult) : String :=
  "Indexed " ++ toString r.routes ++ " routes from " ++ toString r.controllers ++
    " controllers across " ++ toString r.handles ++ " handles, scanned " ++
    toString r.templates ++ " templates, found " ++ toString r.references ++ " action references."

/-- The line that says what was found. -/
def verdict (r : CheckResult) : String :=
  if r.ok then "No issues found." else toString r.diagnostics.length ++ " error(s)."

/-- The lines about a report in a summary. -/
def summaryLines (d : Diagnostic) : List String :=
  ("  [ERROR] " ++ d.message ++ " in " ++ d.file ++ ":" ++ toString d.line) ::
    (d.tip.filter fun t => !t.isEmpty).toList.map ("          " ++ ·)

/-- The summary. -/
def summary (r : CheckResult) : String :=
  "\n".intercalate (r.totals :: r.verdict :: r.diagnostics.flatMap summaryLines)

/-- The lines about a report in the text form. -/
def textLines (d : Diagnostic) : List String :=
  (d.file ++ ":" ++ toString d.line ++ ": " ++ d.message ++ " [" ++ d.identifier ++ "]") ::
    (d.tip.filter fun t => !t.isEmpty).toList.map ("    " ++ ·)

/-- The document of a report. -/
def diagnosticJson (d : Diagnostic) : Json :=
  .object [("message", .string d.message), ("file", .string d.file), ("line", .integer d.line),
    ("route", .string d.route), ("identifier", .string d.identifier),
    ("tip", (d.tip.map Json.string).getD .null)]

/-- The document of a result, given those of its reports. -/
def document (r : CheckResult) (records : List Json) : Json :=
  .object [("ok", .bool r.ok),
    ("totals", .object [("handles", .integer r.handles), ("controllers", .integer r.controllers),
      ("routes", .integer r.routes), ("templates_scanned", .integer r.templates),
      ("references_found", .integer r.references), ("errors", .integer r.diagnostics.length)]),
    ("diagnostics", .array records)]

end CheckResult

/-- A reporter: what it holds at first, what it does with a report, and what it has written once it is
told the result. -/
structure Reporter (σ : Type) where
  start : σ
  report : σ → Diagnostic → σ
  finish : σ → CheckResult → String

namespace Reporter

/-- What a reporter writes about a result. -/
def emit {σ : Type} (p : Reporter σ) (r : CheckResult) : String :=
  p.finish (r.diagnostics.foldl p.report p.start) r

/-- A text with further ones printed behind it, each with a line feed. -/
def print (written : String) (lines : List String) : String :=
  written ++ String.join (lines.map (· ++ "\n"))

/-- The reporter of the text form: it prints each report at once. -/
def text : Reporter String where
  start := ""
  report written d := print written (CheckResult.textLines d)
  finish written r := print written [Text.firstLine r.summary, r.verdict]

/-- The reporter of the JSON form: it keeps the document of each report and writes a single one. -/
def json : Reporter (List Json) where
  start := []
  report records d := records ++ [CheckResult.diagnosticJson d]
  finish records r := (r.document records).pretty ++ "\n"

end Reporter

namespace CheckResult

/-- The text form. -/
def text (r : CheckResult) : String :=
  Reporter.text.emit r

/-- The JSON form. -/
def json (r : CheckResult) : String :=
  Reporter.json.emit r

end CheckResult

end RouteAudit
