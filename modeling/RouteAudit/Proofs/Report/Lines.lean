import RouteAudit.Proofs.Json.Scalar
import RouteAudit.Proofs.Text.Lines
import RouteAudit.Report

/-!
# The lines of the text form

The text form of a result has a line for each report, one more for each tip, and two at the end.  A
report quotes the route that it is about, and a tip quotes another one: only a line feed in these
makes further lines (`CheckResult.text_lines`).
-/

namespace RouteAudit
open Text (lineFeeds writeLines)

namespace Text

/-- A text that is a single line. -/
def Unbroken (s : String) : Prop :=
  ∀ c ∈ s.toList, endsLine c = false

/-- Joined texts are unbroken if both parts are. -/
lemma Unbroken.append {s t : String} (hs : Unbroken s) (ht : Unbroken t) : Unbroken (s ++ t) := by
  rw [Unbroken, String.toList_append]
  exact List.forall_mem_append.2 ⟨hs, ht⟩

/-- An unbroken text has no line feeds. -/
lemma Unbroken.lineFeeds_eq_zero {s : String} (h : Unbroken s) : lineFeeds s = 0 := by
  refine Text.lineFeeds_eq_zero.2 fun hmem => ?_
  cases h '\n' hmem

/-- A text is unbroken if a test of its characters says so. -/
lemma unbroken_of_all {s : String} (h : (s.toList.all fun c => !endsLine c) = true) :
    Unbroken s := by
  intro c hc
  rw [← Bool.not_eq_true']
  exact List.all_eq_true.1 h c hc

/-- A written integer is unbroken. -/
lemma unbroken_integer (n : Int) : Unbroken (toString n) := by
  obtain ⟨sign, hsign, hwritten, -⟩ := Json.exists_sign n
  have digit {c : Char} (hc : c.isDigit = true) : endsLine c = false := by
    rw [endsLine, decide_eq_false_iff_not]
    intro hmem
    fin_cases hmem <;> cases hc
  intro c hc
  rw [hwritten, List.mem_append] at hc
  rcases hc with hc | hc
  · rcases hsign with rfl | rfl
    · cases hc
    · obtain rfl := List.mem_singleton.1 hc
      decide
  · exact digit (allDigits_toDigits _ c hc)

/-- A written count is unbroken. -/
lemma unbroken_length (n : Nat) : Unbroken (toString n) :=
  unbroken_integer n

/-- The first line is what is in front of the first line feed. -/
lemma firstLine_append {s : String} (h : Unbroken s) (rest : String) :
    firstLine (s ++ "\n" ++ rest) = s := by
  have goesOn : ∀ c ∈ s.toList, (!endsLine c) = true := fun c hc => by rw [h c hc]; rfl
  have chars : (s ++ "\n" ++ rest).toList = s.toList ++ '\n' :: rest.toList := by simp
  rw [firstLine, chars, List.takeWhile_append_of_pos goesOn, List.takeWhile_cons_of_neg (by decide),
    List.append_nil, String.ofList_toList]

end Text
open Text (Unbroken)

namespace Diagnostic

/-- The line that tells what is wrong, and where. -/
def heading (d : Diagnostic) : String :=
  d.file ++ ":" ++ toString d.line ++ ": " ++ d.message ++ " [" ++ d.identifier ++ "]"

/-- The lines about a report. -/
def lines (d : Diagnostic) : List String :=
  d.heading :: d.tip.toList.map ("    " ++ ·)

/-- The line feeds in the routes that a report quotes. -/
def quotedFeeds (d : Diagnostic) : Nat :=
  lineFeeds d.route + (d.tip.map lineFeeds).getD 0

/-- A report whose lines are broken by nothing but the routes that it quotes. -/
structure Quotes (d : Diagnostic) : Prop where
  file : lineFeeds d.file = 0
  identifier : lineFeeds d.identifier = 0
  message : lineFeeds d.message = lineFeeds d.route
  tip : d.tip ≠ some ""

/-- A diagnostic is written in its own lines. -/
lemma Quotes.textLines {d : Diagnostic} (h : d.Quotes) : CheckResult.textLines d = d.lines := by
  have kept : (d.tip.filter fun t => !t.isEmpty) = d.tip := by
    cases htip : d.tip with
    | none => rfl
    | some tip =>
      have hne : tip ≠ "" := by
        rintro rfl
        exact h.tip htip
      rw [Option.filter_some, if_pos (by simpa using hne)]
  rw [CheckResult.textLines, kept]
  rfl

/-- The line feeds in the lines of a diagnostic are those of what it quotes. -/
lemma Quotes.sum_lines {d : Diagnostic} (h : d.Quotes) :
    (d.lines.map lineFeeds).sum = d.quotedFeeds := by
  have colon : lineFeeds ":" = 0 ∧ lineFeeds ": " = 0 ∧ lineFeeds " [" = 0 ∧ lineFeeds "]" = 0 ∧
      lineFeeds "    " = 0 := by
    decide
  have number : lineFeeds (toString d.line) = 0 := (Text.unbroken_integer d.line).lineFeeds_eq_zero
  have first : lineFeeds d.heading = lineFeeds d.route := by
    simp only [heading, Text.lineFeeds_append, h.file, h.identifier, h.message, colon, number,
      Nat.zero_add, Nat.add_zero]
  rw [lines, List.map_cons, List.sum_cons, first, quotedFeeds]
  cases d.tip with
  | none => rfl
  | some tip => simp [Text.lineFeeds_append, colon]

end Diagnostic

namespace CheckResult

/-- The lines of the text form. -/
def lines (r : CheckResult) : List String :=
  r.diagnostics.flatMap Diagnostic.lines ++ [r.totals, r.verdict]

/-- The number of tips. -/
def tips (r : CheckResult) : Nat :=
  r.diagnostics.countP (·.tip.isSome)

/-- The line feeds in the routes that the reports quote. -/
def quotedFeeds (r : CheckResult) : Nat :=
  (r.diagnostics.map Diagnostic.quotedFeeds).sum

variable {r : CheckResult}

/-- The line of totals is unbroken. -/
lemma unbroken_totals (r : CheckResult) : Unbroken r.totals := by
  have further {s : String} (hs : Unbroken s) (n : Int) (word : String)
      (hword : (word.toList.all fun c => !Text.endsLine c) = true) :
      Unbroken (s ++ toString n ++ word) :=
    (hs.append (Text.unbroken_integer n)).append (Text.unbroken_of_all hword)
  have start : Unbroken "Indexed " := Text.unbroken_of_all (by decide)
  have routes := further start r.routes " routes from " (by decide)
  have controllers := further routes r.controllers " controllers across " (by decide)
  have handles := further controllers r.handles " handles, scanned " (by decide)
  have templates := further handles r.templates " templates, found " (by decide)
  exact further templates r.references " action references." (by decide)

/-- The last line is unbroken. -/
lemma unbroken_verdict (r : CheckResult) : Unbroken r.verdict := by
  rw [verdict]
  split
  · exact Text.unbroken_of_all (by decide)
  · exact (Text.unbroken_length _).append (Text.unbroken_of_all (by decide))

/-- The first line of the summary is the one with the totals. -/
lemma firstLine_summary (r : CheckResult) : Text.firstLine r.summary = r.totals := by
  have whole : r.summary = r.totals ++ "\n" ++
      "\n".intercalate (r.verdict :: r.diagnostics.flatMap summaryLines) := by
    rw [summary, String.intercalate_cons_cons]
  rw [whole, Text.firstLine_append r.unbroken_totals]

/-- The reporter prints the lines one after the other. -/
lemma text_eq (h : ∀ d ∈ r.diagnostics, d.Quotes) : r.text = writeLines r.lines := by
  have printed {ds : List Diagnostic} (hds : ∀ d ∈ ds, d.Quotes) (written : List String) :
      ds.foldl Reporter.text.report (writeLines written) =
        writeLines (written ++ ds.flatMap Diagnostic.lines) := by
    induction ds generalizing written with
    | nil => rw [List.flatMap_nil, List.append_nil]; rfl
    | cons d ds ih =>
      obtain ⟨hd, hds⟩ := List.forall_mem_cons.1 hds
      have step :
          Reporter.text.report (writeLines written) d = writeLines (written ++ d.lines) := by
        rw [Text.writeLines_append, ← hd.textLines]
        rfl
      rw [List.foldl_cons, step, ih hds, List.flatMap_cons, List.append_assoc]
  have start : Reporter.text.start = writeLines [] := rfl
  rw [text, Reporter.emit, start, printed h, List.nil_append, lines, Text.writeLines_append,
    ← firstLine_summary]
  rfl

/-- The line feeds in the lines of a result are those of what it quotes. -/
lemma sum_lines (h : ∀ d ∈ r.diagnostics, d.Quotes) :
    (r.lines.map lineFeeds).sum = r.quotedFeeds := by
  have total : lineFeeds r.totals = 0 := r.unbroken_totals.lineFeeds_eq_zero
  have found : lineFeeds r.verdict = 0 := r.unbroken_verdict.lineFeeds_eq_zero
  have reports {ds : List Diagnostic} (hds : ∀ d ∈ ds, d.Quotes) :
      ((ds.flatMap Diagnostic.lines).map lineFeeds).sum =
        (ds.map Diagnostic.quotedFeeds).sum := by
    induction ds with
    | nil => rfl
    | cons d ds ih =>
      obtain ⟨hd, hds⟩ := List.forall_mem_cons.1 hds
      rw [List.flatMap_cons, List.map_append, List.sum_append, hd.sum_lines, ih hds, List.map_cons,
        List.sum_cons]
  rw [lines, List.map_append, List.sum_append, reports h, quotedFeeds]
  simp [total, found]

/-- There is a line for each diagnostic and each tip, and two more. -/
lemma length_lines (r : CheckResult) : r.lines.length = r.diagnostics.length + r.tips + 2 := by
  have reports (ds : List Diagnostic) :
      (ds.flatMap Diagnostic.lines).length = ds.length + ds.countP (·.tip.isSome) := by
    induction ds with
    | nil => rfl
    | cons d ds ih =>
      rw [List.flatMap_cons, List.length_append, ih, List.length_cons, List.countP_cons,
        Diagnostic.lines, List.length_cons, List.length_map]
      cases d.tip <;> simp <;> omega
  rw [lines, List.length_append, reports]
  rfl

/-- The text form consists of the lines, but where the reports quote line feeds. -/
lemma text_lines (h : ∀ d ∈ r.diagnostics, d.Quotes) :
    ∃ pieces, Text.split '\n' r.text = pieces ++ [""] ∧
      pieces.length = r.diagnostics.length + r.tips + 2 + r.quotedFeeds ∧
      (pieces = r.lines ↔ r.quotedFeeds = 0) := by
  have written := Text.exists_lines r.lines
  rwa [← text_eq h, sum_lines h, length_lines] at written

end CheckResult

end RouteAudit
