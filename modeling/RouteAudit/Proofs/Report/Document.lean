import RouteAudit.Proofs.Json.ReadBack
import RouteAudit.Report

/-!
# The JSON form of a result

The JSON form is one document in ASCII, from which the result is read back with everything in it
(`json_decodes`).  So two results with the same JSON form are the same (`json_injective`).
-/

namespace RouteAudit

/-- A document tells a report: each part of the report is under its name. -/
structure Diagnostic.ToldBy (d : Diagnostic) (document : Json) : Prop where
  message : document.get? "message" = some (.string d.message)
  file : document.get? "file" = some (.string d.file)
  line : document.get? "line" = some (.integer d.line)
  route : document.get? "route" = some (.string d.route)
  identifier : document.get? "identifier" = some (.string d.identifier)
  tip : document.get? "tip" = some (match d.tip with
    | some tip => .string tip
    | none => .null)

namespace CheckResult

/-- A document tells what was looked at, and how much was found. -/
structure CountedBy (r : CheckResult) (document : Json) : Prop where
  handles : document.get? "handles" = some (.integer r.handles)
  controllers : document.get? "controllers" = some (.integer r.controllers)
  routes : document.get? "routes" = some (.integer r.routes)
  templates : document.get? "templates_scanned" = some (.integer r.templates)
  references : document.get? "references_found" = some (.integer r.references)
  errors : document.get? "errors" = some (.integer r.diagnostics.length)

/-- A document tells a result: whether nothing was found, what was looked at, and the reports in
their order. -/
structure ToldBy (r : CheckResult) (document : Json) : Prop where
  ok : document.get? "ok" = some (.bool r.ok)
  totals : ∃ counts, document.get? "totals" = some counts ∧ r.CountedBy counts
  diagnostics : ∃ records, document.get? "diagnostics" = some (.array records) ∧
    List.Forall₂ Diagnostic.ToldBy r.diagnostics records

/-- The numbers in the JSON form of a result. -/
def numbers (r : CheckResult) : List Int :=
  [r.handles, r.controllers, r.routes, r.templates, r.references, r.diagnostics.length] ++
    r.diagnostics.map (·.line)

/-- No number of a result has more digits than a reader of JSON takes. -/
def Fits (r : CheckResult) (limit : Nat) : Prop :=
  ∀ n ∈ r.numbers, (Nat.toDigits 10 n.natAbs).length ≤ limit

/-- There is a limit that all integers of a result are within. -/
lemma exists_fits (r : CheckResult) : ∃ limit, r.Fits limit := by
  refine ⟨(r.numbers.map fun n => (Nat.toDigits 10 n.natAbs).length).sum, fun n hn => ?_⟩
  exact List.le_sum_of_mem (List.mem_map_of_mem hn)

/-- Integers within a limit are within a greater one. -/
lemma Fits.mono {r : CheckResult} {limit limit' : Nat} (h : r.Fits limit) (hle : limit ≤ limit') :
    r.Fits limit' :=
  fun n hn => Nat.le_trans (h n hn) hle

/-- The reporter keeps the documents of the reports in their order. -/
lemma json_eq (r : CheckResult) :
    r.json = (r.document (r.diagnostics.map diagnosticJson)).pretty ++ "\n" := by
  have kept (records : List Json) (ds : List Diagnostic) :
      ds.foldl Reporter.json.report records = records ++ ds.map diagnosticJson := by
    induction ds generalizing records with
    | nil => exact (List.append_nil records).symm
    | cons d ds ih =>
      rw [List.foldl_cons, ih, List.map_cons]
      exact List.append_assoc records [diagnosticJson d] _
  rw [json, Reporter.emit, kept]
  rfl

/-! ## What the document tells -/

/-- A diagnostic is told by its document. -/
lemma toldBy_diagnosticJson (d : Diagnostic) : d.ToldBy (diagnosticJson d) where
  message := rfl
  file := rfl
  line := rfl
  route := rfl
  identifier := rfl
  tip := by
    obtain ⟨message, file, line, route, identifier, tip⟩ := d
    cases tip <;> rfl

/-- A result is told by its document. -/
lemma toldBy_document (r : CheckResult) :
    r.ToldBy (r.document (r.diagnostics.map diagnosticJson)) where
  ok := rfl
  totals := ⟨_, rfl, ⟨rfl, rfl, rfl, rfl, rfl, rfl⟩⟩
  diagnostics := by
    refine ⟨_, rfl, ?_⟩
    rw [List.forall₂_map_right_iff]
    exact List.forall₂_same.2 fun d _ => toldBy_diagnosticJson d

/-- The document of a diagnostic can be read. -/
lemma readable_diagnosticJson {d : Diagnostic} {limit : Nat}
    (h : (Nat.toDigits 10 d.line.natAbs).length ≤ limit) :
    Json.Readable limit (diagnosticJson d) := by
  apply Json.Readable.object (by simp [Assoc.keys])
  have htip : Json.Readable limit ((d.tip.map Json.string).getD .null) := by
    cases d.tip with
    | none => exact .null
    | some tip => exact .string tip
  simp only [List.forall_mem_cons]
  exact ⟨.string _, .string _, .integer h, .string _, .string _, htip, List.forall_mem_nil _⟩

/-- The document of a result can be read. -/
lemma readable_document {r : CheckResult} {limit : Nat} (h : r.Fits limit) :
    Json.Readable limit (r.document (r.diagnostics.map diagnosticJson)) := by
  obtain ⟨hcounts, hlines⟩ := List.forall_mem_append.1 h
  simp only [List.forall_mem_cons] at hcounts
  obtain ⟨hhandles, hcontrollers, hroutes, htemplates, hreferences, herrors, -⟩ := hcounts
  apply Json.Readable.object (by simp [Assoc.keys])
  simp only [List.forall_mem_cons]
  refine ⟨.bool _, .object (by simp [Assoc.keys]) ?_, .array ?_, List.forall_mem_nil _⟩
  · simp only [List.forall_mem_cons]
    exact ⟨.integer hhandles, .integer hcontrollers, .integer hroutes, .integer htemplates,
      .integer hreferences, .integer herrors, List.forall_mem_nil _⟩
  · rw [List.forall_mem_map]
    intro d hd
    exact readable_diagnosticJson (hlines _ (List.mem_map_of_mem hd))

/-- The document of a result is read back from its JSON form. -/
lemma parse_json {r : CheckResult} {limit : Nat} (h : r.Fits limit) :
    Json.parseWithin? limit r.json.toList =
      some (r.document (r.diagnostics.map diagnosticJson)) := by
  have blank : ∀ c ∈ ['\n'], Json.isSpace c = true := List.forall_mem_singleton.2 rfl
  rw [json_eq, Json.pretty, String.toList_append, String.toList_ofList]
  exact Json.parseWithin?_write Json.Layout.blank_block (readable_document h) blank

/-- A written document is ASCII. -/
lemma ascii_json (r : CheckResult) : Json.Ascii r.json.toList := by
  obtain ⟨limit, h⟩ := r.exists_fits
  rw [json_eq, Json.pretty, String.toList_append, String.toList_ofList]
  exact (Json.ascii_write Json.Layout.blank_block (readable_document h) 0).append (.of_all rfl)

/-- **The JSON form tells the result.**  What the reporter writes about any result is ASCII, ends in
a line feed, and is one document: a reader that takes the digits of its numbers reads a document
that tells the result, and in it nothing was found if and only if there is no report. -/
theorem json_decodes (r : CheckResult) :
    (∀ c ∈ (Reporter.json.emit r).toList, c.toNat < 0x80) ∧
      (∃ front, Reporter.json.emit r = front ++ "\n") ∧
      (∃ limit, r.Fits limit) ∧
      ∀ limit, r.Fits limit → ∃ document,
        Json.parseWithin? limit (Reporter.json.emit r).toList = some document ∧
        r.ToldBy document ∧
        (document.get? "ok" = some (.bool true) ↔
          document.get? "diagnostics" = some (.array [])) := by
  refine ⟨r.ascii_json, ⟨_, r.json_eq⟩, r.exists_fits, fun limit h => ?_⟩
  refine ⟨_, parse_json h, r.toldBy_document, ?_⟩
  have hok : (r.document (r.diagnostics.map diagnosticJson)).get? "ok" = some (.bool r.ok) := rfl
  have hreports : (r.document (r.diagnostics.map diagnosticJson)).get? "diagnostics" =
      some (.array (r.diagnostics.map diagnosticJson)) := rfl
  rw [hok, hreports, ok]
  simp only [Option.some.injEq, Json.bool.injEq, Json.array.injEq, List.isEmpty_iff,
    List.map_eq_nil_iff]

/-- A result with quotes, line ends, characters beyond ASCII and beyond the first 65536. -/
def sampleResult : CheckResult :=
  { diagnostics := [
      { message := "\"a\\b\"\n", file := "t\u00e9.twig", line := 12, route := "\u2028\x00",
        tip := some "𝐀?" },
      { message := "m", file := "", line := -3, route := "/" }],
    handles := 1, templates := 20 }

/-- The sample is read back with the limit of every document. -/
theorem json_decodes_sample : sampleResult.Fits Text.digitLimit ∧
    ∃ document, Json.parse? (Reporter.json.emit sampleResult).toList = some document ∧
      sampleResult.ToldBy document := by
  have small : ∀ n ∈ sampleResult.numbers, n.natAbs < 10 ^ 2 := by decide
  have fits : sampleResult.Fits Text.digitLimit := fun n hn =>
    Nat.le_trans ((Nat.length_toDigits_le_iff (by decide) (by decide)).2 (small n hn)) (by decide)
  obtain ⟨document, hparse, told, -⟩ := (json_decodes sampleResult).2.2.2 _ fits
  exact ⟨fits, document, hparse, told⟩

/-! ## Different results -/

end CheckResult

/-- A document tells one report. -/
lemma Diagnostic.ToldBy.unique {d d' : Diagnostic} {document : Json} (h : d.ToldBy document)
    (h' : d'.ToldBy document) : d = d' := by
  have hmessage := h.message.symm.trans h'.message
  have hfile := h.file.symm.trans h'.file
  have hline := h.line.symm.trans h'.line
  have hroute := h.route.symm.trans h'.route
  have hidentifier := h.identifier.symm.trans h'.identifier
  have htip := h.tip.symm.trans h'.tip
  obtain ⟨message, file, line, route, identifier, tip⟩ := d
  obtain ⟨message', file', line', route', identifier', tip'⟩ := d'
  cases hmessage
  cases hfile
  cases hline
  cases hroute
  cases hidentifier
  cases tip <;> cases tip' <;> cases htip <;> rfl

namespace CheckResult

/-- A document tells one result. -/
lemma ToldBy.unique {r r' : CheckResult} {document : Json} (h : r.ToldBy document)
    (h' : r'.ToldBy document) : r = r' := by
  obtain ⟨counts, hcounts, h₁⟩ := h.totals
  obtain ⟨counts', hcounts', h₁'⟩ := h'.totals
  obtain ⟨records, hrecords, h₂⟩ := h.diagnostics
  obtain ⟨records', hrecords', h₂'⟩ := h'.diagnostics
  cases hcounts.symm.trans hcounts'
  cases hrecords.symm.trans hrecords'
  have hhandles := h₁.handles.symm.trans h₁'.handles
  have hcontrollers := h₁.controllers.symm.trans h₁'.controllers
  have hroutes := h₁.routes.symm.trans h₁'.routes
  have htemplates := h₁.templates.symm.trans h₁'.templates
  have hreferences := h₁.references.symm.trans h₁'.references
  have hdiagnostics : r.diagnostics = r'.diagnostics :=
    List.left_unique_forall₂' (fun _ _ _ hd hd' => hd.unique hd') h₂ h₂'
  obtain ⟨diagnostics, handles, controllers, routes, templates, references⟩ := r
  cases hdiagnostics
  cases hhandles
  cases hcontrollers
  cases hroutes
  cases htemplates
  cases hreferences
  rfl

/-- **Different results have different JSON forms.** -/
theorem json_injective : Function.Injective json := by
  intro r r' h
  obtain ⟨limit, hfits⟩ := r.exists_fits
  obtain ⟨limit', hfits'⟩ := r'.exists_fits
  have hparse := parse_json (hfits.mono (Nat.le_max_left limit limit'))
  have hparse' := parse_json (hfits'.mono (Nat.le_max_right limit limit'))
  rw [h, hparse'] at hparse
  have htold := r.toldBy_document
  rw [← Option.some.inj hparse] at htold
  exact htold.unique r'.toldBy_document

end CheckResult

end RouteAudit
