import Mathlib
import RouteAudit.Template.Reference

/-!
# Which references are reported

A literal may stand at any byte of a template (`Site.StandsIn`), and two literals may overlap.  The
references that are reported are those of the literals that do not start inside a reported one.
There is just one list of such literals, and it is the one that the scan follows
(`extract_reported`).
-/

namespace RouteAudit.Reference

/-- The bytes that may stand between the parenthesis and the quote. -/
def blankBytes : List UInt8 :=
  [9, 10, 11, 12, 13, 32]

/-- The bytes of quotes. -/
def quoteBytes : List UInt8 :=
  [34, 39]

/-- A literal in a template: the place of its first byte, the place of its text, and the text. -/
structure Site where
  start : Nat
  opening : Nat
  text : List UInt8
  deriving DecidableEq

/-- The place behind the closing quote. -/
def Site.stop (s : Site) : Nat :=
  s.opening + s.text.length + 1

/-- The literal stands at its place in a template. -/
inductive Site.StandsIn (content : List UInt8) (s : Site) : Prop
  | mk {before blanks rest : List UInt8} {quote : UInt8}
      (whole : content = before ++ (mark ++ (blanks ++ quote :: (s.text ++ quote :: rest))))
      (start_eq : s.start = before.length)
      (opening_eq : s.opening = s.start + (mark.length + blanks.length + 1))
      (isBlank : ∀ b ∈ blanks, b ∈ blankBytes) (isQuote : quote ∈ quoteBytes)
      (notEmpty : s.text ≠ []) (noQuote : quote ∉ s.text)

/-- The literals from a place on of which none starts inside another of them. -/
structure ReportedFrom (content : List UInt8) (place : Nat) (sites : List Site) : Prop where
  increasing : sites.Pairwise (·.start < ·.start)
  mem_iff : ∀ site, site ∈ sites ↔
    site.StandsIn content ∧ place ≤ site.start ∧
      ∀ earlier ∈ sites, earlier.start < site.start → earlier.stop ≤ site.start

/-- The literals of a template of which none starts inside another of them. -/
abbrev Reported (content : List UInt8) (sites : List Site) : Prop :=
  ReportedFrom content 0 sites

/-- The reference that a literal is. -/
def Site.reference (file : String) (content : List UInt8) (s : Site) : Reference where
  route := String.ofList (Text.Utf8.decodeLossy s.text)
  file
  line := (1 + (content.take s.opening).count 10 : Nat)

variable {content bytes text : List UInt8} {site : Site} {sites : List Site} {place : Nat}

/-! ## Literals -/

/-- The blank bytes are those of the list. -/
lemma isBlankByte_iff (b : UInt8) : isBlankByte b ↔ b ∈ blankBytes := by
  rw [isBlankByte, blankBytes]
  grind

/-- The bytes of quotes are those of the list. -/
lemma isQuoteByte_iff (b : UInt8) : isQuoteByte b ↔ b ∈ quoteBytes := by
  simp [isQuoteByte, quoteBytes]

/-- A quote is not blank. -/
lemma notBlank_of_quote {quote : UInt8} (h : quote ∈ quoteBytes) : isBlankByte quote = false := by
  obtain rfl | rfl := List.mem_pair.1 h <;> rfl

/-- Behind what is taken is what is dropped. -/
lemma drop_takeWhile {α : Type} (p : α → Bool) (l : List α) :
    l.drop (l.takeWhile p).length = l.dropWhile p := by
  have h : (l.takeWhile p ++ l.dropWhile p).drop (l.takeWhile p).length = l.dropWhile p :=
    List.drop_left
  rwa [List.takeWhile_append_dropWhile] at h

/-- A run of other elements that does not reach the end has an element of its own kind behind it. -/
lemma exists_behind_run {quote : UInt8} {l : List UInt8}
    (h : (l.takeWhile (· != quote)).length < l.length) :
    ∃ rest, l = l.takeWhile (· != quote) ++ quote :: rest := by
  have split := List.takeWhile_append_dropWhile (p := (· != quote)) (l := l)
  cases hrest : l.dropWhile (· != quote) with
  | nil =>
    rw [hrest, List.append_nil] at split
    rw [split] at h
    exact absurd h (Nat.lt_irrefl _)
  | cons b rest =>
    have hb := List.head?_dropWhile_not (· != quote) l
    rw [hrest] at hb split
    obtain rfl : b = quote := by simpa using hb
    exact ⟨rest, split.symm⟩

/-- A literal at the first byte. -/
lemma literal?_eq_some {front : Nat} :
    literal? bytes = some (front, text) ↔ ∃ blanks quote rest,
      bytes = mark ++ (blanks ++ quote :: (text ++ quote :: rest)) ∧
        front = mark.length + blanks.length + 1 ∧ (∀ b ∈ blanks, b ∈ blankBytes) ∧
        quote ∈ quoteBytes ∧ text ≠ [] ∧ quote ∉ text := by
  constructor
  · intro h
    rw [literal?] at h
    split at h
    case isFalse => cases h
    case isTrue hmark =>
      obtain ⟨tail, rfl⟩ := List.isPrefixOf_iff_prefix.1 hmark
      simp only [List.drop_left, drop_takeWhile] at h
      have split := List.takeWhile_append_dropWhile (p := isBlankByte) (l := tail)
      cases hquoted : tail.dropWhile isBlankByte with
      | nil =>
        rw [hquoted] at h
        cases h
      | cons quote quoted =>
        rw [hquoted] at h split
        dsimp only at h
        split at h
        case isFalse => cases h
        case isTrue hfits =>
          simp only [Bool.and_eq_true, Bool.not_eq_true', decide_eq_true_eq,
            List.isEmpty_eq_false_iff] at hfits
          obtain ⟨⟨isQuote, notEmpty⟩, closed⟩ := hfits
          obtain ⟨rest, hrest⟩ := exists_behind_run closed
          cases h
          refine ⟨_, quote, rest, by rw [← hrest, split], rfl, ?_, (isQuoteByte_iff _).1 isQuote,
            notEmpty, fun h => ?_⟩
          · exact fun b hb => (isBlankByte_iff b).1 (List.mem_takeWhile_imp hb)
          · simpa using List.mem_takeWhile_imp h
  · rintro ⟨blanks, quote, rest, rfl, rfl, isBlank, isQuote, notEmpty, noQuote⟩
    have hblanks : (blanks ++ quote :: (text ++ quote :: rest)).takeWhile isBlankByte = blanks := by
      rw [List.takeWhile_append_of_pos fun b hb => (isBlankByte_iff b).2 (isBlank b hb),
        List.takeWhile_cons_of_neg (by simp [notBlank_of_quote isQuote]), List.append_nil]
    have htext : (text ++ quote :: rest).takeWhile (· != quote) = text := by
      rw [List.takeWhile_append_of_pos fun b hb => by simpa using ne_of_mem_of_not_mem hb noQuote,
        List.takeWhile_cons_of_neg (by simp), List.append_nil]
    rw [literal?, if_pos (by simp)]
    simp only [List.drop_left, hblanks, htext]
    rw [if_pos (by simp [(isQuoteByte_iff quote).2 isQuote, notEmpty])]

/-- The literals that stand at a place are read from there. -/
lemma standsIn_iff {before : List UInt8} (h : site.start = before.length) :
    site.StandsIn (before ++ bytes) ↔
      ∃ front, literal? bytes = some (front, site.text) ∧ site.opening = site.start + front := by
  constructor
  · rintro ⟨whole, start_eq, opening_eq, isBlank, isQuote, notEmpty, noQuote⟩
    obtain ⟨rfl, rfl⟩ := List.append_inj whole (h.symm.trans start_eq)
    exact ⟨_, literal?_eq_some.2 ⟨_, _, _, rfl, rfl, isBlank, isQuote, notEmpty, noQuote⟩,
      opening_eq⟩
  · rintro ⟨front, hread, hopening⟩
    obtain ⟨blanks, quote, rest, rfl, rfl, isBlank, isQuote, notEmpty, noQuote⟩ :=
      literal?_eq_some.1 hread
    exact .mk rfl h hopening isBlank isQuote notEmpty noQuote

/-- A literal starts inside the template. -/
lemma Site.StandsIn.start_lt (h : site.StandsIn content) : site.start < content.length := by
  obtain ⟨rfl, start_eq, -⟩ := h
  rw [start_eq, List.length_append, List.length_append, List.length_append, List.length_cons]
  omega

/-- A literal starts before its text. -/
lemma Site.StandsIn.start_lt_opening (h : site.StandsIn content) : site.start < site.opening := by
  obtain ⟨-, -, opening_eq⟩ := h
  omega

/-- At most one literal starts at a place. -/
lemma Site.StandsIn.unique {other : Site} (h : site.StandsIn content)
    (h' : other.StandsIn content) (same : other.start = site.start) : other = site := by
  have parts : content = content.take site.start ++ content.drop site.start :=
    (List.take_append_drop _ _).symm
  have place : site.start = (content.take site.start).length := by
    rw [List.length_take, Nat.min_eq_left h.start_lt.le]
  rw [parts, standsIn_iff place] at h
  rw [parts, standsIn_iff (same.trans place)] at h'
  obtain ⟨front, hread, hopening⟩ := h
  obtain ⟨front', hread', hopening'⟩ := h'
  obtain ⟨rfl, htext⟩ := Prod.mk.inj (Option.some.inj (hread'.symm.trans hread))
  obtain ⟨start, opening, text⟩ := site
  obtain ⟨_, opening', _⟩ := other
  cases same
  cases htext
  obtain rfl : opening = start + front' := hopening
  obtain rfl : opening' = start + front' := hopening'
  rfl

/-! ## The list of reported literals -/

/-- Where no literal stands at a place, the list from there on is that from the next place on. -/
lemma ReportedFrom.skip (h : ReportedFrom content (place + 1) sites)
    (none : ∀ site : Site, site.StandsIn content → site.start ≠ place) :
    ReportedFrom content place sites where
  increasing := h.increasing
  mem_iff site := by
    rw [h.mem_iff]
    refine and_congr_right fun stands => and_congr_left' ?_
    have := none site stands
    omega

/-- The only literal at a place comes before the list from its end on. -/
lemma ReportedFrom.cons (h : ReportedFrom content site.stop sites)
    (stands : site.StandsIn content) : ReportedFrom content site.start (site :: sites) where
  increasing := by
    refine List.pairwise_cons.2 ⟨fun later hlater => ?_, h.increasing⟩
    have behind := ((h.mem_iff later).1 hlater).2.1
    have := stands.start_lt_opening
    rw [Site.stop] at behind
    omega
  mem_iff other := by
    have room : site.start < site.stop := by
      have := stands.start_lt_opening
      rw [Site.stop]
      omega
    rw [List.mem_cons, h.mem_iff, List.forall_mem_cons]
    constructor
    · rintro (rfl | ⟨hother, behind, free⟩)
      · refine ⟨stands, Nat.le_refl _, fun h => absurd h (Nat.lt_irrefl _),
          fun later hlater h' => ?_⟩
        have := ((h.mem_iff later).1 hlater).2.1
        omega
      · exact ⟨hother, by omega, fun _ => behind, free⟩
    · rintro ⟨hother, after, first, free⟩
      rcases Nat.eq_or_lt_of_le after with hsame | hlater
      · exact .inl (stands.unique hother hsame.symm)
      · exact .inr ⟨hother, first hlater, free⟩

/-- There is only one such list.  Whether a literal is in it depends on the earlier ones. -/
lemma ReportedFrom.unique {sites' : List Site} (h : ReportedFrom content place sites)
    (h' : ReportedFrom content place sites') : sites = sites' := by
  have same : ∀ start, ∀ site : Site, site.start = start → (site ∈ sites ↔ site ∈ sites') := by
    intro start
    induction start using Nat.strongRecOn with
    | ind start earlier =>
      rintro site rfl
      rw [h.mem_iff, h'.mem_iff]
      refine and_congr_right fun _ => and_congr_right fun _ => forall_congr' fun other => ?_
      constructor
      · exact fun free hmem before => free ((earlier _ before _ rfl).2 hmem) before
      · exact fun free hmem before => free ((earlier _ before _ rfl).1 hmem) before
  have nodup {sites : List Site} (h : sites.Pairwise (·.start < ·.start)) : sites.Nodup :=
    h.imp fun hlt e => Nat.ne_of_lt hlt (congrArg Site.start e)
  have perm : sites.Perm sites' :=
    (List.perm_ext_iff_of_nodup (nodup h.increasing) (nodup h'.increasing)).2
      fun site => same _ site rfl
  refine perm.eq_of_pairwise (fun a b _ _ hab hba => ?_) h.increasing h'.increasing
  exact absurd (hab.trans hba) (Nat.lt_irrefl _)

/-! ## The scan -/

/-- The scan from a place on follows the list of the literals from there on.  The induction is on
the bytes that are left; the first `used` of them belong to the last literal. -/
lemma scan_reportedFrom (file : String) (used : Nat) (before bytes : List UInt8) :
    ∃ sites, ReportedFrom (before ++ bytes) (before.length + used) sites ∧
      scan file (1 + before.count 10) used bytes =
        sites.map (Site.reference file (before ++ bytes)) := by
  induction bytes generalizing used before with
  | nil =>
    refine ⟨[], ⟨.nil, fun site => ?_⟩, rfl⟩
    simp only [List.append_nil, List.not_mem_nil, false_iff]
    intro h
    have := h.1.start_lt
    omega
  | cons b bytes ih =>
    have line : 1 + before.count 10 + lineEnds [b] = 1 + (before ++ [b]).count 10 := by
      rw [lineEnds, List.count_append, Nat.add_assoc]
    have whole : before ++ b :: bytes = (before ++ [b]) ++ bytes := by simp
    have next : before.length + 1 = (before ++ [b]).length := by simp
    cases used with
    | succ used =>
      obtain ⟨sites, reported, run⟩ := ih used (before ++ [b])
      refine ⟨sites, ?_, ?_⟩
      · rwa [whole, Nat.add_comm used, ← Nat.add_assoc, next]
      · rw [scan, line, run, whole]
    | zero =>
      cases hliteral : literal? (b :: bytes) with
      | none =>
        obtain ⟨sites, reported, run⟩ := ih 0 (before ++ [b])
        rw [← whole, ← next] at reported
        refine ⟨sites, reported.skip fun site stands h => ?_, ?_⟩
        · obtain ⟨front, hread, -⟩ := (standsIn_iff h).1 stands
          rw [hliteral] at hread
          cases hread
        · rw [scan]
          simp only [hliteral]
          rw [line, run, whole]
      | some found =>
        obtain ⟨front, text⟩ := found
        obtain ⟨sites, reported, run⟩ := ih (front + text.length) (before ++ [b])
        have stands : Site.StandsIn (before ++ b :: bytes)
            ⟨before.length, before.length + front, text⟩ :=
          (standsIn_iff rfl).2 ⟨front, hliteral, rfl⟩
        have stop : (before ++ [b]).length + (front + text.length) =
            Site.stop ⟨before.length, before.length + front, text⟩ := by
          simp only [← next, Site.stop]
          omega
        rw [stop, ← whole] at reported
        refine ⟨_, reported.cons stands, ?_⟩
        rw [scan]
        simp only [hliteral]
        rw [line, run, ← whole, List.map_cons, Site.reference]
        simp only [List.take_length_add_append, List.count_append, lineEnds, Nat.add_assoc]

/-- The lines of literals that follow each other do not decrease. -/
lemma ReportedFrom.lines (h : ReportedFrom content place sites) (file : String) :
    (sites.map (Site.reference file content)).Pairwise (·.line ≤ ·.line) := by
  rw [List.pairwise_map]
  refine h.increasing.imp_of_mem fun {a b} ha hb hlt => ?_
  have stands := ((h.mem_iff b).1 hb).1.start_lt_opening
  have free := ((h.mem_iff b).1 hb).2.2 a ha hlt
  have order : a.opening ≤ b.opening := by
    rw [Site.stop] at free
    omega
  have sub := (List.take_sublist_take_left order (l := content)).count_le 10
  simp only [Site.reference]
  omega

/-- **The references that are reported are those of the literals that do not start inside a reported
one.**  There is just one list of such literals; they come in the order of their places, and their
lines do not decrease. -/
theorem extract_reported (file : String) (content : List UInt8) :
    ∃ sites, Reported content sites ∧ (∀ sites', Reported content sites' → sites' = sites) ∧
      extract file content = sites.map (Site.reference file content) ∧
      (extract file content).Pairwise (·.line ≤ ·.line) := by
  obtain ⟨sites, reported, run⟩ := scan_reportedFrom file 0 [] content
  have hextract : extract file content = sites.map (Site.reference file content) := run
  refine ⟨sites, reported, fun sites' h => h.unique reported, hextract, ?_⟩
  rw [hextract]
  exact reported.lines file

/-- A literal inside another is not reported. -/
example : (extract "" (Text.Utf8.encode "actionInput('actionInput(\"a\")')")).map (·.route) =
    ["actionInput(\"a\")"] := by
  cbv

end RouteAudit.Reference
