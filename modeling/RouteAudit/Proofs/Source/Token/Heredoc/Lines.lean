import RouteAudit.Proofs.Source.Token.Span

/-!
# Heredocs line by line

The body of a heredoc is a list of lines.  The label ends it where it is the first word of a line,
but on the line behind the opening line it is not seen (`scan_heredoc`).
-/

namespace RouteAudit.Source

namespace Lexer
open Text

/-- Whether the first word of a line is the label, behind spaces and tabs. -/
def StartsWithLabel (word line : List Char) : Prop :=
  ∃ indent behind, line = indent ++ (word ++ behind) ∧ (∀ c ∈ indent, c = ' ' ∨ c = '\t') ∧
    ∀ c ∈ behind.head?, isWord c = false

/-- Some lines, each with its end. -/
def ended (lines : List (List Char)) : List Char :=
  lines.flatMap (· ++ ['\n'])

/-- An indent is of spaces and tabs. -/
lemma isIndent_iff {c : Char} : isIndent c = true ↔ c = ' ' ∨ c = '\t' := by
  rw [isIndent, Bool.or_eq_true, beq_iff_eq, beq_iff_eq]

/-- A text starts with no word if its first character is of none. -/
lemma startsWord_eq_false_iff {cs : List Char} :
    startsWord cs = false ↔ ∀ c ∈ cs.head?, isWord c = false := by
  cases cs with
  | nil => exact ⟨fun _ => nofun, fun _ => rfl⟩
  | cons c cs => simp [startsWord]

/-! ## The line of the closing label -/

/-- The label is found on a line that starts with it. -/
lemma closing?_closed {word indent rest : List Char} (hword : IsLabel word)
    (hindent : ∀ c ∈ indent, c = ' ' ∨ c = '\t') (hrest : ∀ c ∈ rest.head?, isWord c = false) :
    closing? word (indent ++ (word ++ rest)) = some (indent.length + word.length) :=
  (closing?_eq_some hword).2 ⟨indent, rest, rfl, fun c hc => isIndent_iff.2 (hindent c hc),
    startsWord_eq_false_iff.2 hrest, rfl⟩

/-- A line starts with the label just if it closes the body. -/
lemma startsWithLabel_iff {word line : List Char} (hword : IsLabel word) :
    StartsWithLabel word line ↔ closing? word line ≠ none := by
  constructor
  · rintro ⟨indent, behind, rfl, hindent, hbehind⟩
    rw [closing?_closed hword hindent hbehind]
    exact Option.some_ne_none _
  · intro h
    obtain ⟨n, hn⟩ := Option.ne_none_iff_exists'.1 h
    obtain ⟨indent, behind, rfl, hindent, hbehind, -⟩ := (closing?_eq_some hword).1 hn
    exact ⟨indent, behind, rfl, fun c hc => isIndent_iff.1 (hindent c hc),
      startsWord_eq_false_iff.1 hbehind⟩

/-- On a line that does not start with it the label is not found, whatever lines follow. -/
lemma closing?_line {word line : List Char} (hword : IsLabel word)
    (h : ¬ StartsWithLabel word line) (rest : List Char) :
    closing? word (line ++ '\n' :: rest) = none := by
  rw [Option.eq_none_iff_forall_ne_some]
  intro n hn
  obtain ⟨indent, behind, whole, hindent, hstart, -⟩ := (closing?_eq_some hword).1 hn
  have hno := newline_notMem_front hindent hword
  rw [← List.append_assoc] at whole
  refine h ?_
  obtain ⟨more, hfront, hmore⟩ | ⟨back, rfl, rfl⟩ := List.append_eq_append_iff.1 whole
  · -- the label does not go on behind the end of the line
    cases more with
    | nil =>
      rw [List.append_nil] at hfront
      exact ⟨indent, [], by rw [List.append_nil, hfront], fun c hc => isIndent_iff.1 (hindent c hc),
        nofun⟩
    | cons c more =>
      obtain ⟨rfl, -⟩ := List.cons.inj hmore
      rw [hfront] at hno
      exact absurd (List.mem_append_right _ List.mem_cons_self) hno
  · refine ⟨indent, back, List.append_assoc _ _ _, fun c hc => isIndent_iff.1 (hindent c hc), ?_⟩
    cases back with
    | nil => exact nofun
    | cons c back => exact startsWord_eq_false_iff.1 hstart

/-! ## The end of the body -/

/-- Up to the end of a line no label is seen. -/
lemma bodyLength?_line {word line : List Char} (hline : '\n' ∉ line) (rest : List Char) :
    bodyLength? word (line ++ '\n' :: rest) =
      ((closing? word rest).or (bodyLength? word rest)).map (line.length + 1 + ·) := by
  induction line with
  | nil =>
    rw [List.nil_append, bodyLength?, if_pos rfl]
    cases closing? word rest with
    | none => simp [Nat.add_comm]
    | some n => simp [Nat.add_comm]
  | cons c line ih =>
    rw [List.mem_cons, not_or] at hline
    obtain ⟨hc, hline⟩ := hline
    rw [List.cons_append, bodyLength?, if_neg (Ne.symm hc), ih hline]
    simp only [Option.map_map, List.length_cons]
    congr 1
    funext n
    simp only [Function.comp_apply]
    omega

/-- A line is written with its end, and the others behind it. -/
lemma ended_cons (line : List Char) (lines : List (List Char)) (rest : List Char) :
    ended (line :: lines) ++ rest = line ++ '\n' :: (ended lines ++ rest) := by
  simp [ended]

/-- A line is one longer with its end. -/
lemma length_ended_cons (line : List Char) (lines : List (List Char)) :
    (ended (line :: lines)).length = line.length + 1 + (ended lines).length := by
  have h := congrArg List.length (ended_cons line lines [])
  simp only [List.append_nil, List.length_append, List.length_cons] at h
  omega

/-- The body ends at the first line that starts with the label, but not at the line behind the
opening line. -/
lemma bodyLength?_lines {word last : List Char} (hword : IsLabel word) {n : Nat}
    (hlast : closing? word last = some n) {lines : List (List Char)} (hne : lines ≠ [])
    (hlines : ∀ line ∈ lines, '\n' ∉ line)
    (hopen : ∀ line ∈ lines.tail, ¬ StartsWithLabel word line) :
    bodyLength? word (ended lines ++ last) = some ((ended lines).length + n) := by
  induction lines with
  | nil => exact absurd rfl hne
  | cons line lines ih =>
    obtain ⟨hline, hlines⟩ := List.forall_mem_cons.1 hlines
    rw [ended_cons, bodyLength?_line hline, length_ended_cons]
    cases lines with
    | nil => simp [ended, hlast]
    | cons next lines =>
      obtain ⟨hnext, hopen⟩ := List.forall_mem_cons.1 hopen
      have notYet : closing? word (ended (next :: lines) ++ last) = none := by
        rw [ended_cons]
        exact closing?_line hword hnext _
      rw [notYet, Option.none_or, ih (List.cons_ne_nil _ _) hlines hopen, Option.map_some,
        ← Nat.add_assoc]

/-- On the line behind the opening line the body does not end. -/
lemma bodyLength?_ne {word indent : List Char} (hword : IsLabel word)
    (hindent : ∀ c ∈ indent, c = ' ' ∨ c = '\t') (rest : List Char) :
    bodyLength? word (indent ++ (word ++ rest)) ≠ some (indent.length + word.length) := by
  intro h
  have hnl := newline_mem_take_of_bodyLength? h
  rw [← List.append_assoc, ← List.length_append, List.take_left] at hnl
  exact newline_notMem_front (fun c hc => isIndent_iff.2 (hindent c hc)) hword hnl

/-- A heredoc from its angle brackets to its closing label. -/
def heredoc (front : List Char) (lines : List (List Char)) (indent word : List Char) : List Char :=
  '<' :: '<' :: '<' :: (front ++ (ended lines ++ (indent ++ word)))

section Heredoc

variable {word front indent rest : List Char} {lines : List (List Char)}
  (hopening : Opening word front) (hindent : ∀ c ∈ indent, c = ' ' ∨ c = '\t')

include hopening hindent

/-- A heredoc with lines is as long as it is written. -/
lemma heredocLength?_lines (hne : lines ≠ []) (hlines : ∀ line ∈ lines, '\n' ∉ line)
    (hopen : ∀ line ∈ lines.tail, ¬ StartsWithLabel word line)
    (hrest : ∀ c ∈ rest.head?, isWord c = false) :
    heredocLength? (heredoc front lines indent word ++ rest) =
      some (heredoc front lines indent word).length := by
  have hlast := closing?_closed hopening.isLabel hindent hrest
  have hread := heredocLength?_of_opening hopening (ended lines ++ (indent ++ (word ++ rest)))
  rw [bodyLength?_lines hopening.isLabel hlast hne hlines hopen] at hread
  simp only [heredoc, List.cons_append, List.append_assoc, hread, Option.map_some,
    List.length_cons, List.length_append, Option.some.injEq]
  omega

/-- A heredoc without lines is not read as it is written. -/
lemma heredocLength?_empty :
    heredocLength? (heredoc front [] indent word ++ rest) ≠
      some (heredoc front [] indent word).length := by
  intro h
  have hread := heredocLength?_of_opening hopening (indent ++ (word ++ rest))
  simp only [heredoc, ended, List.flatMap_nil, List.nil_append, List.cons_append, List.append_assoc,
    List.length_cons, List.length_append] at h
  rw [hread, Option.map_eq_some_iff] at h
  obtain ⟨n, hn, hlength⟩ := h
  refine bodyLength?_ne hopening.isLabel hindent rest ?_
  rw [hn]
  congr 1
  omega

end Heredoc

/-- Where three angle brackets start no heredoc, the first of them is a token. -/
lemma next_angles {cs : List Char} (h : heredocLength? ('<' :: '<' :: '<' :: cs) = none) :
    next ('<' :: '<' :: '<' :: cs) = (.token .op, 1) := by
  have hstring : stringLength? ('<' :: '<' :: '<' :: cs) = none :=
    stringLength?_eq_none (by decide) (by decide) _
  have hname : nameLength? ('<' :: '<' :: '<' :: cs) = none :=
    nameLength?_eq_none (by decide) (by decide) _
  have hnumber : numberLength? ('<' :: '<' :: '<' :: cs) = none :=
    numberLength?_eq_none (by decide) _
  simp [next, classes, h, hstring, hname, hnumber, commentLength?, tagLength?, variableLength?,
    opLength?, singleOps]

end Lexer

namespace Token
open Lexer

/-- A heredoc is one token up to its closing label, and what stands behind is read as a source,
unless the closing label stands on the line behind the opening line. -/
theorem scan_heredoc {word front indent rest : List Char} {lines : List (List Char)}
    (hopening : Opening word front) (hlines : ∀ line ∈ lines, '\n' ∉ line)
    (hopen : ∀ line ∈ lines.tail, ¬ StartsWithLabel word line)
    (hindent : ∀ c ∈ indent, c = ' ' ∨ c = '\t')
    (hrest : ∀ c ∈ rest.head?, Text.isWord c = false) :
    let text := heredoc front lines indent word
    scan (text ++ rest) =
        ⟨.heredoc, String.ofList text, 0⟩ :: (scan rest).map (shift text.length) ↔
      lines ≠ [] := by
  intro text
  constructor
  · rintro hscan rfl
    cases hlength : heredocLength? (text ++ rest) with
    | none =>
      have hfirst := scanFrom_token (List.cons_ne_nil '<' []) (next_angles hlength) 0
      have hsame := (List.cons.inj (hfirst.symm.trans hscan)).1
      have hkind : TokenKind.op = .heredoc := congrArg Token.kind hsame
      cases hkind
    | some n =>
      -- another label further behind may close the heredoc
      obtain ⟨hle, hself⟩ := heredocLength?_take hlength
      have htake : ((text ++ rest).take n).length = n := List.length_take_of_le hle
      have hne : (text ++ rest).take n ≠ [] := by
        intro hnil
        rw [hnil] at hself
        cases hself
      have hnext : next ((text ++ rest).take n ++ (text ++ rest).drop n) =
          (.token .heredoc, ((text ++ rest).take n).length) := by
        rw [List.take_append_drop, htake, next_heredoc hlength]
      have hfirst := scanFrom_token hne hnext 0
      rw [List.take_append_drop] at hfirst
      have hsame := (List.cons.inj (hfirst.symm.trans hscan)).1
      have htext := String.ofList_injective (congrArg Token.text hsame)
      rw [← htake, htext] at hlength
      exact heredocLength?_empty hopening hindent hlength
  · intro hsome
    have hlength := heredocLength?_lines hopening hindent hsome hlines hopen hrest
    exact scan_token (List.cons_ne_nil _ _) (next_heredoc hlength)

/-- Lines that start with something like the label, that hold quotes and comment signs, and that are
empty go on the heredoc. -/
theorem scan_heredoc_lines :
    let word := "SQL".toList
    let front := "\x27SQL\x27\r\n".toList
    let lines := ["-- \x27 /* \x7b".toList, "  SQLite".toList, "a SQL;".toList, []]
    let rest := ", 2];".toList
    Opening word front ∧ (∀ line ∈ lines, '\n' ∉ line) ∧
      (∀ line ∈ lines.tail, ¬ StartsWithLabel word line) ∧
      (∀ c ∈ rest.head?, Text.isWord c = false) ∧
      scan (heredoc front lines ['\t'] word ++ rest) =
        ⟨.heredoc, "<<<\x27SQL\x27\r\n-- \x27 /* \x7b\n  SQLite\na SQL;\n\n\tSQL", 0⟩ ::
          [⟨.op, ",", 41⟩, ⟨.number, "2", 43⟩, ⟨.op, "]", 44⟩, ⟨.op, ";", 45⟩] := by
  intro word front lines rest
  have hword : IsLabel word :=
    ⟨'S', "QL".toList, by decide, by decide, forall_mem_of_all (by decide)⟩
  have hopening : Opening word front :=
    @Opening.mk word [] ['\x27'] ['\r', '\n'] (List.forall_mem_nil _) (by decide) hword (by decide)
  have hlines : ∀ line ∈ lines, '\n' ∉ line := by decide
  have hopen : ∀ line ∈ lines.tail, ¬ StartsWithLabel word line := by
    intro line hmem
    rw [startsWithLabel_iff hword]
    simp only [lines, List.tail_cons, List.mem_cons, List.not_mem_nil, or_false] at hmem
    rcases hmem with rfl | rfl | rfl <;> decide +kernel
  have hrest : ∀ c ∈ rest.head?, Text.isWord c = false := by
    rintro c ⟨⟩
    decide
  have hindent : ∀ c ∈ ['\t'], c = ' ' ∨ c = '\t' := by simp
  refine ⟨hopening, hlines, hopen, hrest, ?_⟩
  rw [(scan_heredoc hopening hlines hopen hindent hrest).2 (List.cons_ne_nil _ _)]
  decide +kernel

-- a heredoc that has no line is none, and its labels are names
example : (scan "<<<A\nA;".toList).map (·.text) = ["<", "<", "<", "A", "A", ";"] := by
  decide +kernel

end Token

end RouteAudit.Source
