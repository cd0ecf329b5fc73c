import RouteAudit.Proofs.Source.Token.Spelling

/-!
# Layout

What may stand between tokens: blanks, comments and the tags around the code.  A source is layout,
a token, layout, a token, and so on (`scans_scanFrom`).  Each token is read from its own characters
(`next_take`), so it is read from there again wherever its text stands in front of a blank.
-/

namespace RouteAudit.Source

namespace Lexer
open Text

/-! ## Comments and tags -/

/-- A comment up to the end of a line, without that end. -/
inductive LineComment : List Char → Prop where
  | slashes {line} :
    '\n' ∉ line →
    LineComment ('/' :: '/' :: line)
  | hash {line} :
    '\n' ∉ line →
    line.head? ≠ some '[' →
    LineComment ('#' :: line)

/-- A complete comment: a line with its end, or a block that does not end before. -/
inductive Comment : List Char → Prop where
  | line {cs} :
    LineComment cs →
    Comment (cs ++ ['\n'])
  | block {body} :
    ¬ ['*', '/'] <:+: body →
    Comment ('/' :: '*' :: (body ++ ['*', '/']))

/-- The tags around the code. -/
def tags : List (List Char) :=
  [['<', '?', 'p', 'h', 'p'], ['<', '?', '='], ['<', '?'], ['?', '>']]

/-- A run of blanks, complete comments and some tags. -/
inductive Layout (tags : List (List Char)) : List Char → Prop where
  | nil :
    Layout tags []
  | blank {b cs} :
    isBlank b = true →
    Layout tags cs →
    Layout tags (b :: cs)
  | comment {front cs} :
    Comment front →
    Layout tags cs →
    Layout tags (front ++ cs)
  | tag {t cs} :
    t ∈ tags →
    Layout tags cs →
    Layout tags (t ++ cs)

/-! ## How comments are read -/

/-- A block ends at the nearest end of a comment. -/
lemma blockLength?_eq_some {cs : List Char} {n : Nat} :
    blockLength? cs = some n ↔
      ∃ body rest, cs = body ++ '*' :: '/' :: rest ∧ ¬ ['*', '/'] <:+: body ∧
        n = body.length + 2 := by
  constructor
  · intro h
    fun_induction blockLength? cs generalizing n with
    | case1 => cases h
    | case2 rest =>
      obtain rfl := Option.some.inj h
      exact ⟨[], rest, rfl, by simp, rfl⟩
    | case3 c cs hne ih =>
      obtain ⟨m, hm, rfl⟩ := Option.map_eq_some_iff.1 h
      obtain ⟨body, rest, rfl, hbody, rfl⟩ := ih hm
      refine ⟨c :: body, rest, rfl, ?_, rfl⟩
      rw [List.infix_cons_iff, not_or]
      refine ⟨?_, hbody⟩
      -- an end that starts here would have been seen
      rintro ⟨tail, htail⟩
      obtain ⟨rfl, rfl⟩ : '*' = c ∧ '/' :: tail = body := by simpa using htail
      exact hne _ rfl rfl
  · rintro ⟨body, rest, rfl, hbody, rfl⟩
    induction body with
    | nil => rfl
    | cons c body ih =>
      rw [List.infix_cons_iff, not_or] at hbody
      rw [List.cons_append, blockLength?, ih hbody.2]
      · rfl
      · intro tail hc htail
        apply hbody.1
        subst hc
        cases body with
        | nil => cases htail
        | cons d body =>
          cases htail
          exact ⟨body, rfl⟩

/-- A line ends at the nearest line end. -/
lemma lineLength_append {line rest : List Char} (hline : '\n' ∉ line)
    (hrest : ∀ c ∈ rest.head?, c = '\n') : lineLength (line ++ rest) = line.length := by
  have hall : ∀ c ∈ line, (c != '\n') = true := by
    intro c hc
    rw [bne_iff_ne]
    rintro rfl
    exact hline hc
  have hstop : rest.takeWhile (· != '\n') = [] := by
    cases rest with
    | nil => rfl
    | cons c rest =>
      obtain rfl := hrest c rfl
      rfl
  rw [lineLength, List.takeWhile_append_of_pos hall, hstop, List.append_nil]

/-- What is left of a text behind its first line starts with the line end. -/
lemma line_of_lineLength (cs : List Char) :
    ∃ line rest, cs = line ++ rest ∧ '\n' ∉ line ∧ (∀ c ∈ rest.head?, c = '\n') := by
  refine ⟨cs.takeWhile (· != '\n'), cs.dropWhile (· != '\n'),
    List.takeWhile_append_dropWhile.symm, fun hm => ?_, fun c hc => ?_⟩
  · exact absurd (List.mem_takeWhile_imp hm) (by decide)
  · have hhead := List.head?_dropWhile_not (fun c => c != '\n') cs
    rw [hc] at hhead
    simpa using hhead

/-- A comment is the next lexeme. -/
lemma next_comment {cs : List Char} {n : Nat} (h : commentLength? cs = some n) :
    next cs = (.comment, n) := by
  simp [next, classes, h]

/-- A comment to the end of its line is the next lexeme. -/
lemma next_lineComment {front rest : List Char} (h : LineComment front)
    (hrest : ∀ c ∈ rest.head?, c = '\n') : next (front ++ rest) = (.comment, front.length) := by
  apply next_comment
  cases h with
  | slashes hline =>
    simp only [List.cons_append, commentLength?, lineLength_append hline hrest, List.length_cons,
      Option.some.injEq]
    omega
  | @hash line hline hbracket =>
    have hhash : commentLength? ('#' :: (line ++ rest)) =
        some (1 + lineLength (line ++ rest)) := by
      rw [commentLength?]
      intro tail htail
      cases line with
      | nil =>
        rw [List.nil_append] at htail
        exact absurd (hrest '[' (by rw [htail]; rfl)) (by decide)
      | cons c line =>
        cases htail
        exact hbracket rfl
    rw [List.cons_append, hhash, lineLength_append hline hrest, List.length_cons, Nat.add_comm]

end Lexer

namespace Token
open Lexer

/-- A comment up to the end of a line is left out. -/
lemma scanFrom_lineComment {front rest : List Char} (h : LineComment front)
    (hrest : ∀ c ∈ rest.head?, c = '\n') (offset : Nat) :
    scanFrom offset (front ++ rest) = scanFrom (offset + front.length) rest := by
  have hne : front ≠ [] := by
    cases h <;> exact List.cons_ne_nil _ _
  exact scanFrom_layout hne (next_lineComment h hrest) nofun offset

/-- A complete comment is left out. -/
lemma scanFrom_comment {front : List Char} (h : Comment front) (offset : Nat) (rest : List Char) :
    scanFrom offset (front ++ rest) = scanFrom (offset + front.length) rest := by
  cases h with
  | line hline =>
    rw [List.append_assoc, List.singleton_append,
      scanFrom_lineComment hline (by simp), scanFrom_blank (by decide), List.length_append]
    rfl
  | @block body hbody =>
    have hlength : blockLength? (body ++ '*' :: '/' :: rest) = some (body.length + 2) :=
      blockLength?_eq_some.2 ⟨body, rest, rfl, hbody, rfl⟩
    refine scanFrom_layout (List.cons_ne_nil _ _) (next_comment ?_) nofun offset
    simp only [List.cons_append, List.append_assoc, List.nil_append, commentLength?, hlength,
      Option.map_some, List.length_cons, List.length_append, List.length_nil]

/-- Layout without tags is left out. -/
lemma scanFrom_of_layout {cs : List Char} (h : Layout [] cs) (offset : Nat) (rest : List Char) :
    scanFrom offset (cs ++ rest) = scanFrom (offset + cs.length) rest := by
  induction h generalizing offset with
  | nil => rfl
  | blank hb _ ih =>
    rw [List.cons_append, scanFrom_blank hb, ih, List.length_cons]
    congr 1
    omega
  | comment hfront _ ih =>
    rw [List.append_assoc, scanFrom_comment hfront, ih, List.length_append, Nat.add_assoc]
  | tag ht => cases ht

end Token

namespace Lexer

/-! ## What a text starts with -/

/-- What is read as a comment is complete, or it goes on to the end of the text. -/
lemma comment_of_commentLength? {cs : List Char} {n : Nat} (h : commentLength? cs = some n) :
    LineComment cs ∨ ∃ front rest, cs = front ++ rest ∧ Comment front := by
  -- a line comment is complete if a line end follows
  have line (start : List Char) {cs : List Char}
      (hstart : ∀ line rest, cs = line ++ rest → '\n' ∉ line → LineComment (start ++ line)) :
      LineComment (start ++ cs) ∨ ∃ front rest, start ++ cs = front ++ rest ∧ Comment front := by
    obtain ⟨line, rest, rfl, hline, hrest⟩ := line_of_lineLength cs
    have hcomment := hstart line rest rfl hline
    cases rest with
    | nil => exact .inl (by rwa [List.append_nil])
    | cons c rest =>
      obtain rfl := hrest c rfl
      exact .inr ⟨start ++ line ++ ['\n'], rest, by simp, .line hcomment⟩
  unfold commentLength? at h
  split at h
  · exact line ['/', '/'] fun _ _ _ hline => .slashes hline
  · obtain ⟨m, hm, rfl⟩ := Option.map_eq_some_iff.1 h
    obtain ⟨body, rest, rfl, hbody, rfl⟩ := blockLength?_eq_some.1 hm
    exact .inr ⟨_, rest, by simp, .block hbody⟩
  · cases h
  · next cs hbracket =>
    refine line ['#'] fun line rest hcs hline => .hash hline fun hhead => ?_
    cases line with
    | nil => cases hhead
    | cons c line =>
      cases hhead
      exact hbracket _ hcs
  · cases h

/-- A tag is one of the tags. -/
lemma tag_of_tagLength? {cs : List Char} {n : Nat} (h : tagLength? cs = some n) :
    ∃ t ∈ tags, ∃ rest, cs = t ++ rest ∧ n = t.length := by
  unfold tagLength? at h
  split at h
  · cases h
    exact ⟨['<', '?', 'p', 'h', 'p'], by decide, _, rfl, rfl⟩
  · cases h
    exact ⟨['<', '?', '='], by decide, _, rfl, rfl⟩
  · cases h
    exact ⟨['<', '?'], by decide, _, rfl, rfl⟩
  · cases h
    exact ⟨['?', '>'], by decide, _, rfl, rfl⟩
  · cases h

/-! ## Tokens by themselves -/

/-- An operator alone is the next lexeme. -/
lemma next_op_self {cs : List Char} (h : opLength? cs = some cs.length) :
    next cs = (.token .op, cs.length) := by
  unfold opLength? at h
  split at h
  case h_9 c r _ _ _ _ _ _ _ _ =>
    split at h
    · next hc =>
      obtain rfl : r = [] := List.eq_nil_of_length_eq_zero (by simpa using h)
      have single : ∀ d ∈ singleOps, next [d] = (.token .op, 1) :=
        forall_mem_of_all (by decide +kernel)
      exact single c (by simpa using hc)
    · cases h
  case h_10 => cases h
  -- the operators of more than one character
  all_goals
    next r =>
    obtain rfl : r = [] := List.eq_nil_of_length_eq_zero (by simpa using h)
    rfl

/-- A character that is an operator by itself starts one, whatever follows. -/
lemma opLength?_ne_none {c : Char} (h : singleOps.contains c = true) (cs : List Char) :
    opLength? (c :: cs) ≠ none := by
  unfold opLength?
  split
  case h_9 e =>
    cases e
    rw [if_pos h]
    exact Option.some_ne_none _
  case h_10 e => cases e
  all_goals exact Option.some_ne_none _

/-- A character that starts no lexeme of a text is none of a class by itself. -/
lemma readers_singleton {c : Char} {cs : List Char} (h : ∀ l ∈ classes, l.2 (c :: cs) = none) :
    ∀ l ∈ classes, l.2 [c] = none := by
  simp only [classes, List.forall_mem_cons, List.not_mem_nil, false_implies, implies_true,
    and_true] at h ⊢
  obtain ⟨hcomment, htag, hheredoc, hstring, hvariable, hname, hnumber, hop, hblank⟩ := h
  have hhash : c ≠ '#' := by
    rintro rfl
    cases cs with
    | nil => cases hcomment
    | cons d cs =>
      by_cases hd : d = '['
      · subst hd
        cases hop
      · simp [commentLength?, hd] at hcomment
  have hname' : nameLength? [c] = none := by
    by_cases hb : c = '\\'
    · subst hb
      rfl
    · rw [nameLength?_cons hb] at hname ⊢
      split at hname
      · cases hname
      · next hc => exact if_neg hc
  have hop' : opLength? [c] = none := by
    by_cases hc : singleOps.contains c = true
    · exact absurd hop (opLength?_ne_none hc cs)
    · unfold opLength?
      split <;> simp_all
  refine ⟨?_, ?_, ?_, ?_, ?_, hname', ?_, hop', ?_⟩
  · unfold commentLength?
    split <;> simp_all
  · unfold tagLength?
    split <;> simp_all
  · unfold heredocLength?
    split <;> simp_all
  · simp [stringLength?, quoteLength?]
  · unfold variableLength?
    split <;> simp_all
  · rw [numberLength?] at hnumber ⊢
    split at hnumber
    · cases hnumber
    · next hc => exact if_neg hc
  · rw [blankLength?] at hblank ⊢
    split at hblank
    · cases hblank
    · next hc => exact if_neg hc

/-- A token is read from its own characters. -/
lemma next_take {kind : TokenKind} {cs : List Char} {n : Nat} (hne : cs ≠ [])
    (hnext : next cs = (.token kind, n)) :
    n ≤ cs.length ∧ next (cs.take n) = (.token kind, n) := by
  rcases class_of_next hnext with ⟨rfl, h⟩ | ⟨rfl, h⟩ | ⟨rfl, h⟩ | ⟨rfl, h⟩ | ⟨rfl, h⟩ | ⟨rfl, h⟩ |
    ⟨rfl, rfl, h⟩
  · exact (heredocLength?_take h).imp_right next_heredoc
  · exact (stringLength?_take h).imp_right next_string
  · exact (variableLength?_take h).imp_right next_variable
  · exact (nameLength?_take h).imp_right next_name
  · exact (numberLength?_take h).imp_right next_number
  · obtain ⟨hle, htake⟩ := opLength?_take h
    have hlength : (cs.take n).length = n := List.length_take_of_le hle
    have hself : next (cs.take n) = (.token .op, (cs.take n).length) :=
      next_op_self (by rw [htake, hlength])
    exact ⟨hle, by rw [hself, hlength]⟩
  · obtain ⟨c, r, rfl⟩ := List.exists_cons_of_ne_nil hne
    refine ⟨Nat.succ_le_succ (Nat.zero_le _), ?_⟩
    have hself := readers_singleton h
    simp only [classes, List.forall_mem_cons, List.not_mem_nil, false_implies, implies_true,
      and_true] at hself
    simp [next, classes, hself]

end Lexer

end RouteAudit.Source
