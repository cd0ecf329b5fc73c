import RouteAudit.Proofs.Source.Token.Heredoc
import RouteAudit.Proofs.Source.Token.Place

/-!
# Spelling

A text stands as a token when it is read as one token by itself.  A lone quote does not count: it is
a token only as long as no other quote follows.  A text that stands is read as the same token in
front of a blank (`next_append_blank`), whatever follows there.  So a list of tokens that is written
with blanks between is read back (`scan_render`).
-/

namespace RouteAudit.Source

namespace Lexer
open Text

/-- Whether a text is read as one token of a kind, also if quotes follow. -/
def Stands (kind : TokenKind) (cs : List Char) : Prop :=
  next cs = (.token kind, cs.length) ∧ cs ≠ ['\x27'] ∧ cs ≠ ['"']

/-- Whether a text stands as a token can be decided. -/
instance (kind : TokenKind) (cs : List Char) : Decidable (Stands kind cs) :=
  inferInstanceAs (Decidable (_ ∧ _ ∧ _))

/-! ## Lexemes before a blank -/

section Blank

variable {b : Char} (hb : isBlank b = true) (c : Char) (rest : List Char)

include hb

/-- A character and a blank start no comment. -/
lemma commentLength?_blank (hc : c ≠ '#') : commentLength? (c :: b :: rest) = none := by
  have h₁ := ne_of_isBlank hb (c := '/') (by decide)
  have h₂ := ne_of_isBlank hb (c := '*') (by decide)
  unfold commentLength?
  split <;> simp_all

/-- A character and a blank start no tag. -/
lemma tagLength?_blank : tagLength? (c :: b :: rest) = none := by
  have h₁ := ne_of_isBlank hb (c := '?') (by decide)
  have h₂ := ne_of_isBlank hb (c := '>') (by decide)
  unfold tagLength?
  split <;> simp_all

/-- A character and a blank start no heredoc. -/
lemma heredocLength?_blank : heredocLength? (c :: b :: rest) = none := by
  have h₁ := ne_of_isBlank hb (c := '<') (by decide)
  unfold heredocLength?
  split <;> simp_all

/-- A character and a blank start no variable. -/
lemma variableLength?_blank : variableLength? (c :: b :: rest) = none := by
  unfold variableLength?
  split
  · next e =>
    cases e
    rw [if_neg (by simp [isNameStart_of_isBlank hb])]
  · rfl

/-- A backslash and a blank start no name. -/
lemma nameLength?_blank : nameLength? ('\\' :: b :: rest) = none := by
  rw [nameLength?, if_neg (by simp [isNameStart_of_isBlank hb])]

/-- One character before a blank is an operator if it is one by itself. -/
lemma opLength?_blank :
    opLength? (c :: b :: rest) = if singleOps.contains c then some 1 else none := by
  have h₁ := ne_of_isBlank hb (c := '[') (by decide)
  have h₂ := ne_of_isBlank hb (c := '-') (by decide)
  have h₃ := ne_of_isBlank hb (c := ':') (by decide)
  have h₄ := ne_of_isBlank hb (c := '>') (by decide)
  have h₅ := ne_of_isBlank hb (c := '?') (by decide)
  have h₆ := ne_of_isBlank hb (c := '.') (by decide)
  unfold opLength?
  split <;> simp_all

/-- A single operator in front of a blank is the next lexeme. -/
lemma next_singleOp (hc : singleOps.contains c = true) :
    next (c :: b :: rest) = (.token .op, 1) := by
  have plain : ∀ d ∈ singleOps, d ≠ '#' ∧ d ≠ '\x27' ∧ d ≠ '"' ∧ d ≠ '\\' ∧
      isNameStart d = false ∧ isDecimal d = false := forall_mem_of_all (by decide +kernel)
  obtain ⟨h₁, h₂, h₃, h₄, h₅, h₆⟩ := plain c (by simpa using hc)
  have hop : opLength? (c :: b :: rest) = some 1 := by rw [opLength?_blank hb, if_pos hc]
  simp [next, classes, commentLength?_blank hb c rest h₁, tagLength?_blank hb,
    heredocLength?_blank hb, stringLength?_eq_none h₂ h₃, variableLength?_blank hb,
    nameLength?_eq_none h₄ h₅, numberLength?_eq_none h₆, hop]

end Blank

/-- An operator in front of a blank is the next lexeme. -/
lemma next_op {cs : List Char} (h : opLength? cs = some cs.length) {b : Char}
    (hb : isBlank b = true) (rest : List Char) :
    next (cs ++ b :: rest) = (.token .op, cs.length) := by
  unfold opLength? at h
  split at h
  case h_9 c r _ _ _ _ _ _ _ _ =>
    split at h
    · next hc =>
      have hr : r = [] := List.eq_nil_of_length_eq_zero (by simpa using h)
      subst hr
      exact next_singleOp hb c rest hc
    · cases h
  case h_10 => cases h
  -- the operators of more than one character
  all_goals
    next r =>
    have hr : r = [] := List.eq_nil_of_length_eq_zero (by simpa using h)
    subst hr
    rfl

/-- A character without a role is read as such before a blank. -/
lemma next_other {c : Char} (h : ∀ l ∈ classes, l.2 [c] = none) (hs : c ≠ '\x27') (hd : c ≠ '"')
    {b : Char} (hb : isBlank b = true) (rest : List Char) :
    next (c :: b :: rest) = (.token .other, 1) := by
  simp only [classes, List.forall_mem_cons, List.not_mem_nil, false_implies, implies_true,
    and_true] at h
  obtain ⟨hcomment, -, -, -, -, hname, hnumber, hop, hblank⟩ := h
  have hh : c ≠ '#' := by
    rintro rfl
    cases hcomment
  have hname' : nameLength? (c :: b :: rest) = none := by
    by_cases hc : c = '\\'
    · subst hc
      exact nameLength?_blank hb rest
    · apply nameLength?_eq_none hc
      rw [nameLength?.eq_def] at hname
      split at hname
      · next e => cases e
      · next e =>
        cases e
        split at hname
        · cases hname
        · next hn => simpa using hn
      · next e => cases e
  have hnumber' : numberLength? (c :: b :: rest) = none := by
    apply numberLength?_eq_none
    rw [numberLength?] at hnumber
    split at hnumber
    · cases hnumber
    · next hn => simpa using hn
  -- the only operators that a blank can stand behind are those of one character
  have hop' : opLength? (c :: b :: rest) = none := by
    rw [opLength?_blank hb, if_neg]
    intro hc
    have single : ∀ d ∈ singleOps, opLength? [d] = some 1 := forall_mem_of_all (by decide)
    rw [single c (by simpa using hc)] at hop
    cases hop
  have hblank' : isBlank c = false := by
    rw [blankLength?] at hblank
    split at hblank
    · cases hblank
    · next hn => simpa using hn
  simp [next, classes, commentLength?_blank hb c rest hh, tagLength?_blank hb,
    heredocLength?_blank hb, stringLength?_eq_none hs hd, variableLength?_blank hb, hname',
    hnumber', hop', blankLength?, hblank']

/-- A text that stands as a token is read as that token in front of a blank. -/
theorem next_append_blank {kind : TokenKind} {cs : List Char} (h : Stands kind cs) {b : Char}
    (hb : isBlank b = true) (rest : List Char) :
    next (cs ++ b :: rest) = (.token kind, cs.length) := by
  obtain ⟨hnext, hs, hd⟩ := h
  have hw := isWord_of_isBlank hb
  -- each class has a way of its own not to go on behind a blank
  rcases class_of_next hnext with ⟨rfl, h⟩ | ⟨rfl, h⟩ | ⟨rfl, h⟩ | ⟨rfl, h⟩ | ⟨rfl, h⟩ | ⟨rfl, h⟩ |
    ⟨rfl, hlen, h⟩
  · exact next_heredoc (heredocLength?_append h hw rest)
  · exact next_string (stringLength?_append h _)
  · exact next_variable (variableLength?_append h hw rest)
  · exact next_name (nameLength?_append h hw (ne_of_isBlank hb (by decide)) rest)
  · have hp : b ≠ '.' := ne_of_isBlank hb (by decide)
    exact next_number (numberLength?_append h (by simp [hw, hp]) rest)
  · exact next_op h hb rest
  · obtain ⟨c, rfl⟩ := List.length_eq_one_iff.1 hlen
    exact next_other h (by simpa using hs) (by simpa using hd) hb rest

/-- Blanks are the next lexeme. -/
lemma next_blank {b : Char} (hb : isBlank b = true) (rest : List Char) :
    next (b :: rest) = (.blank, 1 + (rest.takeWhile isBlank).length) := by
  have ne : ∀ c, isBlank c = false → b ≠ c := fun c hc => ne_of_isBlank hb hc
  have hop : opLength? (b :: rest) = none := by
    unfold opLength?
    split
    case h_9 c _ _ _ _ _ _ _ _ e =>
      cases e
      have plain : ∀ d ∈ singleOps, isBlank d = false := forall_mem_of_all (by decide)
      rw [if_neg]
      intro hc
      rw [plain b (by simpa using hc)] at hb
      exact absurd hb (by decide)
    case h_10 => rfl
    all_goals
      next e =>
      cases e
      exact absurd hb (by decide)
  simp [next, classes, commentLength?_eq_none (ne '/' (by decide)) (ne '#' (by decide)),
    tagLength?_eq_none (ne '<' (by decide)) (ne '?' (by decide)),
    heredocLength?_eq_none (ne '<' (by decide)),
    stringLength?_eq_none (ne '\x27' (by decide)) (ne '"' (by decide)),
    variableLength?_eq_none (ne '$' (by decide)),
    nameLength?_eq_none (ne '\\' (by decide)) (isNameStart_of_isBlank hb),
    numberLength?_eq_none (isDecimal_of_isBlank hb), hop, blankLength?, hb]

/-! ## Lists of tokens -/

/-- The characters that belong to a lexeme before are passed over. -/
lemma lexemes_append (offset : Nat) (cs rest : List Char) :
    lexemes offset cs.length (cs ++ rest) = lexemes (offset + cs.length) 0 rest := by
  induction cs generalizing offset with
  | nil => rfl
  | cons c cs ih =>
    rw [List.length_cons, List.cons_append, lexemes, ih]
    congr 1
    omega

/-- The first lexeme of a text, and the lexemes of the rest. -/
lemma lexemes_of_next {lexeme : Lexeme} {cs rest : List Char} (hne : cs ≠ [])
    (h : next (cs ++ rest) = (lexeme, cs.length)) (offset : Nat) :
    lexemes offset 0 (cs ++ rest) =
      (lexeme, offset, cs) :: lexemes (offset + cs.length) 0 rest := by
  cases cs with
  | nil => exact absurd rfl hne
  | cons c cs =>
    rw [List.cons_append] at h ⊢
    rw [lexemes, h]
    simp only [List.length_cons, Nat.add_sub_cancel, List.take_left]
    rw [lexemes_append, show offset + 1 + cs.length = offset + (cs.length + 1) by omega]

/-- A text that stands is not empty and does not start with a blank. -/
lemma Stands.cons {kind : TokenKind} {cs : List Char} (h : Stands kind cs) :
    ∃ c r, cs = c :: r ∧ isBlank c = false := by
  cases cs with
  | nil =>
    have hnil : next [] = (.token .other, 1) := rfl
    have hnext := h.1
    rw [hnil] at hnext
    cases hnext
  | cons c r =>
    refine ⟨c, r, rfl, ?_⟩
    rw [← Bool.not_eq_true]
    intro hc
    have hnext := h.1
    rw [next_blank hc] at hnext
    cases hnext

end Lexer

namespace Token

/-- Whether the text of a token is read as that token, also if quotes follow. -/
def Stands (t : Token) : Prop :=
  Lexer.Stands t.kind t.text.toList

/-- Whether a token stands can be decided. -/
instance (t : Token) : Decidable t.Stands :=
  inferInstanceAs (Decidable (Lexer.Stands _ _))

/-- The tokens of a text of which the first character stands at `offset`. -/
def scanFrom (offset : Nat) (cs : List Char) : List Token :=
  (Lexer.lexemes offset 0 cs).filterMap Lexer.token?

/-- A lexeme that is a token comes first. -/
lemma scanFrom_token {kind : TokenKind} {cs rest : List Char} (hne : cs ≠ [])
    (h : Lexer.next (cs ++ rest) = (.token kind, cs.length)) (offset : Nat) :
    scanFrom offset (cs ++ rest) =
      ⟨kind, String.ofList cs, offset⟩ :: scanFrom (offset + cs.length) rest := by
  have hsome : Lexer.token? (.token kind, offset, cs) = some ⟨kind, String.ofList cs, offset⟩ := rfl
  rw [scanFrom, Lexer.lexemes_of_next hne h, List.filterMap_cons_some hsome, ← scanFrom]

/-- A lexeme that is no token is left out. -/
lemma scanFrom_layout {lexeme : Lexeme} {cs rest : List Char} (hne : cs ≠ [])
    (h : Lexer.next (cs ++ rest) = (lexeme, cs.length)) (hlayout : ∀ kind, lexeme ≠ .token kind)
    (offset : Nat) : scanFrom offset (cs ++ rest) = scanFrom (offset + cs.length) rest := by
  have hnone : Lexer.token? (lexeme, offset, cs) = none := by
    cases lexeme with
    | token kind => exact absurd rfl (hlayout kind)
    | _ => rfl
  rw [scanFrom, Lexer.lexemes_of_next hne h, List.filterMap_cons_none hnone, ← scanFrom]

/-- Of a run of blanks any part may be left out by itself. -/
lemma scanFrom_blank {b : Char} (hb : Text.isBlank b = true) (offset : Nat) (cs : List Char) :
    scanFrom offset (b :: cs) = scanFrom (offset + 1) cs := by
  have whole {b : Char} (hb : Text.isBlank b = true) (offset : Nat) (cs : List Char) :
      scanFrom offset (b :: cs) =
        scanFrom (offset + (1 + (cs.takeWhile Text.isBlank).length))
          (cs.dropWhile Text.isBlank) := by
    have hnext := Lexer.next_blank hb cs
    have hsplit : b :: cs = (b :: cs.takeWhile Text.isBlank) ++ cs.dropWhile Text.isBlank := by
      rw [List.cons_append, List.takeWhile_append_dropWhile]
    rw [Nat.add_comm 1, ← List.length_cons (a := b)] at hnext ⊢
    rw [hsplit] at hnext ⊢
    exact scanFrom_layout (List.cons_ne_nil _ _) hnext nofun offset
  rw [whole hb]
  cases cs with
  | nil => rfl
  | cons c cs =>
    by_cases hc : Text.isBlank c = true
    · rw [whole hc, List.takeWhile_cons_of_pos hc, List.dropWhile_cons_of_pos hc, List.length_cons]
      congr 1
      omega
    · rw [List.takeWhile_cons_of_neg hc, List.dropWhile_cons_of_neg hc]
      rfl

/-- A text that stands is read as a token in front of a blank, whatever follows there. -/
lemma scanFrom_stands {t : Token} (h : t.Stands) {b : Char} (hb : Text.isBlank b = true)
    (offset : Nat) (rest : List Char) :
    scanFrom offset (t.text.toList ++ b :: rest) =
      { t with offset } :: scanFrom (offset + t.text.length + 1) rest := by
  obtain ⟨c, r, hc, -⟩ := Lexer.Stands.cons h
  rw [scanFrom_token (by simp [hc]) (Lexer.next_append_blank h hb rest), scanFrom_blank hb,
    String.ofList_toList, String.length_toList]

/-- The text of some tokens, each with a space behind it. -/
def spell (ts : List Token) : List Char :=
  ts.flatMap fun t => t.text.toList ++ [' ']

/-- A source that consists of some tokens. -/
def render (ts : List Token) : List Char :=
  "<?php ".toList ++ spell ts

/-- The text of some tokens is read as these tokens. -/
lemma scanFrom_spell {ts : List Token} (h : ∀ t ∈ ts, t.Stands) (offset : Nat) :
    (scanFrom offset (spell ts)).map unplaced = ts.map unplaced := by
  induction ts generalizing offset with
  | nil => rfl
  | cons t ts ih =>
    obtain ⟨ht, hts⟩ := List.forall_mem_cons.1 h
    have hsplit : spell (t :: ts) = t.text.toList ++ ' ' :: spell ts := by
      rw [spell, List.flatMap_cons, List.append_assoc]
      rfl
    rw [hsplit, scanFrom_stands ht (by decide), List.map_cons, ih hts, List.map_cons]
    rfl

/-- A source that consists of some tokens is read as these tokens. -/
theorem scan_render {ts : List Token} (h : ∀ t ∈ ts, t.Stands) :
    (scan (render ts)).map unplaced = ts.map unplaced := by
  have hnext : Lexer.next ("<?php".toList ++ ' ' :: spell ts) = (.tag, 5) := rfl
  have htag : scan (render ts) = scanFrom 5 (' ' :: spell ts) :=
    scanFrom_layout (List.cons_ne_nil _ _) hnext nofun 0
  rw [htag, scanFrom_blank (by decide)]
  exact scanFrom_spell h 6

end Token

end RouteAudit.Source
