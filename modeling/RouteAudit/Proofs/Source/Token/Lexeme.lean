import RouteAudit.Proofs.Text.Blank
import RouteAudit.Proofs.Text.Character
import RouteAudit.Source.Token.Lexer

/-!
# The class of a lexeme

The classes of lexeme differ in their first characters.  A text in which a heredoc, a string, a
variable, a name or a number starts is therefore read as such, and no other class has to be looked
at.
-/

namespace RouteAudit.Source.Lexer
open Text

/-! ## First characters -/

/-- A comment starts with a slash or a hash. -/
lemma commentLength?_eq_none {c : Char} (hs : c ≠ '/') (hh : c ≠ '#') (cs : List Char) :
    commentLength? (c :: cs) = none := by
  unfold commentLength?
  split <;> simp_all

/-- A tag starts with an angle bracket or a question mark. -/
lemma tagLength?_eq_none {c : Char} (ha : c ≠ '<') (hq : c ≠ '?') (cs : List Char) :
    tagLength? (c :: cs) = none := by
  unfold tagLength?
  split <;> simp_all

/-- A heredoc starts with an angle bracket. -/
lemma heredocLength?_eq_none {c : Char} (ha : c ≠ '<') (cs : List Char) :
    heredocLength? (c :: cs) = none := by
  unfold heredocLength?
  split <;> simp_all

/-- A string starts with a quote. -/
lemma stringLength?_eq_none {c : Char} (hs : c ≠ '\x27') (hd : c ≠ '"') (cs : List Char) :
    stringLength? (c :: cs) = none := by
  simp [stringLength?, hs, hd]

/-- A variable starts with a dollar sign. -/
lemma variableLength?_eq_none {c : Char} (hd : c ≠ '$') (cs : List Char) :
    variableLength? (c :: cs) = none := by
  unfold variableLength?
  split <;> simp_all

/-- A name starts with a backslash or with the start of a segment. -/
lemma nameLength?_eq_none {c : Char} (hb : c ≠ '\\') (hn : isNameStart c = false)
    (cs : List Char) : nameLength? (c :: cs) = none := by
  unfold nameLength?
  split <;> simp_all

/-- A number starts with a digit. -/
lemma numberLength?_eq_none {c : Char} (hd : isDecimal c = false) (cs : List Char) :
    numberLength? (c :: cs) = none := by
  simp [numberLength?, hd]

/-! ## The class of a lexeme -/

/-- A heredoc is the next lexeme. -/
lemma next_heredoc {cs : List Char} {n : Nat} (h : heredocLength? cs = some n) :
    next cs = (.token .heredoc, n) := by
  have shape : ∃ r, cs = '<' :: '<' :: '<' :: r := by
    unfold heredocLength? at h
    split at h
    · exact ⟨_, rfl⟩
    · cases h
  obtain ⟨r, rfl⟩ := shape
  simp [next, classes, h, commentLength?, tagLength?]

/-- A string is the next lexeme. -/
lemma next_string {cs : List Char} {n : Nat} (h : stringLength? cs = some n) :
    next cs = (.token .string, n) := by
  cases cs with
  | nil => cases h
  | cons c r =>
    have hq : c = '\x27' ∨ c = '"' := by
      by_contra hq
      rw [stringLength?, if_neg hq] at h
      cases h
    have hne : c ≠ '/' ∧ c ≠ '#' ∧ c ≠ '<' ∧ c ≠ '?' := by
      rcases hq with rfl | rfl <;> decide
    simp [next, classes, h, commentLength?_eq_none hne.1 hne.2.1,
      tagLength?_eq_none hne.2.2.1 hne.2.2.2, heredocLength?_eq_none hne.2.2.1]

/-- A variable is the next lexeme. -/
lemma next_variable {cs : List Char} {n : Nat} (h : variableLength? cs = some n) :
    next cs = (.token .variable, n) := by
  have shape : ∃ r, cs = '$' :: r := by
    unfold variableLength? at h
    split at h
    · exact ⟨_, rfl⟩
    · cases h
  obtain ⟨r, rfl⟩ := shape
  simp [next, classes, h, commentLength?, tagLength?, heredocLength?, stringLength?]

/-- What is found by looking at each character of a list holds of all of them. -/
lemma forall_mem_of_all {p : Char → Prop} [DecidablePred p] {l : List Char}
    (h : l.all (decide <| p ·) = true) : ∀ c ∈ l, p c := by
  -- there are finitely many characters at all, and a decision must not go through all of them
  simpa using h

/-- The start of a name is none of the characters that other lexemes start with. -/
lemma ne_of_isNameStart {c d : Char} (h : isNameStart c = true) (hd : isNameStart d = false) :
    c ≠ d := by
  rintro rfl
  rw [h] at hd
  exact absurd hd (by decide)

/-- A name is the next lexeme. -/
lemma next_name {cs : List Char} {n : Nat} (h : nameLength? cs = some n) :
    next cs = (.token .name, n) := by
  cases cs with
  | nil => cases h
  | cons c r =>
    have hc : c = '\\' ∨ isNameStart c = true := by
      by_contra hc
      rw [not_or, Bool.not_eq_true] at hc
      rw [nameLength?_eq_none hc.1 hc.2] at h
      cases h
    have hne : ∀ d ∈ ['/', '#', '<', '?', '\x27', '"', '$'], c ≠ d := by
      rcases hc with rfl | hc
      · exact forall_mem_of_all (by decide)
      · have others := forall_mem_of_all (p := (isNameStart · = false))
          (l := ['/', '#', '<', '?', '\x27', '"', '$']) (by decide)
        exact fun d hd => ne_of_isNameStart hc (others d hd)
    simp only [List.mem_cons, List.not_mem_nil, or_false, forall_eq_or_imp, forall_eq] at hne
    obtain ⟨h₁, h₂, h₃, h₄, h₅, h₆, h₇⟩ := hne
    simp [next, classes, h, commentLength?_eq_none h₁ h₂, tagLength?_eq_none h₃ h₄,
      heredocLength?_eq_none h₃, stringLength?_eq_none h₅ h₆, variableLength?_eq_none h₇]

/-- A digit is no character that is no digit. -/
lemma ne_of_isDecimal {c d : Char} (h : isDecimal c = true) (hd : isDecimal d = false) :
    c ≠ d := by
  rintro rfl
  rw [h] at hd
  exact absurd hd (by decide)

/-- A digit starts no name. -/
lemma isNameStart_of_isDecimal {c : Char} (h : isDecimal c = true) : isNameStart c = false := by
  by_contra hn
  rw [Bool.not_eq_false] at hn
  -- a letter or an underscore is one of few characters, and none of them is a digit
  have notStart : isNameStart c = false :=
    of_ascii (p := fun c => isDecimal c = true → isNameStart c = false) (by decide +kernel)
      (lt_of_isNameStart hn) h
  rw [notStart] at hn
  cases hn

/-- A number is the next lexeme. -/
lemma next_number {cs : List Char} {n : Nat} (h : numberLength? cs = some n) :
    next cs = (.token .number, n) := by
  cases cs with
  | nil => cases h
  | cons c r =>
    have hc : isDecimal c = true := by
      by_contra hc
      rw [numberLength?, if_neg hc] at h
      cases h
    have hne : ∀ d ∈ ['/', '#', '<', '?', '\x27', '"', '$', '\\'], c ≠ d := by
      have others := forall_mem_of_all (p := (isDecimal · = false))
        (l := ['/', '#', '<', '?', '\x27', '"', '$', '\\']) (by decide +kernel)
      exact fun d hd => ne_of_isDecimal hc (others d hd)
    simp only [List.mem_cons, List.not_mem_nil, or_false, forall_eq_or_imp, forall_eq] at hne
    obtain ⟨h₁, h₂, h₃, h₄, h₅, h₆, h₇, h₈⟩ := hne
    simp [next, classes, h, commentLength?_eq_none h₁ h₂, tagLength?_eq_none h₃ h₄,
      heredocLength?_eq_none h₃, stringLength?_eq_none h₅ h₆, variableLength?_eq_none h₇,
      nameLength?_eq_none h₈ (isNameStart_of_isDecimal hc)]

/-- A lexeme is of the class whose reader found it, or a character that no reader knows. -/
lemma reader_of_next {lexeme : Lexeme} {cs : List Char} {n : Nat} (h : next cs = (lexeme, n)) :
    (∃ length?, (lexeme, length?) ∈ classes ∧ length? cs = some n) ∨
      lexeme = .token .other ∧ n = 1 ∧ ∀ c ∈ classes, c.2 cs = none := by
  have hnext : next cs =
      (classes.findSome? fun c => (c.2 cs).map (c.1, ·)).getD (.token .other, 1) := rfl
  rw [hnext] at h
  cases hfind : classes.findSome? fun c => (c.2 cs).map (c.1, ·) with
  | some found =>
    rw [hfind, Option.getD_some] at h
    obtain ⟨⟨lexeme', length?⟩, hmem, hmap⟩ := List.exists_of_findSome?_eq_some hfind
    obtain ⟨m, hm, rfl⟩ := Option.map_eq_some_iff.1 hmap
    cases h
    exact .inl ⟨length?, hmem, hm⟩
  | none =>
    rw [hfind, Option.getD_none] at h
    cases h
    refine .inr ⟨rfl, rfl, fun c hc => ?_⟩
    exact Option.map_eq_none_iff.1 (List.findSome?_eq_none_iff.1 hfind c hc)

/-- What a text is that is read as one token of a kind. -/
lemma class_of_next {kind : TokenKind} {cs : List Char} {n : Nat}
    (h : next cs = (.token kind, n)) :
    (kind = .heredoc ∧ heredocLength? cs = some n) ∨
    (kind = .string ∧ stringLength? cs = some n) ∨
    (kind = .variable ∧ variableLength? cs = some n) ∨
    (kind = .name ∧ nameLength? cs = some n) ∨
    (kind = .number ∧ numberLength? cs = some n) ∨
    (kind = .op ∧ opLength? cs = some n) ∨
    (kind = .other ∧ n = 1 ∧ ∀ c ∈ classes, c.2 cs = none) := by
  rcases reader_of_next h with ⟨length?, hmem, hlength⟩ | ⟨hkind, hother⟩
  · simp only [classes, List.mem_cons, Prod.mk.injEq, reduceCtorEq, false_and, false_or,
      Lexeme.token.injEq, List.not_mem_nil, or_false] at hmem
    rcases hmem with ⟨rfl, rfl⟩ | ⟨rfl, rfl⟩ | ⟨rfl, rfl⟩ | ⟨rfl, rfl⟩ | ⟨rfl, rfl⟩ | ⟨rfl, rfl⟩ <;>
      simp [hlength]
  · cases hkind
    simpa using hother

/-- What a text is that is read as layout. -/
lemma layout_of_next {lexeme : Lexeme} {cs : List Char} {n : Nat} (h : next cs = (lexeme, n))
    (hlayout : ∀ kind, lexeme ≠ .token kind) :
    (lexeme = .comment ∧ commentLength? cs = some n) ∨ (lexeme = .tag ∧ tagLength? cs = some n) ∨
      (lexeme = .blank ∧ blankLength? cs = some n) := by
  rcases reader_of_next h with ⟨length?, hmem, hlength⟩ | ⟨hkind, -⟩
  · simp only [classes, List.mem_cons, Prod.mk.injEq, List.not_mem_nil, or_false, hlayout,
      false_and, false_or] at hmem
    rcases hmem with ⟨rfl, rfl⟩ | ⟨rfl, rfl⟩ | ⟨rfl, rfl⟩ <;> simp [hlength]
  · exact absurd hkind (hlayout _)

end RouteAudit.Source.Lexer
