import Mathlib.Algebra.Group.Nat.Even
import Mathlib.Data.List.DropRight
import RouteAudit.Proofs.Source.Execution.Literal

/-!
# Double-quoted strings in one pass

Whether a text between double quotes interpolates a variable and what its escapes stand for are
found in two passes, the first of which counts backslashes only.  One pass from the left, in which
an escape takes the characters that belong to it, gives the same (`stringValue?_readOnce`).
-/

namespace RouteAudit.Source

namespace Literal
open Execution Text

/-- The escapes of one character and what they stand for. -/
def table : List (Char × Char) :=
  ('0', '\x00') :: escapes

/-- The text between double quotes, read once from the left.  It has no value if a dollar sign that
no escape takes starts an interpolation. -/
def readOnce : List Char → Option (List Char)
  | [] => some []
  | ['\\', 'x', a] =>
    match hexValue? a with
    | some m => some [Char.ofNat m]
    | none => (readOnce ['x', a]).map ('\\' :: ·)
  | '\\' :: 'x' :: a :: b :: cs =>
    match hexValue? a, hexValue? b with
    | some m, some n => (readOnce cs).map (Char.ofNat (m * 16 + n) :: ·)
    | some m, none => (readOnce (b :: cs)).map (Char.ofNat m :: ·)
    | none, _ => (readOnce ('x' :: a :: b :: cs)).map ('\\' :: ·)
  | '\\' :: c :: cs =>
    match table.lookup c with
    | some d => (readOnce cs).map (d :: ·)
    | none => (readOnce (c :: cs)).map ('\\' :: ·)
  | c :: cs =>
    if c = '$' ∧ cs.head?.any startsInterpolation then none
    else (readOnce cs).map (c :: ·)

/-- The text between double quotes, read in two passes. -/
def readTwice (cs : List Char) : Option (List Char) :=
  if interpolates false cs then none else some (decodeDouble cs)

/-! ## The first escape in two passes -/

/-- The simple escapes are those of the table. -/
lemma escaped?_eq_lookup (c : Char) : escaped? c = table.lookup c := by
  by_cases hc : c ∈ table.map (·.1)
  · revert c
    exact Lexer.forall_mem_of_all (p := fun c => escaped? c = table.lookup c) (by decide)
  · simp only [table, escapes, List.map_cons, List.map_nil, List.mem_cons, List.not_mem_nil,
      or_false, not_or] at hc
    simp [escaped?, table, escapes, List.lookup_cons, hc, beq_eq_false_iff_ne.2]

/-- A step that both passes take is one step. -/
lemma readTwice_step {cs rest : List Char} {d : Char}
    (hpart : interpolates false cs = interpolates false rest)
    (hdecode : decodeDouble cs = d :: decodeDouble rest) :
    readTwice cs = (readTwice rest).map (d :: ·) := by
  rw [readTwice, readTwice, hpart, hdecode]
  split_ifs
  · rfl
  · rfl

/-- A simple escape is read in one step. -/
lemma readTwice_escape {c d : Char} {cs : List Char} (h : table.lookup c = some d) :
    readTwice ('\\' :: c :: cs) = (readTwice cs).map (d :: ·) := by
  have hescape : escape? (c :: cs) = some (d, 1) := by
    rw [escape?, escaped?_eq_lookup, h]
  exact readTwice_step (interpolates_escaped c cs) (decodeDouble_escape hescape)

/-- A digit starts nothing. -/
lemma interpolates_digit {a : Char} {m : Nat} (h : hexValue? a = some m) (cs : List Char) :
    interpolates false (a :: cs) = interpolates false cs := by
  refine interpolates_cons ?_ ?_ false cs
  · rintro rfl
    cases h
  · rintro rfl
    cases h

/-- An escape of one digit is read in one step. -/
lemma readTwice_oneDigit {a : Char} {m : Nat} {cs : List Char} (ha : hexValue? a = some m)
    (hcs : ∀ b ∈ cs.head?, hexValue? b = none) :
    readTwice ('\\' :: 'x' :: a :: cs) = (readTwice cs).map (Char.ofNat m :: ·) := by
  have hdigits : leadingHex (a :: cs) = [m] := by
    cases cs with
    | nil => simp [leadingHex, ha]
    | cons b cs => simp [leadingHex, ha, hcs b rfl]
  have hescape : escape? ('x' :: a :: cs) = some (Char.ofNat m, 2) := by
    simp [escape?, escaped?, hdigits]
  refine readTwice_step ?_ (decodeDouble_escape hescape)
  rw [interpolates_escaped, interpolates_digit ha]

/-- An escape of two digits is read in one step. -/
lemma readTwice_twoDigits {a b : Char} {m n : Nat} {cs : List Char} (ha : hexValue? a = some m)
    (hb : hexValue? b = some n) :
    readTwice ('\\' :: 'x' :: a :: b :: cs) =
      (readTwice cs).map (Char.ofNat (m * 16 + n) :: ·) := by
  have hdigits : leadingHex (a :: b :: cs) = [m, n] := by simp [leadingHex, ha, hb]
  have hescape : escape? ('x' :: a :: b :: cs) = some (Char.ofNat (m * 16 + n), 3) := by
    simp [escape?, escaped?, hdigits]
  refine readTwice_step ?_ (decodeDouble_escape hescape)
  rw [interpolates_escaped, interpolates_digit ha, interpolates_digit hb]

/-- A backslash that starts no escape is kept. -/
lemma readTwice_kept {c : Char} {cs : List Char} (hc : table.lookup c = none)
    (hx : c = 'x' → ∀ a ∈ cs.head?, hexValue? a = none) :
    readTwice ('\\' :: c :: cs) = (readTwice (c :: cs)).map ('\\' :: ·) := by
  have hb : c ≠ '\\' := by
    rintro rfl
    cases hc
  have hd : c ≠ '$' := by
    rintro rfl
    cases hc
  have hnone : escape? (c :: cs) = none := by
    rw [escape?, escaped?_eq_lookup, hc]
    refine if_neg ?_
    rintro ⟨rfl, hdigits⟩
    cases cs with
    | nil => exact hdigits rfl
    | cons a cs => exact hdigits (by simp [leadingHex, hx rfl a rfl])
  refine readTwice_step ?_ (decodeDouble_plain fun _ => hnone)
  rw [interpolates_escaped, interpolates_cons hb hd]

/-- A dollar sign interpolates what may follow it. -/
lemma interpolates_dollar (cs : List Char) :
    interpolates false ('$' :: cs) =
      (cs.head?.any startsInterpolation || interpolates false cs) := by
  rw [interpolates, Bool.not_false, Bool.true_and]

/-- Any other character is read in one step. -/
lemma readTwice_plain {c : Char} {cs : List Char} (hb : c = '\\' → cs = [])
    (hd : ¬ (c = '$' ∧ cs.head?.any startsInterpolation)) :
    readTwice (c :: cs) = (readTwice cs).map (c :: ·) := by
  refine readTwice_step ?_ (decodeDouble_plain fun hc => by rw [hb hc, escape?])
  by_cases hc : c = '\\'
  · rw [hc, hb hc]
    rfl
  · by_cases hdollar : c = '$'
    · have hcs : cs.head?.any startsInterpolation = false := by simpa [hdollar] using hd
      rw [hdollar, interpolates_dollar, hcs, Bool.false_or]
    · exact interpolates_cons hc hdollar false cs

/-- Both passes together give what one pass gives. -/
lemma readOnce_eq_readTwice (cs : List Char) : readOnce cs = readTwice cs := by
  fun_induction readOnce cs with
  | case1 => rfl
  | case2 a m ha =>
    rw [readTwice_oneDigit ha (by rintro _ ⟨⟩)]
    rfl
  | case3 a ha ih => rw [ih, readTwice_kept rfl (by rintro - _ ⟨⟩; exact ha)]
  | case4 a b cs m n hb ha ih => rw [ih, readTwice_twoDigits ha hb]
  | case5 a b cs m hb ha ih => rw [ih, readTwice_oneDigit ha (by rintro _ ⟨⟩; exact hb)]
  | case6 a b cs ha ih => rw [ih, readTwice_kept rfl (by rintro - _ ⟨⟩; exact ha)]
  | case7 c cs _ _ d hc ih => rw [ih, readTwice_escape hc]
  | case8 c cs hone htwo hc ih =>
    have hcs : c = 'x' → cs = [] := by
      rintro rfl
      match cs with
      | [] => rfl
      | [a] => exact (hone a rfl rfl).elim
      | a :: b :: cs => exact (htwo a b cs rfl rfl).elim
    rw [ih, readTwice_kept hc fun hx => by rw [hcs hx]; exact nofun]
  | case9 c cs _ _ _ h =>
    obtain ⟨rfl, hstart⟩ := h
    rw [readTwice, interpolates_dollar, hstart, Bool.true_or, if_pos rfl]
  | case10 c cs _ _ hpair h ih =>
    have hb : c = '\\' → cs = [] := by
      intro hc
      cases cs with
      | nil => rfl
      | cons d cs => exact (hpair d cs hc rfl).elim
    rw [ih, readTwice_plain hb h]

/-! ## The backslashes before a dollar sign -/

/-- The number of backslashes that a text ends in. -/
def backslashes (cs : List Char) : Nat :=
  (cs.rtakeWhile (· == '\\')).length

/-- The backslashes at the end are counted from the last character on. -/
lemma backslashes_concat (cs : List Char) (c : Char) :
    backslashes (cs ++ [c]) = if c = '\\' then backslashes cs + 1 else 0 := by
  split_ifs with hc
  · rw [backslashes, List.rtakeWhile_concat_pos _ _ _ (by simpa using hc), List.length_append]
    rfl
  · rw [backslashes, List.rtakeWhile_concat_neg _ _ _ (by simpa using hc)]
    rfl

/-- A dollar sign in a text interpolates what follows it, where `seen` stands before the text. -/
def InterpolatesIn (seen cs : List Char) : Prop :=
  ∃ before c behind, cs = before ++ '$' :: c :: behind ∧ startsInterpolation c = true ∧
    Even (backslashes (seen ++ before))

/-- An interpolation starts at the first character or behind it. -/
lemma interpolatesIn_cons {seen cs : List Char} {c : Char} :
    InterpolatesIn seen (c :: cs) ↔
      (c = '$' ∧ cs.head?.any startsInterpolation = true ∧ Even (backslashes seen)) ∨
      InterpolatesIn (seen ++ [c]) cs := by
  constructor
  · rintro ⟨before, d, behind, hcs, hd, heven⟩
    cases before with
    | nil =>
      obtain ⟨rfl, rfl⟩ := List.cons.inj hcs
      rw [List.append_nil] at heven
      exact .inl ⟨rfl, hd, heven⟩
    | cons b before =>
      obtain ⟨rfl, rfl⟩ := List.cons.inj hcs
      exact .inr ⟨before, d, behind, rfl, hd, by rwa [List.append_assoc]⟩
  · rintro (⟨rfl, hstart, heven⟩ | ⟨before, d, behind, rfl, hd, heven⟩)
    · cases cs with
      | nil => cases hstart
      | cons d behind => exact ⟨[], d, behind, rfl, hstart, by rwa [List.append_nil]⟩
    · exact ⟨c :: before, d, behind, rfl, hd, by rwa [List.append_assoc] at heven⟩

/-- A dollar sign is escaped by an odd number of backslashes. -/
lemma interpolates_iff (seen cs : List Char) :
    interpolates (!decide (Even (backslashes seen))) cs = true ↔ InterpolatesIn seen cs := by
  induction cs generalizing seen with
  | nil =>
    refine ⟨nofun, ?_⟩
    rintro ⟨before, c, behind, hcs, -⟩
    cases before <;> cases hcs
  | cons c cs ih =>
    rw [interpolatesIn_cons, ← ih, backslashes_concat]
    by_cases hb : c = '\\'
    · have hflip : decide (Even (backslashes seen + 1)) = !decide (Even (backslashes seen)) := by
        simp only [Nat.even_add_one, decide_not]
      have hne : c ≠ '$' := by
        rintro rfl
        cases hb
      rw [if_pos hb, hflip, or_iff_right (fun h => hne h.1), hb, interpolates]
    · have heven : decide (Even 0) = true := by decide
      rw [if_neg hb, heven, Bool.not_true]
      by_cases hd : c = '$'
      · rw [hd, interpolates]
        simp [and_comm]
      · rw [interpolates_cons hb hd, or_iff_right (fun h => hd h.1)]

/-- What starts an interpolation behind its dollar sign. -/
lemma startsInterpolation_iff {c : Char} :
    startsInterpolation c = true ↔ c.isAlpha = true ∨ c = '_' ∨ c = '\x7b' := by
  simp [startsInterpolation, or_assoc]

/-- A text between double quotes has no value if and only if an even number of backslashes stands
before a dollar sign that has what may be interpolated behind it. -/
lemma readOnce_eq_none_iff (cs : List Char) :
    readOnce cs = none ↔
      ∃ before c behind, cs = before ++ '$' :: c :: behind ∧
        (c.isAlpha = true ∨ c = '_' ∨ c = '\x7b') ∧ Even (backslashes before) := by
  have hpart : interpolates false cs = true ↔ InterpolatesIn [] cs := interpolates_iff [] cs
  have hnone : readTwice cs = none ↔ interpolates false cs = true := by
    rw [readTwice]
    split_ifs with h <;> simp [h]
  simp only [readOnce_eq_readTwice, hnone, hpart, InterpolatesIn, List.nil_append,
    startsInterpolation_iff]

end Literal

namespace Token
open Literal

/-- The value of a double-quoted string is what one pass from the left gives, and there is none if
and only if a dollar sign that no backslash escapes interpolates what follows it. -/
theorem stringValue?_readOnce {t : Token} (hkind : t.kind = .string)
    (hquote : t.text.toList.head? = some '"') :
    let body := t.text.toList.tail.dropLast
    t.stringValue? = (readOnce body).map String.ofList ∧
      (t.stringValue? = none ↔
        ∃ before c behind, body = before ++ '$' :: c :: behind ∧
          (c.isAlpha = true ∨ c = '_' ∨ c = '\x7b') ∧ Even (backslashes before)) := by
  intro body
  have hvalue : t.stringValue? = (readOnce body).map String.ofList := by
    have htext : t.text.toList = '"' :: t.text.toList.tail := List.eq_cons_of_mem_head? hquote
    rw [stringValue?, if_pos hkind, htext, decode?, if_neg (by decide), readOnce_eq_readTwice]
    rfl
  refine ⟨hvalue, ?_⟩
  rw [hvalue, Option.map_eq_none_iff, readOnce_eq_none_iff]

/-- Escapes of one character, of two digits and of one, and backslashes that escape nothing. -/
theorem stringValue?_readOnce_escapes :
    let t : Token := ⟨.string, "\"\\\\\\$a \\x4aB \\x7g \\xg \\q$1\"", 3⟩
    t.kind = .string ∧ t.text.toList.head? = some '"' ∧
      t.stringValue? = some "\\$a JB \x07g \\xg \\q$1" ∧
      ¬ ∃ before c behind, t.text.toList.tail.dropLast = before ++ '$' :: c :: behind ∧
        (c.isAlpha = true ∨ c = '_' ∨ c = '\x7b') ∧ Even (backslashes before) := by
  intro t
  have hquote : t.text.toList.head? = some '"' := by decide +kernel
  obtain ⟨hvalue, hnone⟩ := stringValue?_readOnce (t := t) rfl hquote
  have hread : readOnce t.text.toList.tail.dropLast =
      some "\\$a JB \x07g \\xg \\q$1".toList := by decide +kernel
  rw [hread, Option.map_some, String.ofList_toList] at hvalue
  refine ⟨rfl, hquote, hvalue, ?_⟩
  rw [← hnone, hvalue]
  exact Option.some_ne_none _

-- two backslashes are one in the text, and the dollar sign is free
example : stringValue? ⟨.string, "\"\\\\$a\"", 0⟩ = none := by
  decide +kernel

end Token

end RouteAudit.Source
