import Mathlib
import RouteAudit.Text.Letter
import RouteAudit.Text.Lowercase
import RouteAudit.Proofs.Text.Character
import RouteAudit.Proofs.Text.Span

/-!
# Capital letters and lower case

What a letter is lowered to is not lowered again, and it is no capital letter
(`lowerChar_self_or_low`).  The tables say so span by span: a span of letters, moved to the lower
case of the letters, misses every span of letters that are lowered and every span of capital
letters.  Only a capital letter that has no lower case is still there in a lowered text.
-/

namespace RouteAudit.Text

/-- The span with all code points moved by a distance. -/
def Span.move (s : Span) (shift : Int) : Span :=
  ⟨(s.first + shift).toNat, (s.last + shift).toNat, s.step⟩

/-- A number of a span is moved with the span. -/
lemma Span.has_move {s : Span} {shift : Int} (low : 0 ≤ s.first + shift) {n : Nat}
    (h : s.has n = true) : (s.move shift).has (n + shift).toNat = true := by
  obtain ⟨first, last, rest⟩ := has_iff.1 h
  have same : (n + shift).toNat - (s.first + shift).toNat = n - s.first := by omega
  rw [has_iff, move]
  exact ⟨by dsimp only; omega, by dsimp only; omega, by rw [same, rest]⟩

/-! ## The lower case of a letter -/

/-- A character that a letter may be lowered to: it is not lowered again, and neither a capital
letter nor a hyphen. -/
def IsLow (d : Char) : Prop :=
  lowerChar d = [d] ∧ isCapital d = false ∧ d ≠ '-'

/-- Whether a character is low can be decided. -/
instance (d : Char) : Decidable (IsLow d) :=
  inferInstanceAs (Decidable (_ ∧ _ ∧ _))

/-- The dotted capital i and the capital sigma are lowered by rules of their own. -/
lemma lowerChar_special :
    isCapital 'İ' = true ∧ lowerChar 'İ' = ['i', '\u0307'] ∧ lowerChar 'Σ' ≠ ['Σ'] := by
  decide +kernel

/-- What these two and the Kelvin sign are lowered to is low, and so is the null character. -/
lemma isLow_special :
    IsLow 'i' ∧ IsLow '\u0307' ∧ IsLow 'σ' ∧ IsLow 'ς' ∧ IsLow 'k' ∧ IsLow '\x00' := by
  refine ⟨?_, ?_, ?_, ?_, ?_, ?_⟩ <;> decide +kernel

/-- The small form of a great ASCII letter is low. -/
lemma isLow_toLower {c : Char} (ascii : c.toNat < 0x80) (other : c.toLower ≠ c) :
    IsLow c.toLower :=
  of_ascii (p := fun c => c.toLower ≠ c → IsLow c.toLower) (by decide +kernel) ascii other

/-- A capital letter without lower case. -/
def isSteady (c : Char) : Bool :=
  isCapital c && lowerChar c == [c]

/-- A steady character is its own small form. -/
lemma lowerChar_of_isSteady {c : Char} (h : isSteady c = true) : lowerChar c = [c] := by
  rw [isSteady, Bool.and_eq_true, beq_iff_eq] at h
  exact h.2

/-- A steady character is a capital. -/
lemma isCapital_of_isSteady {c : Char} (h : isSteady c = true) : isCapital c = true := by
  rw [isSteady, Bool.and_eq_true] at h
  exact h.1

/-- A character that is its own small form is no sigma. -/
lemma ne_sigma {c : Char} (h : lowerChar c = [c]) : c ≠ 'Σ' := by
  rintro rfl
  exact lowerChar_special.2.2 h

/-- No letter of the tables but the Kelvin sign is lowered to an ASCII letter. -/
lemma beyond_ascii : ∀ entry ∈ lowercaseShifts, (0x80 : Int) ≤ entry.1.first + entry.2 ∨
    entry = (⟨0x212A, 0x212A, 1⟩, -8383) := by
  decide +kernel

/-- The letters that the letters of the tables are lowered to. -/
def loweredSpans : List Span :=
  lowercaseShifts.map fun entry => entry.1.move entry.2

/-- No small form is lowered again. -/
lemma loweredSpans_miss_lowered :
    Span.missTable 22 loweredSpans (lowercaseShifts.map (·.1)) = true := by
  decide +kernel

/-- No small form is a capital. -/
lemma loweredSpans_miss_capitals : Span.missTable 20 loweredSpans capitalSpans = true := by
  decide +kernel

/-- A character without a shift is its own small form. -/
lemma lowerChar_of_find {c : Char} (ascii : ¬ c.toNat < 0x80) (dotted : c ≠ 'İ')
    (none : lowercaseShifts.find? (·.1.has c.toNat) = none) : lowerChar c = [c] := by
  rw [lowerChar, if_neg ascii, if_neg dotted, none]

/-- A letter of the tables is lowered to a character beyond ASCII or to the letter k. -/
lemma isLow_shift {n : Nat} {entry : Span × Int} (hmem : entry ∈ lowercaseShifts)
    (hn : entry.1.has n = true) : IsLow (Char.ofNat (n + entry.2).toNat) := by
  rcases beyond_ascii entry hmem with far | rfl
  · have low : (0 : Int) ≤ entry.1.first + entry.2 := by omega
    have moved := Span.has_move low hn
    have hspan : entry.1.move entry.2 ∈ loweredSpans := List.mem_map_of_mem hmem
    have first := (Span.has_iff.1 hn).1
    generalize hm : (n + entry.2).toNat = m at moved
    have ascii : ¬ m < 0x80 := by omega
    -- a number that is no code point stands for the null character
    by_cases valid : m.isValidChar
    · have value : (Char.ofNat m).toNat = m := by rw [Char.toNat_ofNat, if_pos valid]
      have notCapital : isCapital (Char.ofNat m) = false := by
        rw [isCapital, value, if_neg ascii, Span.anyHas, value]
        exact Span.any_has_eq_false loweredSpans_miss_capitals hspan moved
      refine ⟨lowerChar_of_find (by rwa [value]) ?_ ?_, notCapital, ?_⟩
      · intro dotted
        rw [dotted, lowerChar_special.1] at notCapital
        cases notCapital
      · have notLowered := Span.any_has_eq_false loweredSpans_miss_lowered hspan moved
        rw [List.any_map] at notLowered
        rw [value]
        exact List.find?_eq_none.2 (List.any_eq_false.1 notLowered)
      · intro hyphen
        rw [hyphen] at value
        have : '-'.toNat = 45 := rfl
        omega
    · have null : Char.ofNat m = Char.ofNat 0 := by rw [Char.ofNat, dif_neg valid]; rfl
      obtain ⟨-, -, -, -, -, low⟩ := isLow_special
      exact null ▸ low
  · obtain ⟨low, high, -⟩ := Span.has_iff.1 hn
    obtain rfl : n = 0x212A := Nat.le_antisymm high low
    obtain ⟨-, -, -, -, low, -⟩ := isLow_special
    exact low

/-- A character is its own lower case, or it is lowered to low characters. -/
lemma lowerChar_self_or_low (c : Char) : lowerChar c = [c] ∨ ∀ d ∈ lowerChar c, IsLow d := by
  by_cases ascii : c.toNat < 0x80
  · rw [lowerChar, if_pos ascii, List.singleton_inj, List.forall_mem_singleton]
    by_cases same : c.toLower = c
    · exact .inl same
    · exact .inr (isLow_toLower ascii same)
  · by_cases dotted : c = 'İ'
    · subst dotted
      obtain ⟨first, second, -⟩ := isLow_special
      rw [lowerChar_special.2.1, List.forall_mem_cons, List.forall_mem_singleton]
      exact .inr ⟨first, second⟩
    · cases found : lowercaseShifts.find? (·.1.has c.toNat) with
      | none => exact .inl (lowerChar_of_find ascii dotted found)
      | some entry =>
        have hasIt := List.find?_some found
        rw [lowerChar, if_neg ascii, if_neg dotted, found]
        dsimp only
        rw [List.forall_mem_singleton]
        exact .inr (isLow_shift (List.mem_of_find?_eq_some found) hasIt)

/-- A small form has a character. -/
lemma lowerChar_ne_nil (c : Char) : lowerChar c ≠ [] := by
  rw [lowerChar]
  split
  · exact List.cons_ne_nil _ _
  · split
    · exact List.cons_ne_nil _ _
    · split <;> exact List.cons_ne_nil _ _

/-! ## The lower case of a text -/

/-- What a character becomes in the lower case of a text: a letter without lower case stays, and of
all others no capital letter comes.  What follows is lowered apart from it. -/
lemma lowerFrom_cons (afterCased : Bool) (c : Char) (cs : List Char) :
    ∃ image afterCased', lowerFrom afterCased (c :: cs) = image ++ lowerFrom afterCased' cs ∧
      image ≠ [] ∧ (∀ d ∈ image, lowerChar d = [d]) ∧ (isSteady c = true → image = [c]) ∧
      (isSteady c = false → ∀ d ∈ image, isCapital d = false) ∧
      (c ≠ '-' → ∀ d ∈ image, d ≠ '-') := by
  have of_low {image : List Char} (low : ∀ d ∈ image, IsLow d) :
      (∀ d ∈ image, lowerChar d = [d]) ∧ (isSteady c = false → ∀ d ∈ image, isCapital d = false) ∧
        (c ≠ '-' → ∀ d ∈ image, d ≠ '-') :=
    ⟨fun d hd => (low d hd).1, fun _ d hd => (low d hd).2.1, fun _ d hd => (low d hd).2.2⟩
  rw [lowerFrom]
  refine ⟨_, _, rfl, ?_⟩
  split
  · next sigma =>
    subst sigma
    refine ⟨List.cons_ne_nil _ _, ?_⟩
    have low : ∀ d ∈ [if (afterCased && !startsCased cs) = true then 'ς' else 'σ'], IsLow d := by
      obtain ⟨-, -, inner, final, -⟩ := isLow_special
      rw [List.forall_mem_singleton]
      split
      · exact final
      · exact inner
    obtain ⟨fixed, notCapital, notHyphen⟩ := of_low low
    exact ⟨fixed, fun steady => absurd rfl (ne_sigma (lowerChar_of_isSteady steady)), notCapital,
      notHyphen⟩
  · refine ⟨lowerChar_ne_nil c, ?_⟩
    rcases lowerChar_self_or_low c with same | low
    · rw [same, List.forall_mem_singleton, List.forall_mem_singleton, List.forall_mem_singleton]
      refine ⟨same, fun _ => rfl, fun steady => ?_, id⟩
      rwa [isSteady, same, beq_self_eq_true, Bool.and_true] at steady
    · obtain ⟨fixed, notCapital, notHyphen⟩ := of_low low
      exact ⟨fixed, lowerChar_of_isSteady, notCapital, notHyphen⟩

/-- A lowered text is not lowered again. -/
lemma lowerChar_of_mem_lowerFrom {afterCased : Bool} {cs : List Char} {d : Char}
    (h : d ∈ lowerFrom afterCased cs) : lowerChar d = [d] := by
  induction cs generalizing afterCased with
  | nil => cases h
  | cons c cs ih =>
    obtain ⟨image, _, whole, -, fixed, -⟩ := lowerFrom_cons afterCased c cs
    rw [whole, List.mem_append] at h
    exact h.elim (fixed d) ih

/-- Characters that are their own small forms stay as they are. -/
lemma lowerFrom_eq_self {cs : List Char} (h : ∀ c ∈ cs, lowerChar c = [c]) (afterCased : Bool) :
    lowerFrom afterCased cs = cs := by
  induction cs generalizing afterCased with
  | nil => rfl
  | cons c cs ih =>
    obtain ⟨hc, hcs⟩ := List.forall_mem_cons.1 h
    rw [lowerFrom, if_neg (ne_sigma hc), hc, ih hcs, List.singleton_append]

end RouteAudit.Text
