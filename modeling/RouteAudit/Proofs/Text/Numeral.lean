import RouteAudit.Proofs.Text.Decimal
import RouteAudit.Text.Word

/-!
# Integer literals

An integer literal is written in base ten, with the mark of another base, or with a leading zero as
an octal number; single underscores may stand between its digits.  It is read as the integer that
it stands for (`read?_write`), unless it is written with a leading zero and is not zero: then its
digits are taken for those of a floating-point number in base ten (`read?_write_misread`).  The same
is done with a number in base ten that has too many digits (`read?_eq_reading`).
-/

namespace RouteAudit.Text.Numeral

/-- A digit, written with a small or a capital letter. -/
structure Digit (base : Nat) where
  value : Fin base
  capital : Bool := false

/-- One or more digits, between which there may be single underscores. -/
structure Digits (base : Nat) where
  first : Digit base
  /-- The digits behind the first, each with whether an underscore stands before it. -/
  rest : List (Bool × Digit base) := []

/-- The bases that are marked by a letter. -/
inductive Mark where
  | hexadecimal
  | octal
  | binary

namespace Mark

/-- The base that a mark stands for. -/
def base : Mark → Nat
  | hexadecimal => 16
  | octal => 8
  | binary => 2

/-- The small letter of a mark. -/
def letter : Mark → Char
  | hexadecimal => 'x'
  | octal => 'o'
  | binary => 'b'

end Mark

/-- An integer literal. -/
inductive IntegerLiteral where
  | decimal (digits : Digits 10) (noZero : digits.first.value = 0 → digits.rest = [])
  | marked (mark : Mark) (capital : Bool) (digits : Digits mark.base)
  | leadingZero (digits : Digits 8) (zero : digits.first.value = 0) (more : digits.rest ≠ [])

namespace Digit

/-- A digit in base sixteen, as a small letter where it is one. -/
def hexadecimal (n : Nat) : Digit 16 :=
  { value := Fin.ofNat 16 n }

variable {base : Nat}

/-- A digit in small or in capital letters. -/
def charOf (capital : Bool) (n : Nat) : Char :=
  if capital then (hexDigit n).toUpper else hexDigit n

/-- The character that a digit is written as. -/
def char (d : Digit base) : Char :=
  charOf d.capital d.value

/-- What holds of each of the sixteen digits in either letter case holds of every digit. -/
lemma forall_char {p : Nat → Char → Prop} (all : ∀ n < 16, ∀ capital, p n (charOf capital n))
    (small : base ≤ 16) (d : Digit base) : p d.value d.char :=
  all d.value (Nat.lt_of_lt_of_le d.value.isLt small) d.capital

/-- The character of a digit has its value. -/
lemma hexValue?_char (small : base ≤ 16) (d : Digit base) :
    hexValue? d.char = some d.value.val :=
  d.forall_char (p := fun n c => hexValue? c = some n) (by decide) small

/-- The character of a digit is ASCII and no underscore. -/
lemma ascii_char (small : base ≤ 16) (d : Digit base) : d.char.toNat < 0x80 ∧ d.char ≠ '_' :=
  d.forall_char (p := fun _ c => c.toNat < 0x80 ∧ c ≠ '_') (by decide) small

/-- The character of a decimal digit is one. -/
lemma isDigit_char (small : base ≤ 10) (d : Digit base) : d.char.isDigit = true := by
  have all : ∀ n < 16, ∀ capital, n < 10 → (charOf capital n).isDigit = true := by decide
  exact d.forall_char (p := fun n c => n < 10 → c.isDigit = true) all (by omega) (by omega)

end Digit

namespace Digits

variable {base : Nat}

/-- The digits without the underscores. -/
def all (ds : Digits base) : List (Digit base) :=
  ds.first :: ds.rest.map (·.2)

/-- The values of the digits. -/
def values (ds : Digits base) : List Nat :=
  ds.all.map fun d => d.value.val

/-- A digit behind another. -/
def writeNext : Bool × Digit base → List Char
  | (false, d) => [d.char]
  | (true, d) => ['_', d.char]

/-- How digits are written. -/
def write (ds : Digits base) : List Char :=
  ds.first.char :: ds.rest.flatMap writeNext

end Digits

namespace IntegerLiteral

/-- The base in which the digits count. -/
def base : IntegerLiteral → Nat
  | decimal _ _ => 10
  | marked mark _ _ => mark.base
  | leadingZero _ _ _ => 8

/-- A single digit in base ten. -/
def single (n : Nat) : IntegerLiteral :=
  .decimal { first := { value := Fin.ofNat 10 n } } fun _ => rfl

/-- The values of the digits. -/
def values : IntegerLiteral → List Nat
  | decimal ds _ => ds.values
  | marked _ _ ds => ds.values
  | leadingZero ds _ _ => ds.values

/-- How a literal is written. -/
def write : IntegerLiteral → List Char
  | decimal ds _ => ds.write
  | marked mark capital ds =>
    '0' :: (if capital then mark.letter.toUpper else mark.letter) :: ds.write
  | leadingZero ds _ _ => ds.write

/-- The integer that a literal stands for. -/
def value (l : IntegerLiteral) : Nat :=
  Nat.ofDigits l.base l.values.reverse

/-- Whether a literal with a leading zero is not read as an integer. -/
def Misread (l : IntegerLiteral) : Prop :=
  match l with
  | leadingZero _ _ _ => l.value ≠ 0 ∨ digitLimit < l.values.length
  | _ => False

/-- Whether a literal in base ten has more digits than can be read at once. -/
def Overlong : IntegerLiteral → Prop
  | decimal ds _ => digitLimit < ds.values.length
  | _ => False

/-- Whether a literal is misread can be decided. -/
instance (l : IntegerLiteral) : Decidable l.Misread :=
  match l with
  | decimal _ _ => inferInstanceAs (Decidable False)
  | marked _ _ _ => inferInstanceAs (Decidable False)
  | leadingZero _ _ _ => inferInstanceAs (Decidable (_ ∨ _))

/-- Whether a literal is too long can be decided. -/
instance (l : IntegerLiteral) : Decidable l.Overlong :=
  match l with
  | decimal _ _ => inferInstanceAs (Decidable (_ < _))
  | marked _ _ _ => inferInstanceAs (Decidable False)
  | leadingZero _ _ _ => inferInstanceAs (Decidable False)

end IntegerLiteral

/-- The double nearest to a whole number. -/
def nearest (n : Nat) : UInt64 :=
  if n = 0 then 0 else Binary64.ofFraction n 1

/-- What a literal is read as: the integer that it stands for, or the floating-point number of its
digits in base ten. -/
def IntegerLiteral.reading (l : IntegerLiteral) : Numeral :=
  if l.Misread ∨ l.Overlong then .double (nearest (Nat.ofDigits 10 l.values.reverse))
  else .integer l.value

variable {base : Nat}

/-! ## The characters of a literal -/

/-- The character of a digit goes on with a word. -/
lemma Digit.isWord_char (small : base ≤ 16) (d : Digit base) : isWord d.char = true :=
  d.forall_char (p := fun _ c => isWord c = true) (by decide) small

/-- The characters of digits go on with a word. -/
lemma Digits.isWord_write (small : base ≤ 16) (ds : Digits base) :
    ∀ c ∈ ds.write, isWord c = true := by
  intro c hc
  rcases List.mem_cons.1 hc with rfl | hc
  · exact ds.first.isWord_char small
  · obtain ⟨⟨separated, d⟩, -, hc⟩ := List.mem_flatMap.1 hc
    cases separated with
    | false =>
      rw [List.mem_singleton.1 hc]
      exact d.isWord_char small
    | true =>
      rcases List.mem_pair.1 hc with rfl | rfl
      · decide
      · exact d.isWord_char small

/-- No base is greater than sixteen. -/
lemma Mark.base_le (mark : Mark) : mark.base ≤ 16 := by
  cases mark <;> decide

/-- A literal starts with a digit and goes on with word characters. -/
lemma IntegerLiteral.exists_write (l : IntegerLiteral) :
    ∃ c cs, l.write = c :: cs ∧ c.isDigit = true ∧ ∀ d ∈ cs, isWord d = true := by
  cases l with
  | decimal ds _ =>
    have words := ds.isWord_write (by decide)
    exact ⟨_, _, rfl, ds.first.isDigit_char (by decide), (List.forall_mem_cons.1 words).2⟩
  | marked mark capital ds =>
    refine ⟨_, _, rfl, by decide, List.forall_mem_cons.2 ⟨?_, ds.isWord_write mark.base_le⟩⟩
    cases mark <;> cases capital <;> decide
  | leadingZero ds _ _ =>
    have words := ds.isWord_write (by decide)
    exact ⟨_, _, rfl, ds.first.isDigit_char (by decide), (List.forall_mem_cons.1 words).2⟩

/-! ## Cleaning -/

/-- Without underscores the digits are written one after the other. -/
lemma Digits.plain_write (small : base ≤ 16) (ds : Digits base) :
    plain ds.write = ds.all.map Digit.char := by
  have behind (rest : List (Bool × Digit base)) :
      plain (rest.flatMap writeNext) = (rest.map (·.2)).map Digit.char := by
    induction rest with
    | nil => rfl
    | cons next rest ih =>
      obtain ⟨separated, d⟩ := next
      cases separated with
      | false =>
        show plain (d.char :: rest.flatMap writeNext) = _
        rw [plain_cons (d.ascii_char small), ih]
        rfl
      | true =>
        show plain ('_' :: d.char :: rest.flatMap writeNext) = _
        rw [plain_underscore, plain_cons (d.ascii_char small), ih]
        rfl
  rw [write, plain_cons (ds.first.ascii_char small), behind]
  rfl

/-! ## Digits -/

/-- Digits from the last to the first have the same value. -/
lemma ofDigits_eq (b : Nat) (digits : List Nat) :
    ofDigits b digits = Nat.ofDigits b digits.reverse := by
  rw [Nat.ofDigits_eq_foldr, List.foldr_reverse, ofDigits]
  congr
  funext n d
  rw [Nat.add_comm, Nat.mul_comm]
  rfl

/-- Zeros in front count for nothing. -/
lemma ofDigits_dropWhile (b : Nat) (digits : List Nat) :
    ofDigits b (digits.dropWhile (· == 0)) = ofDigits b digits := by
  induction digits with
  | nil => rfl
  | cons d digits ih =>
    by_cases hd : d = 0
    · rw [List.dropWhile_cons_of_pos (by simpa using hd), ih, hd, ofDigits, ofDigits,
        List.foldl_cons, Nat.zero_mul]
    · rw [List.dropWhile_cons_of_neg (by simpa using hd)]

/-- Digits are read as those of any base that has them. -/
lemma digitsIn?_chars {b : Nat} (small : base ≤ 16) {ds : List (Digit base)} (hne : ds ≠ [])
    (hb : ∀ d ∈ ds, d.value.val < b) :
    digitsIn? b (ds.map Digit.char) = some (ds.map fun d => d.value.val) := by
  have nonempty : ¬(ds.map Digit.char).isEmpty = true := by simpa using hne
  rw [digitsIn?, if_neg nonempty]
  clear hne nonempty
  induction ds with
  | nil => rfl
  | cons d ds ih =>
    obtain ⟨hd, hds⟩ := List.forall_mem_cons.1 hb
    have first : (hexValue? d.char).filter (· < b) = some d.value.val := by
      rw [d.hexValue?_char small, Option.filter_some, if_pos (by simpa using hd)]
    rw [List.map_cons, List.mapM_cons, first, ih hds]
    rfl

/-- Digits of a base are digits of a greater one. -/
lemma Digits.digitsIn?_all (small : base ≤ 16) (ds : Digits base) {b : Nat} (hb : base ≤ b) :
    digitsIn? b (ds.all.map Digit.char) = some ds.values :=
  digitsIn?_chars small (List.cons_ne_nil _ _) fun d _ => Nat.lt_of_lt_of_le d.value.isLt hb

/-- Digits of which the first is not zero are no more than the number has. -/
lemma Digits.length_le (ds : Digits 10) (hfirst : ds.first.value ≠ 0) {n : Nat}
    (small : Nat.ofDigits 10 ds.values.reverse < 10 ^ n) : ds.values.length ≤ n := by
  have hvalues : ds.values ≠ [] := List.cons_ne_nil _ _
  have hrev : ds.values.reverse ≠ [] := by simpa using hvalues
  have hlast : ds.values.reverse.getLast hrev ≠ 0 := by
    rw [List.getLast_reverse]
    exact fun h => hfirst (Fin.ext h)
  have hpow := Nat.pow_length_le_mul_ofDigits (b := 8) hrev hlast
  rw [List.length_reverse] at hpow
  have hlt : 10 ^ ds.values.length < 10 ^ (n + 1) :=
    calc 10 ^ ds.values.length ≤ 10 * Nat.ofDigits 10 ds.values.reverse := hpow
      _ < 10 * 10 ^ n := Nat.mul_lt_mul_of_pos_left small (by decide)
      _ = 10 ^ (n + 1) := (Nat.pow_succ').symm
  exact Nat.le_of_lt_succ ((Nat.pow_lt_pow_iff_right (by decide)).1 hlt)

/-! ## Reading -/

/-- The letter of a base is known in both cases. -/
lemma markedBase?_letter (mark : Mark) (capital : Bool) :
    markedBase? (if capital then mark.letter.toUpper else mark.letter) = some mark.base := by
  cases mark <;> cases capital <;> rfl

/-- Without a letter behind the first digit, an integer is read in base ten. -/
lemma integer?_chars (small : base ≤ 10) (ds : List (Digit base)) :
    integer? (ds.map Digit.char) = decimal? (ds.map Digit.char) := by
  rw [integer?.eq_def]
  split
  · next mark digits hcs =>
    have hdigit : mark.isDigit = true := by
      have hmem : mark ∈ ds.map Digit.char := hcs ▸ List.mem_cons_of_mem _ List.mem_cons_self
      obtain ⟨d, -, rfl⟩ := List.mem_map.1 hmem
      exact d.isDigit_char small
    have noMark : markedBase? mark = none := by
      have other (c : Char) (hc : c.isDigit = false) : mark ≠ c := by
        rintro rfl
        rw [hdigit] at hc
        cases hc
      rw [markedBase?, if_neg, if_neg, if_neg] <;> rintro (h | h) <;>
        exact other _ (by decide) h
    rw [noMark, hcs]
  · rfl

/-- The digits of an integer in base ten, unless there are too many or there is a leading zero. -/
lemma decimal?_of_digits {cs : List Char} {digits : List Nat} (h : digitsIn? 10 cs = some digits) :
    decimal? cs =
      if digitLimit < digits.length ∨ digits.head? = some 0 ∧ digits.any (· != 0) = true then none
      else some (Nat.ofDigits 10 digits.reverse) := by
  rw [decimal?, h, ← ofDigits_eq]
  simp only [Option.bind_eq_bind, Option.bind_some]
  split
  · next hlong => rw [if_pos (.inl hlong)]
  · next hshort =>
    split
    · next hzero => rw [if_pos (.inr hzero)]
    · next hzero => rw [if_neg (not_or.2 ⟨hshort, hzero⟩)]

/-- A decimal without a fraction is the nearest number to a whole. -/
lemma ofDecimal_whole (n count : Nat) : Binary64.ofDecimal n count 0 = nearest n := by
  have noShift : ¬((0 : Int) > 400) ∧ ¬((0 : Int) + count < -400) ∧ ¬((0 : Int) < 0) := by
    omega
  have same : n * Nat.pow 10 (Int.natAbs 0) = n := Nat.mul_one n
  rw [Binary64.ofDecimal, if_neg noShift.1, if_neg noShift.2.1, if_neg noShift.2.2, same, nearest]

/-- Digits alone are a floating-point number, leading zeros or not. -/
lemma double?_of_digits {cs : List Char} (hd : AllDigits cs) {digits : List Nat}
    (h : digitsIn? 10 cs = some digits) :
    double? cs = some (nearest (Nat.ofDigits 10 digits.reverse)) := by
  have whole : cs.takeWhile Char.isDigit = cs := List.takeWhile_eq_self_iff.2 hd
  have nothing : cs.dropWhile Char.isDigit = [] := List.dropWhile_eq_nil_iff.2 hd
  have significant : ofDigits 10 (digits.dropWhile (· == 0)) = Nat.ofDigits 10 digits.reverse :=
    (ofDigits_dropWhile 10 digits).trans (ofDigits_eq 10 digits)
  rw [double?, whole, nothing]
  simp only [List.append_nil, h, Option.bind_eq_bind, Option.bind_some, significant]
  exact congrArg some (ofDecimal_whole _ _)

/-- A number is zero if all of its digits are. -/
lemma ofDigits_eq_zero {b : Nat} (hb : 0 < b) (digits : List Nat) :
    Nat.ofDigits b digits.reverse = 0 ↔ digits.any (· != 0) = false := by
  have littleEndian (l : List Nat) : Nat.ofDigits b l = 0 ↔ ∀ d ∈ l, d = 0 := by
    induction l with
    | nil => simp
    | cons d l ih => simp [Nat.ofDigits_cons, hb.ne', ih]
  rw [littleEndian, List.any_eq_false]
  simp

/-- A literal that is an integer is read as one. -/
lemma read?_of_integer {l : IntegerLiteral} {n : Nat}
    (h : integer? (plain l.write) = some n) : read? (String.ofList l.write) = some (.integer n) := by
  rw [read?, String.toList_ofList, h]

/-- A literal with a marked base is an integer. -/
lemma integer?_marked (mark : Mark) (capital : Bool) (ds : Digits mark.base) :
    integer? (plain (IntegerLiteral.marked mark capital ds).write) =
      some (IntegerLiteral.marked mark capital ds).value := by
  have ascii : ∀ c, c = (if capital then mark.letter.toUpper else mark.letter) →
      c.toNat < 0x80 ∧ c ≠ '_' := by
    rintro c rfl
    cases mark <;> cases capital <;> decide
  rw [IntegerLiteral.write, plain_cons (by decide), plain_cons (ascii _ rfl),
    ds.plain_write mark.base_le, integer?]
  simp only [markedBase?_letter]
  rw [ds.digitsIn?_all mark.base_le (Nat.le_refl _), Option.map_some, ofDigits_eq]
  rfl

/-- A number in base ten is an integer, unless it has too many digits. -/
lemma integer?_decimal {ds : Digits 10} {noZero : ds.first.value = 0 → ds.rest = []} :
    integer? (plain (IntegerLiteral.decimal ds noZero).write) =
      if digitLimit < ds.values.length then none
      else some (IntegerLiteral.decimal ds noZero).value := by
  have digits := ds.digitsIn?_all (by decide) (Nat.le_refl 10)
  have single : ¬(ds.values.head? = some 0 ∧ ds.values.any (· != 0) = true) := by
    rintro ⟨head, any⟩
    have hfirst : ds.first.value = 0 := Fin.ext (Option.some.inj head)
    have zero : ds.values = [0] := by
      rw [Digits.values, Digits.all, noZero hfirst, List.map_nil, List.map_singleton, hfirst]
      rfl
    rw [zero] at any
    cases any
  rw [IntegerLiteral.write, ds.plain_write (by decide), Digits.all, integer?_chars (by decide),
    ← Digits.all, decimal?_of_digits digits]
  simp only [single, or_false]
  rfl

/-- A number below the limiting power of ten has no more digits than the limit. -/
lemma not_overlong {l : IntegerLiteral} (small : l.value < 10 ^ digitLimit) : ¬l.Overlong := by
  cases l with
  | decimal ds noZero =>
    have short : ds.values.length ≤ digitLimit := by
      by_cases hfirst : ds.first.value = 0
      · rw [Digits.values, Digits.all, noZero hfirst, List.map_nil, List.map_singleton]
        exact Nat.le_of_ble_eq_true rfl
      · exact ds.length_le hfirst small
    exact Nat.not_lt.2 short
  | marked _ _ _ => exact not_false
  | leadingZero _ _ _ => exact not_false

/-- A literal with a leading zero is an integer to no reader, unless it is zero and not too long. -/
lemma integer?_leadingZero {ds : Digits 8} {zero : ds.first.value = 0} {more : ds.rest ≠ []} :
    integer? (plain (IntegerLiteral.leadingZero ds zero more).write) =
      if digitLimit < ds.values.length ∨ ds.values.any (· != 0) = true then none else some 0 := by
  have digits := ds.digitsIn?_all (b := 10) (by decide) (by decide)
  have head : ds.values.head? = some 0 := by
    rw [Digits.values, Digits.all, List.map_cons, List.head?_cons, zero]
    rfl
  rw [IntegerLiteral.write, ds.plain_write (by decide), Digits.all, integer?_chars (by decide),
    ← Digits.all, decimal?_of_digits digits, head]
  simp only [true_and]
  split
  · rfl
  · next readable =>
    have allZero : ds.values.any (· != 0) = false :=
      Bool.eq_false_of_not_eq_true fun h => readable (.inr h)
    rw [(ofDigits_eq_zero (by decide) ds.values).2 allZero]

/-- A literal with a leading zero is misread if it is too long or not zero. -/
lemma misread_leadingZero {ds : Digits 8} {zero : ds.first.value = 0} {more : ds.rest ≠ []} :
    (IntegerLiteral.leadingZero ds zero more).Misread ↔
      digitLimit < ds.values.length ∨ ds.values.any (· != 0) = true := by
  have value := ofDigits_eq_zero (b := 8) (by decide) ds.values
  show Nat.ofDigits 8 ds.values.reverse ≠ 0 ∨ digitLimit < ds.values.length ↔ _
  rw [ne_eq, value, Bool.not_eq_false, or_comm]

/-- Digits that are read as no integer are those of a floating-point number. -/
lemma read?_of_digits (small : base ≤ 10) {ds : Digits base} (h : integer? (plain ds.write) = none) :
    read? (String.ofList ds.write) =
      some (.double (nearest (Nat.ofDigits 10 ds.values.reverse))) := by
  have allDigits : AllDigits (ds.all.map Digit.char) := by
    intro c hc
    obtain ⟨d, -, rfl⟩ := List.mem_map.1 hc
    exact d.isDigit_char small
  have digits := ds.digitsIn?_all (by omega) small
  rw [read?, String.toList_ofList, h, ds.plain_write (by omega), double?_of_digits allDigits digits]
  rfl

/-- A literal is an integer unless it is misread or has too many digits. -/
lemma integer?_write (l : IntegerLiteral) :
    integer? (plain l.write) = if l.Misread ∨ l.Overlong then none else some l.value := by
  cases l with
  | decimal ds noZero =>
    rw [integer?_decimal]
    exact if_congr (false_or _).symm.to_iff rfl rfl
  | marked mark capital ds =>
    rw [integer?_marked]
    exact (if_neg (not_or.2 ⟨not_false, not_false⟩)).symm
  | leadingZero ds zero more =>
    have short : ¬(IntegerLiteral.leadingZero ds zero more).Overlong := not_false
    rw [integer?_leadingZero]
    by_cases misread : (IntegerLiteral.leadingZero ds zero more).Misread
    · rw [if_pos (misread_leadingZero.1 misread), if_pos (.inl misread)]
    · have nothing : (IntegerLiteral.leadingZero ds zero more).value = 0 :=
        not_not.1 fun hne => misread (.inl hne)
      rw [if_neg (mt misread_leadingZero.2 misread), if_neg (not_or.2 ⟨misread, short⟩), nothing]

/-- Each literal is read. -/
theorem read?_eq_reading (l : IntegerLiteral) : read? (String.ofList l.write) = some l.reading := by
  have hinteger := integer?_write l
  rw [IntegerLiteral.reading]
  split
  · next h =>
    rw [if_pos h] at hinteger
    cases l with
    | decimal ds _ => exact read?_of_digits (Nat.le_refl _) hinteger
    | marked _ _ _ => exact (or_self_iff.1 h).elim
    | leadingZero ds _ _ => exact read?_of_digits (by decide) hinteger
  · next h =>
    rw [if_neg h] at hinteger
    exact read?_of_integer hinteger

/-- A literal within the limit is read as an integer, unless it is misread. -/
lemma reading_eq_integer {l : IntegerLiteral} (small : l.value < 10 ^ digitLimit)
    (h : ¬l.Misread) : l.reading = .integer l.value :=
  if_neg (not_or.2 ⟨h, not_overlong small⟩)

/-- Sixty-three bits are within the limit of digits. -/
lemma lt_limit {n : Nat} (h : n < 2 ^ 63) : n < 10 ^ digitLimit :=
  calc n < 2 ^ 63 := h
    _ ≤ 10 ^ 63 := Nat.pow_le_pow_left (by decide) 63
    _ ≤ 10 ^ digitLimit := Nat.pow_le_pow_right (by decide) (by decide)

/-- A literal is read as the integer that it stands for. -/
theorem read?_write {l : IntegerLiteral} (small : l.value < 2 ^ 63) (h : ¬l.Misread) :
    read? (String.ofList l.write) = some (.integer l.value) := by
  rw [read?_eq_reading, reading_eq_integer (lt_limit small) h]

/-- A literal that is not read as an integer is read as the floating-point number of its digits in
base ten. -/
theorem read?_write_misread {l : IntegerLiteral} (h : l.Misread) :
    read? (String.ofList l.write) = some (.double (nearest (Nat.ofDigits 10 l.values.reverse))) := by
  rw [read?_eq_reading, IntegerLiteral.reading, if_pos (.inl h)]

end RouteAudit.Text.Numeral
