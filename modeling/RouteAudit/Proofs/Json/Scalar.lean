import RouteAudit.Proofs.Text.Numeral
import RouteAudit.Json.Parser
import RouteAudit.Json.Printer

/-!
# Strings and integers are read back

What is written for a string or an integer is read as that string or integer, and it is ASCII.  A
character beyond ASCII is written as the escape of each of its UTF-16 units; what is read is put
together from the units.
-/

namespace RouteAudit.Json

variable {limit : Nat}

/-- What a reader reads, and the text that it leaves. -/
def outcome {α : Type} {cs : List Char} (x : Option (α × Left cs)) : Option (α × List Char) :=
  x.map fun read => (read.1, read.2.val)

/-- What is left is shorter than what was there. -/
lemma exists_of_outcome {α : Type} {cs rest : List Char} {x : Option (α × Left cs)} {a : α}
    (h : outcome x = some (a, rest)) : ∃ shorter, x = some (a, ⟨rest, shorter⟩) := by
  obtain ⟨⟨a, left⟩, rfl, hread⟩ := Option.map_eq_some_iff.1 h
  cases hread
  exact ⟨left.property, rfl⟩

/-! ## Strings -/

/-- The UTF-16 units of a character. -/
def units (c : Char) : List Nat :=
  if c.toNat < 0x10000 then [c.toNat]
  else [0xD800 + (c.toNat - 0x10000) / 0x400, 0xDC00 + (c.toNat - 0x10000) % 0x400]

/-- The number of a character is no half of a pair. -/
lemma toNat_valid (c : Char) : c.toNat < 0xD800 ∨ 0xDFFF < c.toNat ∧ c.toNat < 0x110000 :=
  c.valid

/-- A unit that is no half of a pair is a character. -/
lemma joinUnits_cons {n : Nat} (h : n < 0xD800 ∨ 0xE000 ≤ n) (rest : List Nat) :
    joinUnits (n :: rest) = Char.ofNat n :: joinUnits rest := by
  have noHigh : isHigh n = false := by
    simp only [isHigh, Bool.and_eq_false_iff, decide_eq_false_iff_not]
    omega
  have noLow : isLow n = false := by
    simp only [isLow, Bool.and_eq_false_iff, decide_eq_false_iff_not]
    omega
  have alone : joinUnit n = Char.ofNat n := by
    rw [joinUnit, noHigh, noLow]
    rfl
  cases rest with
  | nil =>
    show [joinUnit n] = _
    rw [alone]
    rfl
  | cons m rest =>
    rw [joinUnits, noHigh, alone]
    rfl

/-- A character is put together from its units. -/
lemma joinUnits_units (c : Char) (rest : List Nat) :
    joinUnits (units c ++ rest) = c :: joinUnits rest := by
  have hvalid := toNat_valid c
  rw [units]
  split
  · rw [List.singleton_append, joinUnits_cons (by omega), Char.ofNat_toNat]
  · have value : 0x10000 + (0xD800 + (c.toNat - 0x10000) / 0x400 - 0xD800) * 0x400 +
        (0xDC00 + (c.toNat - 0x10000) % 0x400 - 0xDC00) = c.toNat := by omega
    have pair : (isHigh (0xD800 + (c.toNat - 0x10000) / 0x400) &&
        isLow (0xDC00 + (c.toNat - 0x10000) % 0x400)) = true := by
      simp only [isHigh, isLow, Bool.and_eq_true, decide_eq_true_eq]
      omega
    rw [List.cons_append, List.singleton_append, joinUnits, if_pos pair, value, Char.ofNat_toNat]

/-- The units of a text are joined to the text again. -/
lemma joinUnits_flatMap (cs : List Char) : joinUnits (cs.flatMap units) = cs := by
  induction cs with
  | nil => rfl
  | cons c cs ih => rw [List.flatMap_cons, joinUnits_units, ih]

/-- The digit of a number has this number as its value. -/
lemma hexValue?_hexDigit {n : Nat} (h : n < 16) : Text.hexValue? (Text.hexDigit n) = some n :=
  Text.Numeral.Digit.hexValue?_char (Nat.le_refl 16) ⟨⟨n, h⟩, false⟩

/-- The forms in which a character is written in a string. -/
inductive Escaped (c : Char) : List Char → Prop
  | sign {sign : Char} : unescape? sign = some c → sign ≠ 'u' → c.toNat < 0x10000 →
    sign.toNat < 0x80 → Escaped c ['\\', sign]
  | plain : 0x20 ≤ c.toNat → c.toNat < 0x7F → c ≠ '"' → c ≠ '\\' → Escaped c [c]
  | unit : c.toNat < 0x10000 → Escaped c (unitEscape c.toNat)
  | pair : 0x10000 ≤ c.toNat →
    Escaped c (unitEscape (0xD800 + (c.toNat - 0x10000) / 0x400) ++
      unitEscape (0xDC00 + (c.toNat - 0x10000) % 0x400))

/-- A character is escaped by one of the rules. -/
lemma escaped_escape (c : Char) : Escaped c (escape c) := by
  have sign {sign c' : Char} (hc : c = c') (hsign : unescape? sign = some c' ∧ sign ≠ 'u' ∧
      c'.toNat < 0x10000 ∧ sign.toNat < 0x80) : Escaped c ['\\', sign] := by
    subst hc
    exact .sign hsign.1 hsign.2.1 hsign.2.2.1 hsign.2.2.2
  rw [escape]
  refine iteInduction (fun hquote => sign hquote (by decide)) fun hquote => ?_
  refine iteInduction (fun hslash => sign hslash (by decide)) fun hslash => ?_
  refine iteInduction (fun hn => sign hn (by decide)) fun _ => ?_
  refine iteInduction (fun hr => sign hr (by decide)) fun _ => ?_
  refine iteInduction (fun ht => sign ht (by decide)) fun _ => ?_
  refine iteInduction (fun hf => sign hf (by decide)) fun _ => ?_
  refine iteInduction (fun hb => sign hb (by decide)) fun _ => ?_
  refine iteInduction (fun hplain => .plain hplain.1 hplain.2 hquote hslash) fun _ => ?_
  exact iteInduction .unit fun hlarge => .pair (Nat.le_of_not_lt hlarge)

section Units

variable {cs rest : List Char} {us : List Nat}

/-- The escape of a unit is read as the unit. -/
lemma readUnits_unitEscape (h : outcome (readUnits cs) = some (us, rest)) {n : Nat}
    (hn : n < 0x10000) : outcome (readUnits (unitEscape n ++ cs)) = some (n :: us, rest) := by
  obtain ⟨shorter, h⟩ := exists_of_outcome h
  have value : hex4? (Text.hexDigit (n / 16 / 16 / 16 % 16)) (Text.hexDigit (n / 16 / 16 % 16))
      (Text.hexDigit (n / 16 % 16)) (Text.hexDigit (n % 16)) = some n := by
    have digit (m : Nat) : Text.hexValue? (Text.hexDigit (m % 16)) = some (m % 16) :=
      hexValue?_hexDigit (Nat.mod_lt m (by decide))
    simp only [hex4?, List.mapM_cons, List.mapM_nil, digit, Option.pure_def, Option.bind_eq_bind,
      Option.bind_some, Text.Numeral.ofDigits, List.foldl_cons, List.foldl_nil, Option.some.injEq]
    omega
  show outcome (readUnits ('\\' :: 'u' :: Text.hexDigit _ :: Text.hexDigit _ :: Text.hexDigit _ ::
    Text.hexDigit _ :: cs)) = _
  simp only [readUnits, value, h]
  rfl

/-- A letter behind a backslash is read as what it stands for. -/
lemma readUnits_sign (h : outcome (readUnits cs) = some (us, rest)) {sign c : Char}
    (hsign : unescape? sign = some c) (hu : sign ≠ 'u') :
    outcome (readUnits ('\\' :: sign :: cs)) = some (c.toNat :: us, rest) := by
  obtain ⟨shorter, h⟩ := exists_of_outcome h
  rw [readUnits.eq_4 sign cs (fun _ _ _ _ _ e _ => hu e), hsign]
  simp only [h]
  rfl

/-- A character that needs no escape is read as it is. -/
lemma readUnits_plain (h : outcome (readUnits cs) = some (us, rest)) {c : Char}
    (hc : 0x20 ≤ c.toNat) (hquote : c ≠ '"') (hslash : c ≠ '\\') :
    outcome (readUnits (c :: cs)) = some (c.toNat :: us, rest) := by
  obtain ⟨shorter, h⟩ := exists_of_outcome h
  rw [readUnits.eq_5 c cs (fun e => hquote e) (fun _ _ _ _ _ e _ => hslash e)
    (fun _ _ e _ => hslash e), if_neg (by simp only [hslash, or_false]; omega)]
  simp only [h]
  rfl

/-- The written form of a character is read as its units. -/
lemma readUnits_escape (h : outcome (readUnits cs) = some (us, rest)) (c : Char) :
    outcome (readUnits (escape c ++ cs)) = some (units c ++ us, rest) := by
  have hescaped := escaped_escape c
  generalize escape c = written at hescaped
  cases hescaped with
  | sign hsign hu hsmall _ =>
    rw [units, if_pos hsmall]
    exact readUnits_sign h hsign hu
  | plain hc hsmall hquote hslash =>
    rw [units, if_pos (by omega)]
    exact readUnits_plain h hc hquote hslash
  | unit hsmall =>
    rw [units, if_pos hsmall]
    exact readUnits_unitEscape h hsmall
  | pair hlarge =>
    have hvalid := toNat_valid c
    rw [units, if_neg (by omega), List.append_assoc]
    exact readUnits_unitEscape (readUnits_unitEscape h (by omega)) (by omega)

end Units

/-- A string is read back. -/
lemma readString_quote (s : String) (rest : List Char) :
    outcome (readString (s.toList.flatMap escape ++ '"' :: rest)) = some (s, rest) := by
  have read (cs : List Char) :
      outcome (readUnits (cs.flatMap escape ++ '"' :: rest)) = some (cs.flatMap units, rest) := by
    induction cs with
    | nil =>
      show outcome (readUnits ('"' :: rest)) = some ([], rest)
      rw [readUnits]
      rfl
    | cons c cs ih =>
      rw [List.flatMap_cons, List.flatMap_cons, List.append_assoc]
      exact readUnits_escape ih c
  obtain ⟨shorter, h⟩ := exists_of_outcome (read s.toList)
  simp only [readString, h, joinUnits_flatMap, String.ofList_toList]
  rfl

/-! ## Numbers and words -/

/-- What stands behind a number does not go on with it. -/
def Ends (rest : List Char) : Prop :=
  ∀ c ∈ rest.head?, c.isDigit = false ∧ c ∉ ['.', 'e', 'E']

section Number

variable {rest : List Char}

/-- Digits are taken up to where the number ends. -/
lemma takeWhile_isDigit {ds : List Char} (hd : Text.AllDigits ds) (hrest : Ends rest) :
    (ds ++ rest).takeWhile Char.isDigit = ds := by
  rw [List.takeWhile_append_of_pos hd]
  cases rest with
  | nil => rw [List.takeWhile_nil, List.append_nil]
  | cons c rest =>
    have hc := (hrest c rfl).1
    rw [List.takeWhile_cons_of_neg (by simp [hc]), List.append_nil]

/-- A whole number is as long as its digits. -/
lemma wholeLength?_toDigits (n : Nat) (hrest : Ends rest) :
    wholeLength? (Nat.toDigits 10 n ++ rest) = some (Nat.toDigits 10 n).length := by
  have hd := Text.allDigits_toDigits n
  obtain ⟨c, ds, hdigits⟩ := List.exists_cons_of_ne_nil (Nat.toDigits_ne_nil (b := 10) (n := n))
  by_cases hc : c = '0'
  · -- only zero starts with a zero
    have hzero : n = 0 := Text.head?_toDigits (by rw [hdigits, hc]; rfl)
    rw [hzero, Nat.toDigits_zero]
    rfl
  · rw [hdigits] at hd ⊢
    obtain ⟨hfirst, hds⟩ := List.forall_mem_cons.1 hd
    rw [List.cons_append, wholeLength?.eq_3 c _ hc, if_pos hfirst, takeWhile_isDigit hds hrest,
      List.length_cons, Nat.add_comm]

/-- Where the number ends there is no fraction. -/
lemma fractionLength_of_ends (hrest : Ends rest) : fractionLength rest = 0 := by
  rw [fractionLength.eq_def]
  split
  · next hmem => exact absurd (by simp) (hrest '.' rfl).2
  · rfl

/-- Where the number ends there is no exponent. -/
lemma exponentLength_of_ends (hrest : Ends rest) : exponentLength rest = 0 := by
  cases rest with
  | nil => rfl
  | cons c rest =>
    have hc := (hrest c rfl).2
    simp only [List.mem_cons, List.not_mem_nil, or_false, not_or] at hc
    rw [exponentLength, if_neg (by simp [hc])]

/-- Decimal digits have their own values. -/
lemma filterMap_hexValue? {ds : List Char} (hd : Text.AllDigits ds) :
    ds.filterMap Text.hexValue? = ds.map fun c => c.toNat - '0'.toNat := by
  rw [← List.filterMap_eq_map]
  exact List.filterMap_congr fun c hc => if_pos (hd c hc)

/-- The digits of a number are read as the number. -/
lemma number?_digits {sign : List Char} (hsign : sign = [] ∨ sign = ['-']) {n : Nat}
    (hn : (Nat.toDigits 10 n).length ≤ limit) (hrest : Ends rest) :
    number? limit (sign ++ (Nat.toDigits 10 n ++ rest)) =
      some (.integer (if sign.length = 1 then -n else n), (sign ++ Nat.toDigits 10 n).length) := by
  have hd := Text.allDigits_toDigits n
  have marked : (if (sign ++ (Nat.toDigits 10 n ++ rest)).head? = some '-' then 1 else 0) =
      sign.length := by
    rcases hsign with rfl | rfl
    · obtain ⟨c, ds, hdigits⟩ := List.exists_cons_of_ne_nil
        (Nat.toDigits_ne_nil (b := 10) (n := n))
      rw [hdigits] at hd ⊢
      have hc := hd c List.mem_cons_self
      refine if_neg fun e => ?_
      cases e
      cases hc
    · rfl
  have behind : (sign ++ (Nat.toDigits 10 n ++ rest)).drop
      (sign.length + (Nat.toDigits 10 n).length) = rest := by
    rw [← List.drop_drop, List.drop_left, List.drop_left]
  have value : Text.Numeral.ofDigits 10
      ((Nat.toDigits 10 n).map fun c => c.toNat - '0'.toNat) = n := by
    rw [Text.Numeral.ofDigits_map, Nat.ofDigitChars_ten_toDigits]
  simp only [number?, marked, List.drop_left, wholeLength?_toDigits n hrest, Option.bind_eq_bind,
    Option.bind_some, behind, fractionLength_of_ends hrest, Nat.add_zero,
    exponentLength_of_ends hrest, if_neg (Nat.not_lt.2 hn), List.take_left,
    filterMap_hexValue? hd, value, List.length_append, if_true]

/-- The sign and the digits of an integer. -/
lemma exists_sign (n : Int) : ∃ sign, (sign = [] ∨ sign = ['-']) ∧
    (toString n).toList = sign ++ Nat.toDigits 10 n.natAbs ∧
    (if sign.length = 1 then -(n.natAbs : Int) else n.natAbs) = n := by
  cases n with
  | ofNat m =>
    refine ⟨[], .inl rfl, ?_, rfl⟩
    show (Nat.repr m).toList = _
    rw [Nat.toList_repr]
    rfl
  | negSucc m =>
    refine ⟨['-'], .inr rfl, ?_, rfl⟩
    show ("-" ++ Nat.repr (m + 1)).toList = _
    rw [String.toList_append, Nat.toList_repr]
    rfl

/-- No named value stands where digits do. -/
lemma find?_words {sign : List Char} (hsign : sign = [] ∨ sign = ['-']) {c : Char}
    (hc : c.isDigit = true) (cs : List Char) :
    words.find? (·.1.isPrefixOf (sign ++ c :: cs)) = none := by
  have other : ∀ d ∈ ['n', 't', 'f', 'N', 'I', '-'], (d == c) = false := by
    intro d hd
    apply beq_false_of_ne
    rintro rfl
    revert hc
    fin_cases hd <;> decide
  rw [List.find?_eq_none]
  rcases hsign with rfl | rfl
  · intro word hword
    fin_cases hword <;> simp [List.isPrefixOf, other]
  · intro word hword
    fin_cases hword <;> simp [List.isPrefixOf, other]

/-- An integer is read back. -/
lemma scalar?_integer {n : Int} (hn : (Nat.toDigits 10 n.natAbs).length ≤ limit)
    (hrest : Ends rest) : scalar? limit ((toString n).toList ++ rest) =
      some (.integer n, (toString n).toList.length) := by
  obtain ⟨sign, hsign, hwritten, hvalue⟩ := exists_sign n
  have hd := Text.allDigits_toDigits n.natAbs
  have hnumber := number?_digits hsign hn hrest
  rw [hvalue] at hnumber
  obtain ⟨c, ds, hdigits⟩ := List.exists_cons_of_ne_nil
    (Nat.toDigits_ne_nil (b := 10) (n := n.natAbs))
  rw [hwritten, List.append_assoc, scalar?]
  have hnone := find?_words hsign (hd c (by rw [hdigits]; exact List.mem_cons_self)) (ds ++ rest)
  rw [← List.cons_append, ← hdigits] at hnone
  rw [hnone]
  exact hnumber

end Number

/-! ## ASCII -/

/-- A text consists of ASCII characters. -/
def Ascii (cs : List Char) : Prop :=
  ∀ c ∈ cs, c.toNat < 0x80

/-- Joined texts are ASCII if both parts are. -/
lemma Ascii.append {cs cs' : List Char} (h : Ascii cs) (h' : Ascii cs') : Ascii (cs ++ cs') :=
  List.forall_mem_append.2 ⟨h, h'⟩

/-- A text is ASCII if its first character is and the rest is. -/
lemma Ascii.cons {c : Char} {cs : List Char} (hc : c.toNat < 0x80) (h : Ascii cs) :
    Ascii (c :: cs) :=
  List.forall_mem_cons.2 ⟨hc, h⟩

/-- A text is ASCII if a test of its characters says so. -/
lemma Ascii.of_all {cs : List Char} (h : (cs.all fun c => c.toNat < 0x80) = true) : Ascii cs :=
  fun c hc => of_decide_eq_true (List.all_eq_true.1 h c hc)

/-- The empty text is ASCII. -/
lemma ascii_nil : Ascii [] :=
  List.forall_mem_nil _

/-- Hexadecimal digits are ASCII. -/
lemma ascii_hexDigits (width n : Nat) : Ascii (Text.hexDigits width n) := by
  induction width generalizing n with
  | zero => exact ascii_nil
  | succ width ih =>
    have digit : (Text.hexDigit (n % 16)).toNat < 0x80 :=
      (Text.Numeral.Digit.ascii_char (Nat.le_refl 16)
        ⟨⟨n % 16, Nat.mod_lt n (by decide)⟩, false⟩).1
    exact (ih (n / 16)).append (ascii_nil.cons digit)

/-- The escape of a unit is ASCII. -/
lemma ascii_unitEscape (n : Nat) : Ascii (unitEscape n) :=
  ((ascii_hexDigits 4 n).cons (by decide)).cons (by decide)

/-- A quoted text is ASCII. -/
lemma ascii_quote (s : String) : Ascii (quote s) := by
  have escapes : Ascii (s.toList.flatMap escape) := by
    intro d hd
    obtain ⟨c, -, hd⟩ := List.mem_flatMap.1 hd
    have hescaped := escaped_escape c
    generalize escape c = written at hescaped hd
    cases hescaped with
    | sign _ _ _ hsign => exact ((ascii_nil.cons hsign).cons (by decide)) d hd
    | plain _ hsmall _ _ => exact ascii_nil.cons (by omega) d hd
    | unit _ => exact ascii_unitEscape _ d hd
    | pair _ => exact (ascii_unitEscape _).append (ascii_unitEscape _) d hd
  exact (escapes.cons (by decide)).append (ascii_nil.cons (by decide))

/-- A written integer is ASCII. -/
lemma ascii_integer (n : Int) : Ascii (toString n).toList := by
  obtain ⟨sign, hsign, hwritten, -⟩ := exists_sign n
  have digits : Ascii (Nat.toDigits 10 n.natAbs) := by
    intro c hc
    have hdigit := (Text.toNat_of_isDigit (Text.allDigits_toDigits _ c hc)).2
    have hzero : '0'.toNat = 48 := rfl
    omega
  rw [hwritten]
  rcases hsign with rfl | rfl
  · exact digits
  · exact digits.cons (by decide)

end RouteAudit.Json
