import RouteAudit.Proofs.Source.Grammar.Phrase
import RouteAudit.Proofs.Text.Ascii

/-!
# What string literals spell

The bytes of a string literal by the rules of the language.  Between double quotes an escape gives a
byte or the bytes of a character.  The decoder gives a character for each escape, and it does not know
them all (`Familiar`): octal escapes, form feeds and Unicode escapes stand for themselves, and a byte
beyond ASCII becomes a character.  Any other literal is decoded to the text whose bytes it spells
(`decode?_of_spells`).
-/

namespace RouteAudit.Source.Execution
open Literal

/-! ## The rules of the language -/

/-- What a text between single quotes spells: a backslash escapes itself and the quote. -/
inductive Single : List Char → List Char → Prop where
  | nil :
    Single [] []
  | escape {c cs text} :
    c = '\\' ∨ c = '\x27' →
    Single cs text →
    Single ('\\' :: c :: cs) (c :: text)
  | plain {c cs text} :
    c ≠ '\x27' →
    (c = '\\' → ∃ d ∈ cs.head?, d ≠ '\\' ∧ d ≠ '\x27') →
    Single cs text →
    Single (c :: cs) (c :: text)

/-- The escapes of one sign between double quotes that the decoder knows as well. -/
def escapes : List (Char × Char) :=
  [('\\', '\\'), ('"', '"'), ('$', '$'), ('n', '\n'), ('r', '\r'), ('t', '\t'), ('v', '\x0b'),
    ('e', '\x1b')]

/-- The escapes of one sign between double quotes, with the form feed. -/
def letters : List (Char × Char) :=
  ('f', '\x0c') :: escapes

/-- Whether a character is an octal digit. -/
def isOctal (c : Char) : Bool :=
  ['0', '1', '2', '3', '4', '5', '6', '7'].contains c

/-- Whether a character is a hexadecimal digit. -/
def isHex (c : Char) : Bool :=
  (Text.hexValue? c).isSome

/-- The number that digits stand for in a base. -/
def numberOf (base : Nat) (digits : List Char) : Nat :=
  Text.Numeral.ofDigits base (digits.filterMap Text.hexValue?)

/-- The digits of a kind that an escape takes, up to a number of them, if `rest` comes behind. -/
structure Digits (isDigit : Char → Bool) (limit : Nat) (digits rest : List Char) : Prop where
  nonempty : digits ≠ []
  all : ∀ c ∈ digits, isDigit c = true
  short : digits.length ≤ limit
  longest : digits.length < limit → ∀ c ∈ rest.head?, isDigit c = false

/-- The bytes of the character with a number.  The halves of UTF-16 pairs have bytes as well. -/
def pointBytes (n : Nat) : List UInt8 :=
  if 0xD800 ≤ n ∧ n < 0xE000 then
    [0xED, UInt8.ofNat (0x80 + n / 0x40 % 0x40), UInt8.ofNat (0x80 + n % 0x40)]
  else String.utf8EncodeChar (Char.ofNat n)

/-- Whether a backslash in front of a text starts an escape. -/
def startsEscape : List Char → Bool
  | [] => false
  | c :: cs =>
    (letters.map (·.1)).contains c || isOctal c ||
      (['x', 'X'].contains c && cs.head?.any isHex) || (c == 'u' && cs.head? == some '\x7b')

/-- Whether a character may start the name of a variable, or a part in braces. -/
def startsPart (c : Char) : Bool :=
  c.isAlpha || c == '_' || c == '\x7b' || decide (0x80 ≤ c.toNat)

/-- What a text between double quotes spells if it interpolates nothing. -/
inductive Double : List Char → List UInt8 → Prop where
  | nil :
    Double [] []
  | plain {c cs bytes} :
    c ≠ '\\' →
    c ≠ '"' →
    (c = '$' → ∀ d ∈ cs.head?, startsPart d = false) →
    (c = '\x7b' → ∀ d ∈ cs.head?, d ≠ '$') →
    Double cs bytes →
    Double (c :: cs) (String.utf8EncodeChar c ++ bytes)
  | letter {c d cs bytes} :
    (c, d) ∈ letters →
    Double cs bytes →
    Double ('\\' :: c :: cs) (String.utf8EncodeChar d ++ bytes)
  | octal {digits cs bytes} :
    Digits isOctal 3 digits cs →
    Double cs bytes →
    Double ('\\' :: (digits ++ cs)) (UInt8.ofNat (numberOf 8 digits) :: bytes)
  | hexadecimal {mark digits cs bytes} :
    mark ∈ ['x', 'X'] →
    Digits isHex 2 digits cs →
    Double cs bytes →
    Double ('\\' :: mark :: (digits ++ cs)) (UInt8.ofNat (numberOf 16 digits) :: bytes)
  | point {digits cs bytes} :
    digits ≠ [] →
    (∀ c ∈ digits, isHex c = true) →
    numberOf 16 digits ≤ 0x10FFFF →
    Double cs bytes →
    Double ('\\' :: 'u' :: '\x7b' :: (digits ++ '\x7d' :: cs))
      (pointBytes (numberOf 16 digits) ++ bytes)
  | backslash {c cs bytes} :
    startsEscape (c :: cs) = false →
    Double (c :: cs) bytes →
    Double ('\\' :: c :: cs) (String.utf8EncodeChar '\\' ++ bytes)

/-- What a string literal spells. -/
inductive Spells : List Char → ByteArray → Prop where
  | single {body text} :
    Single body text →
    Spells ('\x27' :: (body ++ ['\x27'])) (String.ofList text).toByteArray
  | double {body bytes} :
    Double body bytes →
    Spells ('"' :: (body ++ ['"'])) bytes.toByteArray

/-! ## What the decoder knows -/

/-- Whether the decoder gives for an escape what it spells; the text follows the backslash. -/
def knowsEscape : List Char → Bool
  | [] => true
  | c :: cs =>
    if isOctal c then c == '0' && !cs.head?.any isOctal
    else if c = 'x' then decide (Text.Numeral.ofDigits 16 (leadingHex cs) < 0x80)
    else c != 'f' && !(c == 'X' && cs.head?.any isHex) && !(c == 'u' && cs.head? == some '\x7b')

/-- Whether the decoder knows all escapes between double quotes. -/
def knowsEscapes : List Char → Bool
  | [] => true
  | ['\\'] => true
  | '\\' :: c :: cs => knowsEscape (c :: cs) && knowsEscapes cs
  | _ :: cs => knowsEscapes cs

/-- Whether the decoder knows all escapes of a string literal. -/
def Familiar (literal : List Char) : Prop :=
  literal.head? = some '"' → knowsEscapes (literal.drop 1).dropLast = true

/-! ## Single quotes -/

/-- Between single quotes both agree. -/
lemma decodeSingle_eq {body text : List Char} (h : Single body text) :
    decodeSingle body = text := by
  induction h with
  | nil => rfl
  | escape hc _ ih =>
    obtain rfl | rfl := hc <;> rw [decodeSingle, ih]
  | @plain c cs text hc hnext _ ih =>
    rw [decodeSingle.eq_def]
    split
    · cases ‹_ = _›
    · next heq =>
      cases heq
      obtain ⟨d, ⟨⟩, hne, -⟩ := hnext rfl
      exact absurd rfl hne
    · next heq =>
      cases heq
      obtain ⟨d, ⟨⟩, -, hne⟩ := hnext rfl
      exact absurd rfl hne
    · next heq =>
      cases heq
      rw [ih]

/-! ## Double quotes -/

/-- The characters that an escape takes are passed over. -/
lemma decodeDoubleFrom_eq_drop (used : Nat) (cs : List Char) :
    decodeDoubleFrom used cs = decodeDouble (cs.drop used) := by
  induction cs generalizing used with
  | nil => rw [List.drop_nil, decodeDoubleFrom, decodeDouble, decodeDoubleFrom]
  | cons c cs ih =>
    cases used with
    | zero => rfl
    | succ used => rw [decodeDoubleFrom, ih, List.drop_succ_cons]

/-- An escape is decoded as its character. -/
lemma decodeDouble_escape {cs : List Char} {d : Char} {used : Nat}
    (h : escape? cs = some (d, used)) :
    decodeDouble ('\\' :: cs) = d :: decodeDouble (cs.drop used) := by
  rw [decodeDouble, decodeDoubleFrom, if_pos rfl, h, ← decodeDoubleFrom_eq_drop]

/-- Where no escape starts a character stands for itself. -/
lemma decodeDouble_plain {c : Char} {cs : List Char} (h : c = '\\' → escape? cs = none) :
    decodeDouble (c :: cs) = c :: decodeDouble cs := by
  rw [decodeDouble, decodeDoubleFrom]
  split_ifs with hc
  · rw [h hc, decodeDouble]
  · rw [decodeDouble]

/-- An escape of one sign takes one character behind the backslash. -/
lemma escape?_of_mem {c d : Char} (h : (c, d) ∈ escapes) (cs : List Char) :
    escape? (c :: cs) = some (d, 1) := by
  simp only [escapes, List.mem_cons, Prod.mk.injEq, List.not_mem_nil, or_false] at h
  rcases h with ⟨rfl, rfl⟩ | ⟨rfl, rfl⟩ | ⟨rfl, rfl⟩ | ⟨rfl, rfl⟩ | ⟨rfl, rfl⟩ | ⟨rfl, rfl⟩ |
    ⟨rfl, rfl⟩ | ⟨rfl, rfl⟩ <;> rfl

/-- The decoder takes a backslash for an escape only where one starts. -/
lemma escape?_eq_none {c : Char} {cs : List Char} (h : startsEscape (c :: cs) = false) :
    escape? (c :: cs) = none := by
  have notX : ¬(c = 'x' ∧ leadingHex cs ≠ []) := by
    rintro ⟨rfl, hdigits⟩
    cases cs with
    | nil => exact hdigits rfl
    | cons d cs =>
      cases hd : Text.hexValue? d with
      | none => exact hdigits (by simp [leadingHex, hd])
      | some n => simp [startsEscape, isHex, hd] at h
  simp only [startsEscape, letters, escapes, isOctal, List.map_cons, List.map_nil,
    List.contains_cons, List.contains_nil, Bool.or_eq_false_iff, beq_eq_false_iff_ne] at h
  simp [escape?, escaped?, h, notX]

/-- An octal digit is a hexadecimal one. -/
lemma isHex_of_isOctal {c : Char} (h : isOctal c = true) : isHex c = true := by
  have all : ∀ c ∈ ['0', '1', '2', '3', '4', '5', '6', '7'], isHex c = true :=
    Lexer.forall_mem_of_all (by decide)
  exact all c (by simpa [isOctal] using h)

/-- No digit is a backslash. -/
lemma ne_of_isHex {c : Char} (h : isHex c = true) : c ≠ '\\' ∧ c ≠ '$' := by
  constructor <;>
  · rintro rfl
    cases h

/-- A character that is no backslash starts no escape. -/
lemma knowsEscapes_cons {c : Char} (h : c ≠ '\\') (cs : List Char) :
    knowsEscapes (c :: cs) = knowsEscapes cs := by
  rw [knowsEscapes.eq_def]
  split
  · cases ‹_ = _›
  · next heq =>
    cases heq
    exact absurd rfl h
  · next heq =>
    cases heq
    exact absurd rfl h
  · next heq =>
    cases heq
    rfl

/-- Digits are no escapes. -/
lemma knowsEscapes_digits {digits : List Char} (h : ∀ c ∈ digits, isHex c = true) (cs : List Char) :
    knowsEscapes (digits ++ cs) = knowsEscapes cs := by
  induction digits with
  | nil => rfl
  | cons c digits ih =>
    obtain ⟨hc, hdigits⟩ := List.forall_mem_cons.1 h
    rw [List.cons_append, knowsEscapes_cons (ne_of_isHex hc).1, ih hdigits]

/-- A character below the first 128 is one byte. -/
lemma utf8EncodeChar_ofNat {n : Nat} (h : n < 0x80) :
    String.utf8EncodeChar (Char.ofNat n) = [UInt8.ofNat n] := by
  revert n
  decide

/-- The decoder takes the same digits for a hexadecimal escape. -/
lemma leadingHex_digits {digits cs : List Char} (h : Digits isHex 2 digits cs) :
    leadingHex (digits ++ cs) = digits.filterMap Text.hexValue? ∧
      (digits.filterMap Text.hexValue?).length = digits.length := by
  obtain ⟨hne, hall, hshort, hlongest⟩ := h
  match digits with
  | [] => exact absurd rfl hne
  | [a] =>
    obtain ⟨m, hm⟩ := Option.isSome_iff_exists.1 (hall a List.mem_cons_self)
    have behind := hlongest (by simp)
    cases cs with
    | nil => simp [leadingHex, hm]
    | cons b cs =>
      have hb : Text.hexValue? b = none := by simpa [isHex] using behind b rfl
      simp [leadingHex, hm, hb]
  | [a, b] =>
    obtain ⟨m, hm⟩ := Option.isSome_iff_exists.1 (hall a List.mem_cons_self)
    obtain ⟨n, hn⟩ := Option.isSome_iff_exists.1
      (hall b (List.mem_cons_of_mem a List.mem_cons_self))
    simp [leadingHex, hm, hn]
  | _ :: _ :: _ :: _ =>
    simp only [List.length_cons] at hshort
    omega

/-- The decoder reads a hexadecimal escape to the end of its digits. -/
lemma escape?_hexadecimal {digits cs : List Char} (h : Digits isHex 2 digits cs) :
    escape? ('x' :: (digits ++ cs)) =
      some (Char.ofNat (numberOf 16 digits), 1 + digits.length) := by
  obtain ⟨leading, length⟩ := leadingHex_digits h
  have hne : digits.filterMap Text.hexValue? ≠ [] := by
    rw [← List.length_pos_iff, length, List.length_pos_iff]
    exact h.nonempty
  rw [escape?, leading, ← length]
  exact if_pos ⟨rfl, hne⟩

/-- A hexadecimal escape that the decoder knows is of a number of seven bits. -/
lemma numberOf_lt_of_knowsEscape {digits cs : List Char} (h : Digits isHex 2 digits cs)
    (known : knowsEscape ('x' :: (digits ++ cs)) = true) : numberOf 16 digits < 0x80 := by
  rwa [knowsEscape, if_neg (by decide), if_pos rfl, (leadingHex_digits h).1, decide_eq_true_eq]
    at known

/-- The decoder does not know hexadecimal escapes with a capital. -/
lemma knowsEscape_capital {digits cs : List Char} (h : Digits isHex 2 digits cs) :
    knowsEscape ('X' :: (digits ++ cs)) = false := by
  obtain ⟨c, more, rfl⟩ := List.exists_cons_of_ne_nil h.nonempty
  have hc : isHex c = true := h.all c List.mem_cons_self
  rw [knowsEscape, if_neg (by decide), if_neg (by decide)]
  simp [hc]

/-- The only octal escape that the decoder knows is the single zero. -/
lemma octal_eq_zero {digits cs : List Char} (h : Digits isOctal 3 digits cs)
    (known : knowsEscape (digits ++ cs) = true) : digits = ['0'] := by
  obtain ⟨c, more, rfl⟩ := List.exists_cons_of_ne_nil h.nonempty
  obtain ⟨hc, hmore⟩ := List.forall_mem_cons.1 h.all
  rw [List.cons_append, knowsEscape, if_pos hc, Bool.and_eq_true, Bool.not_eq_true', beq_iff_eq]
    at known
  obtain ⟨rfl, last⟩ := known
  cases more with
  | nil => rfl
  | cons d more =>
    have hd : isOctal d = true := hmore d List.mem_cons_self
    simp [hd] at last

/-- Where the decoder knows all escapes, the bytes of what it gives are those that are spelled. -/
lemma encode_decodeDouble {body : List Char} {bytes : List UInt8} (h : Double body bytes)
    (known : knowsEscapes body = true) :
    (decodeDouble body).flatMap String.utf8EncodeChar = bytes := by
  induction h with
  | nil => rfl
  | @plain c cs bytes hc _ _ _ _ ih =>
    rw [knowsEscapes_cons hc] at known
    rw [decodeDouble_plain fun e => absurd e hc, List.flatMap_cons, ih known]
  | @letter c d cs bytes hmem _ ih =>
    rw [knowsEscapes, Bool.and_eq_true] at known
    have hmem : (c, d) ∈ escapes := by
      rcases List.mem_cons.1 hmem with e | hmem
      · cases e
        cases known.1
      · exact hmem
    rw [decodeDouble_escape (escape?_of_mem hmem cs), List.flatMap_cons]
    exact congrArg _ (ih known.2)
  | @octal digits cs bytes hdigits _ ih =>
    obtain ⟨c, more, e⟩ := List.exists_cons_of_ne_nil hdigits.nonempty
    have first : knowsEscape (digits ++ cs) = true := by
      rw [e, List.cons_append, knowsEscapes, Bool.and_eq_true] at known
      rw [e]
      exact known.1
    have hzero : escape? ('0' :: cs) = some ('\x00', 1) := rfl
    rw [octal_eq_zero hdigits first] at known ⊢
    rw [List.singleton_append, decodeDouble_escape hzero, List.flatMap_cons]
    exact congrArg _ (ih (Bool.and_eq_true_iff.1 known).2)
  | @hexadecimal mark digits cs bytes hmark hdigits _ ih =>
    rw [knowsEscapes, Bool.and_eq_true, knowsEscapes_digits hdigits.all] at known
    obtain ⟨hknown, hcs⟩ := known
    rcases List.mem_pair.1 hmark with rfl | rfl
    · have hrest : ('x' :: (digits ++ cs)).drop (1 + digits.length) = cs := by
        rw [Nat.add_comm, List.drop_succ_cons, List.drop_left]
      rw [decodeDouble_escape (escape?_hexadecimal hdigits), hrest, List.flatMap_cons, ih hcs]
      exact congrArg (· ++ bytes) (utf8EncodeChar_ofNat (numberOf_lt_of_knowsEscape hdigits hknown))
    · rw [knowsEscape_capital hdigits] at hknown
      cases hknown
  | point =>
    rw [knowsEscapes, Bool.and_eq_true] at known
    cases known.1
  | @backslash c cs bytes hstart _ ih =>
    have hc : c ≠ '\\' := by
      rintro rfl
      cases hstart
    rw [knowsEscapes, Bool.and_eq_true] at known
    rw [decodeDouble_plain fun _ => escape?_eq_none hstart, List.flatMap_cons,
      ih (by rw [knowsEscapes_cons hc]; exact known.2)]

/-! ## Interpolation -/

/-- A character that is neither a backslash nor a dollar sign starts no interpolation. -/
lemma interpolates_cons {c : Char} (hb : c ≠ '\\') (hd : c ≠ '$') (odd : Bool) (cs : List Char) :
    interpolates odd (c :: cs) = interpolates false cs := by
  rw [interpolates.eq_def]
  split
  · cases ‹_ = _›
  · next heq =>
    cases heq
    exact absurd rfl hb
  · next heq =>
    cases heq
    exact absurd rfl hd
  · next heq =>
    cases heq
    rfl

/-- A character behind a backslash starts nothing. -/
lemma interpolates_escaped (c : Char) (cs : List Char) :
    interpolates false ('\\' :: c :: cs) = interpolates false cs := by
  rw [interpolates]
  by_cases hb : c = '\\'
  · rw [hb, interpolates]
    rfl
  · by_cases hd : c = '$'
    · rw [hd, interpolates]
      rfl
    · exact interpolates_cons hb hd _ cs

/-- A digit starts nothing. -/
lemma interpolates_digits {digits : List Char} (h : ∀ c ∈ digits, isHex c = true)
    (cs : List Char) : interpolates false (digits ++ cs) = interpolates false cs := by
  induction digits with
  | nil => rfl
  | cons c digits ih =>
    obtain ⟨hc, hdigits⟩ := List.forall_mem_cons.1 h
    rw [List.cons_append, interpolates_cons (ne_of_isHex hc).1 (ne_of_isHex hc).2, ih hdigits]

/-- Nothing is interpolated by what spells bytes. -/
lemma interpolates_eq_false {body : List Char} {bytes : List UInt8} (h : Double body bytes) :
    interpolates false body = false := by
  induction h with
  | nil => rfl
  | @plain c cs bytes hb _ hdollar _ _ ih =>
    by_cases hd : c = '$'
    · have hnext : cs.head?.any startsInterpolation = false := by
        cases cs with
        | nil => rfl
        | cons d cs =>
          have hstart := hdollar hd d rfl
          simp only [startsPart, Bool.or_eq_false_iff] at hstart
          simp [startsInterpolation, hstart]
      rw [hd, interpolates, hnext, ih]
      rfl
    · rw [interpolates_cons hb hd, ih]
  | letter _ _ ih => rw [interpolates_escaped, ih]
  | @octal digits cs bytes hdigits _ ih =>
    obtain ⟨c, more, rfl⟩ := List.exists_cons_of_ne_nil hdigits.nonempty
    rw [List.cons_append, interpolates_escaped, interpolates_digits _ cs, ih]
    exact fun d hd => isHex_of_isOctal (hdigits.all d (List.mem_cons_of_mem c hd))
  | hexadecimal _ hdigits _ ih => rw [interpolates_escaped, interpolates_digits hdigits.all, ih]
  | @point digits cs bytes _ hdigits _ _ ih =>
    rw [interpolates_escaped, interpolates_cons (by decide) (by decide),
      interpolates_digits hdigits, interpolates_cons (by decide) (by decide), ih]
  | @backslash c cs bytes hstart _ ih =>
    have hb : c ≠ '\\' := by
      rintro rfl
      cases hstart
    have hd : c ≠ '$' := by
      rintro rfl
      cases hstart
    rw [interpolates_escaped, ← interpolates_cons hb hd false, ih]

/-! ## Literals -/

/-- Each literal that spells bytes is decoded to a text, and to one of these bytes if the decoder
knows its escapes. -/
theorem decode?_of_spells {cs : List Char} {bytes : ByteArray} (h : Spells cs bytes) :
    ∃ text, decode? cs = some text ∧ (Familiar cs → (String.ofList text).toByteArray = bytes) := by
  cases h with
  | @single body text h =>
    refine ⟨text, ?_, fun _ => rfl⟩
    rw [decode?, List.dropLast_concat, if_pos rfl, decodeSingle_eq h]
  | @double body bytes h =>
    refine ⟨decodeDouble body, ?_, fun familiar => ?_⟩
    · rw [decode?, List.dropLast_concat, if_neg (by decide), interpolates_eq_false h]
      rfl
    · have known := familiar rfl
      rw [List.drop_succ_cons, List.drop_zero, List.dropLast_concat] at known
      rw [String.toByteArray_ofList, List.utf8Encode, encode_decodeDouble h known]

/-- Whether a text between quotes goes up to the quote behind it. -/
def Quoted (quote : Char) (body : List Char) : Prop :=
  Lexer.quoteLength? quote (body ++ [quote]) = some (body.length + 1)

namespace Quoted

variable {quote c : Char} {cs : List Char}

/-- The empty text can stand between quotes. -/
lemma nil (h : quote ≠ '\\') : Quoted quote [] :=
  (Lexer.quoteLength?_cons h []).trans (if_pos rfl)

/-- What is no backslash and no quote goes on a text. -/
lemma cons_iff (hb : c ≠ '\\') (hq : c ≠ quote) : Quoted quote (c :: cs) ↔ Quoted quote cs := by
  rw [Quoted, Quoted, List.cons_append, Lexer.quoteLength?_cons hb, if_neg hq,
    Option.map_eq_some_iff]
  simp

/-- A backslash takes a character with it. -/
lemma escape (h : Quoted quote cs) : Quoted quote ('\\' :: c :: cs) := by
  rw [Quoted] at h
  rw [Quoted, List.cons_append, List.cons_append, Lexer.quoteLength?, h]
  rfl

/-- A backslash that stands for itself goes on a text as well. -/
lemma backslash (hb : c ≠ '\\') (hq : c ≠ quote) (h : Quoted quote (c :: cs)) :
    Quoted quote ('\\' :: c :: cs) :=
  escape ((cons_iff hb hq).1 h)

/-- Digits can stand in front of what stands between quotes. -/
lemma digits {digits : List Char} (hdigits : ∀ c ∈ digits, isHex c = true)
    (h : Quoted '"' cs) : Quoted '"' (digits ++ cs) := by
  induction digits with
  | nil => exact h
  | cons c digits ih =>
    obtain ⟨hc, hdigits⟩ := List.forall_mem_cons.1 hdigits
    have hquote : c ≠ '"' := by
      rintro rfl
      cases hc
    exact (cons_iff (ne_of_isHex hc).1 hquote).2 (ih hdigits)

end Quoted

/-- What a single-quoted literal is spelled with can stand between its quotes. -/
lemma quoted_single {body text : List Char} (h : Single body text) : Quoted '\x27' body := by
  induction h with
  | nil => exact .nil (by decide)
  | escape _ _ ih => exact ih.escape
  | @plain c cs text hc hnext _ ih =>
    by_cases hb : c = '\\'
    · obtain ⟨d, hd, hd₁, hd₂⟩ := hnext hb
      cases cs with
      | nil => cases hd
      | cons e cs =>
        cases hd
        rw [hb]
        exact .backslash hd₁ hd₂ ih
    · exact (Quoted.cons_iff hb hc).2 ih

/-- What a double-quoted literal is spelled with can stand between its quotes. -/
lemma quoted_double {body : List Char} {bytes : List UInt8} (h : Double body bytes) :
    Quoted '"' body := by
  induction h with
  | nil => exact .nil (by decide)
  | plain hb hq _ _ _ ih => exact (Quoted.cons_iff hb hq).2 ih
  | letter _ _ ih => exact ih.escape
  | @octal digits cs bytes hdigits _ ih =>
    obtain ⟨c, more, rfl⟩ := List.exists_cons_of_ne_nil hdigits.nonempty
    have hmore : ∀ d ∈ more, isHex d = true := fun d hd =>
      isHex_of_isOctal (hdigits.all d (List.mem_cons_of_mem c hd))
    exact (ih.digits hmore).escape
  | hexadecimal _ hdigits _ ih => exact (ih.digits hdigits.all).escape
  | point _ hdigits _ _ ih =>
    have hclose := (Quoted.cons_iff (c := '\x7d') (by decide) (by decide)).2 ih
    have hopen := (Quoted.cons_iff (c := '\x7b') (by decide) (by decide)).2 (hclose.digits hdigits)
    exact hopen.escape
  | @backslash c cs bytes hstart _ ih =>
    have hne : c ≠ '\\' ∧ c ≠ '"' := by
      constructor <;>
      · rintro rfl
        cases hstart
    exact .backslash hne.1 hne.2 ih

/-- Each text that spells bytes is a literal of the grammar. -/
theorem exists_literal {cs : List Char} {bytes : ByteArray} (h : Spells cs bytes) :
    ∃ s : Grammar.StringLiteral, s.text.toList = cs := by
  obtain ⟨text, hdecode, -⟩ := decode?_of_spells h
  have hquoted : ∃ quote body, (quote = '\x27' ∨ quote = '"') ∧ cs = quote :: (body ++ [quote]) ∧
      Quoted quote body := by
    cases h with
    | single h => exact ⟨_, _, .inl rfl, rfl, quoted_single h⟩
    | double h => exact ⟨_, _, .inr rfl, rfl, quoted_double h⟩
  obtain ⟨quote, body, hquote, rfl, hbody⟩ := hquoted
  have hlength : Lexer.stringLength? (quote :: (body ++ [quote])) =
      some (quote :: (body ++ [quote])).length := by
    rw [Quoted] at hbody
    rw [Lexer.stringLength?, if_pos hquote, hbody]
    simp
  have hstands : Lexer.Stands .string (quote :: (body ++ [quote])) :=
    ⟨Lexer.next_string hlength, by simp, by simp⟩
  rw [← String.toList_ofList (l := quote :: (body ++ [quote]))] at hstands hdecode
  refine ⟨⟨⟨_, hstands⟩, String.ofList text, ?_⟩, String.toList_ofList⟩
  rw [Token.stringValue?, if_pos (Grammar.kind_token _), Grammar.text_token, hdecode]
  rfl

/-- The bytes of the value of a string literal are those that it spells. -/
lemma value_of_spells {s : Grammar.StringLiteral} {bytes : ByteArray}
    (h : Spells s.text.toList bytes) (familiar : Familiar s.text.toList) :
    s.value.toByteArray = bytes := by
  obtain ⟨text, hdecode, hbytes⟩ := decode?_of_spells h
  have hvalue := s.decodes
  rw [Token.stringValue?, if_pos (Grammar.kind_token _), Grammar.text_token, hdecode] at hvalue
  rw [← Option.some.inj hvalue]
  exact hbytes familiar

end RouteAudit.Source.Execution
