import RouteAudit.Json.Basic
import RouteAudit.Text.Hex
import RouteAudit.Text.Numeral

/-!
# Reading JSON

The whole text has to be one document.  The literals `NaN`, `Infinity` and `-Infinity` are taken as
numbers.  A member that comes again takes the place of the first one.  An integer has at most
`limit` digits; in the documents of a project, `limit` is `Text.digitLimit`.

A string may hold one half of a pair of UTF-16 units, which is no character.  It is replaced, and
whoever puts out a text from such a document has to know that there is one (`writesHalf`).

Each reader returns the text that it leaves and a proof that this is shorter than what it got.
-/

namespace RouteAudit.Json

/-- The text that a reader leaves, shorter than what it got. -/
abbrev Left (cs : List Char) := { r : List Char // r.length < cs.length }

/-- Whether a character may stand between the parts of a document. -/
def isSpace (c : Char) : Bool :=
  c == ' ' || c == '\t' || c == '\n' || c == '\r'

/-- The text without blanks at its start. -/
def skipSpace (cs : List Char) : { r : List Char // r.length ≤ cs.length } :=
  ⟨cs.dropWhile isSpace, (List.dropWhile_suffix isSpace).length_le⟩

/-- The value of four hexadecimal digits. -/
def hex4? (a b c d : Char) : Option Nat := do
  let digits ← [a, b, c, d].mapM Text.hexValue?
  return Text.Numeral.ofDigits 16 digits

/-- The character that a letter after a backslash stands for. -/
def unescape? (c : Char) : Option Char :=
  if c = '"' ∨ c = '\\' ∨ c = '/' then some c
  else if c = 'n' then some '\n'
  else if c = 'r' then some '\r'
  else if c = 't' then some '\t'
  else if c = 'f' then some '\x0c'
  else if c = 'b' then some '\x08'
  else none

/-- Whether a number is the first half of a pair of units. -/
def isHigh (n : Nat) : Bool :=
  0xD800 ≤ n && n < 0xDC00

/-- Whether a number is the second half of a pair of units. -/
def isLow (n : Nat) : Bool :=
  0xDC00 ≤ n && n < 0xE000

/-- The character of a unit without a partner.  A half is replaced. -/
def joinUnit (n : Nat) : Char :=
  if isHigh n || isLow n then '\uFFFD' else Char.ofNat n

/-- The characters of a text in which a character beyond the first 65536 may be two UTF-16 units. -/
def joinUnits : List Nat → List Char
  | [] => []
  | [n] => [joinUnit n]
  | n :: m :: rest =>
    if isHigh n && isLow m then
      Char.ofNat (0x10000 + (n - 0xD800) * 0x400 + (m - 0xDC00)) :: joinUnits rest
    else joinUnit n :: joinUnits (m :: rest)

/-- Whether each half of a pair of units stands beside the other half. -/
def isPaired : List Nat → Bool
  | [] => true
  | [n] => !(isHigh n || isLow n)
  | n :: m :: rest =>
    if isHigh n && isLow m then isPaired rest
    else !(isHigh n || isLow n) && isPaired (m :: rest)

/-- The units of a document, with those that are written as escapes. -/
def unitsOf : List Char → List Nat
  | [] => []
  | '\\' :: 'u' :: a :: b :: c :: d :: cs => (hex4? a b c d).getD 0 :: unitsOf cs
  | '\\' :: c :: cs => c.toNat :: unitsOf cs
  | c :: cs => c.toNat :: unitsOf cs

/-- Whether a string of a document holds half of a character. -/
def writesHalf (cs : List Char) : Bool :=
  !isPaired (unitsOf cs)

/-- Reads the units of a string up to and with its closing quote. -/
def readUnits : (cs : List Char) → Option (List Nat × Left cs)
  | [] => none
  | '"' :: cs => some ([], ⟨cs, by simp⟩)
  | '\\' :: 'u' :: a :: b :: c :: d :: cs =>
    match hex4? a b c d with
    | none => none
    | some n =>
      match readUnits cs with
      | none => none
      | some (units, ⟨r, hr⟩) =>
        some (n :: units, ⟨r, by simp only [List.length_cons]; omega⟩)
  | '\\' :: c :: cs =>
    match unescape? c with
    | none => none
    | some d =>
      match readUnits cs with
      | none => none
      | some (units, ⟨r, hr⟩) =>
        some (d.toNat :: units, ⟨r, by simp only [List.length_cons]; omega⟩)
  | c :: cs =>
    if c.toNat < 0x20 ∨ c = '\\' then none
    else
      match readUnits cs with
      | none => none
      | some (units, ⟨r, hr⟩) =>
        some (c.toNat :: units, ⟨r, by simp only [List.length_cons]; omega⟩)

/-- Reads a string from behind its opening quote. -/
def readString (cs : List Char) : Option (String × Left cs) :=
  match readUnits cs with
  | none => none
  | some (units, r) => some (String.ofList (joinUnits units), r)

/-- The number of characters of a whole number without a sign. -/
def wholeLength? : List Char → Option Nat
  | [] => none
  | '0' :: _ => some 1
  | c :: cs => if c.isDigit then some (1 + (cs.takeWhile Char.isDigit).length) else none

/-- The number of characters of a fraction, which may be missing. -/
def fractionLength : List Char → Nat
  | '.' :: c :: cs => if c.isDigit then 2 + (cs.takeWhile Char.isDigit).length else 0
  | _ => 0

/-- The number of characters of an exponent, which may be missing. -/
def exponentLength : List Char → Nat
  | e :: cs =>
    if e = 'e' ∨ e = 'E' then
      let sign := if cs.head? = some '+' ∨ cs.head? = some '-' then 1 else 0
      let digits := ((cs.drop sign).takeWhile Char.isDigit).length
      if digits = 0 then 0 else 1 + sign + digits
    else 0
  | [] => 0

/-- A number at the start of a text, and how many characters it takes. -/
def number? (limit : Nat) (cs : List Char) : Option (Json × Nat) := do
  let sign := if cs.head? = some '-' then 1 else 0
  let whole ← wholeLength? (cs.drop sign)
  let fraction := fractionLength (cs.drop (sign + whole))
  let exponent := exponentLength (cs.drop (sign + whole + fraction))
  let length := sign + whole + fraction + exponent
  if fraction + exponent = 0 then
    if limit < whole then none
    else
      let digits := ((cs.drop sign).take whole).filterMap Text.hexValue?
      let n : Int := Text.Numeral.ofDigits 10 digits
      some (.integer (if sign = 1 then -n else n), length)
  else some (.decimal (String.ofList (cs.take length)), length)

/-- The named values. -/
def words : List (List Char × Json) :=
  [("null".toList, .null), ("true".toList, .bool true), ("false".toList, .bool false),
   ("NaN".toList, .decimal "NaN"), ("Infinity".toList, .decimal "Infinity"),
   ("-Infinity".toList, .decimal "-Infinity")]

/-- A named value or a number at the start of a text, and how many characters it takes. -/
def scalar? (limit : Nat) (cs : List Char) : Option (Json × Nat) :=
  match words.find? (·.1.isPrefixOf cs) with
  | some (word, value) => some (value, word.length)
  | none => number? limit cs

/-- Reads a named value or a number. -/
def readScalar (limit : Nat) (cs : List Char) : Option (Json × Left cs) :=
  match scalar? limit cs with
  | none => none
  | some (value, length) =>
    if h : 0 < length ∧ 0 < cs.length then
      some (value, ⟨cs.drop length, by simp only [List.length_drop]; omega⟩)
    else none

mutual

/-- Reads a value. -/
def readValue (limit : Nat) (cs : List Char) : Option (Json × Left cs) :=
  match cs with
  | [] => none
  | c :: cs =>
    if c = '"' then
      match readString cs with
      | none => none
      | some (s, ⟨r, hr⟩) => some (.string s, ⟨r, by simp only [List.length_cons]; omega⟩)
    else if c = '[' then
      match skipSpace cs with
      | ⟨r, hr⟩ =>
        match r with
        | [] => none
        | d :: r =>
          have hr : r.length + 1 ≤ cs.length := hr
          if d = ']' then some (.array [], ⟨r, by simp only [List.length_cons]; omega⟩)
          else
            match readItems limit (d :: r) with
            | none => none
            | some (items, ⟨r', hr'⟩) =>
              some (.array items, ⟨r', by simp only [List.length_cons] at hr' ⊢; omega⟩)
    else if c = '\x7b' then
      match skipSpace cs with
      | ⟨r, hr⟩ =>
        match r with
        | [] => none
        | d :: r =>
          have hr : r.length + 1 ≤ cs.length := hr
          if d = '\x7d' then some (.object [], ⟨r, by simp only [List.length_cons]; omega⟩)
          else
            match readMembers limit [] (d :: r) with
            | none => none
            | some (members, ⟨r', hr'⟩) =>
              some (.object members, ⟨r', by simp only [List.length_cons] at hr' ⊢; omega⟩)
    else readScalar limit (c :: cs)
  termination_by 2 * cs.length

/-- Reads the items of an array up to its closing bracket. -/
def readItems (limit : Nat) (cs : List Char) : Option (List Json × Left cs) :=
  match readValue limit cs with
  | none => none
  | some (item, ⟨r, hr⟩) =>
    match skipSpace r with
    | ⟨r, hr'⟩ =>
      match r with
      | [] => none
      | d :: r =>
        have hr' : r.length + 1 < cs.length := by simp only [List.length_cons] at hr'; omega
        if d = ']' then some ([item], ⟨r, by omega⟩)
        else if d = ',' then
          match skipSpace r with
          | ⟨r, hr''⟩ =>
            match readItems limit r with
            | none => none
            | some (items, ⟨r', hr'''⟩) => some (item :: items, ⟨r', by omega⟩)
        else none
  termination_by 2 * cs.length + 1

/-- Reads the members of an object up to its closing brace, after those that came before. -/
def readMembers (limit : Nat) (before : Assoc String Json) (cs : List Char) :
    Option (Assoc String Json × Left cs) :=
  match cs with
  | [] => none
  | c :: cs =>
    if c = '"' then
      match readString cs with
      | none => none
      | some (name, ⟨r, hr⟩) =>
        match skipSpace r with
        | ⟨r, hr'⟩ =>
          match r with
          | [] => none
          | d :: r =>
            have hr' : r.length + 1 < cs.length := by
              simp only [List.length_cons] at hr'; omega
            if d = ':' then
              match skipSpace r with
              | ⟨r, hs⟩ =>
                match readValue limit r with
                | none => none
                | some (value, ⟨r, hv⟩) =>
                  match skipSpace r with
                  | ⟨r, ht⟩ =>
                    match r with
                    | [] => none
                    | e :: r =>
                      have ht : r.length + 2 < cs.length := by
                        simp only [List.length_cons] at ht; omega
                      if e = '\x7d' then
                        some (Assoc.insert name value before, ⟨r, by
                          simp only [List.length_cons]; omega⟩)
                      else if e = ',' then
                        match skipSpace r with
                        | ⟨r, hu⟩ =>
                          match readMembers limit (Assoc.insert name value before) r with
                          | none => none
                          | some (members, ⟨r', hr''⟩) =>
                            some (members, ⟨r', by simp only [List.length_cons]; omega⟩)
                      else none
            else none
    else none
  termination_by 2 * cs.length

end

/-- The document that a text is, if no integer in it has more than `limit` digits. -/
def parseWithin? (limit : Nat) (cs : List Char) : Option Json :=
  match readValue limit (skipSpace cs).val with
  | none => none
  | some (value, ⟨r, _⟩) => if (skipSpace r).val.isEmpty then some value else none

/-- The document that a text is. -/
def parse? (cs : List Char) : Option Json :=
  parseWithin? Text.digitLimit cs

end RouteAudit.Json
