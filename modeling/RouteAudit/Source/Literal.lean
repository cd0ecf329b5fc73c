import RouteAudit.Source.Token
import RouteAudit.Text.Hex

/-!
# String literals

The text that a string literal stands for.  Between single quotes a backslash escapes itself and the
quote.  Between double quotes there are more escapes, and a literal that interpolates a variable
stands for no fixed text.
-/

namespace RouteAudit.Source.Literal

open RouteAudit.Text

/-- The text between single quotes. -/
def decodeSingle : List Char → List Char
  | [] => []
  | '\\' :: '\\' :: cs => '\\' :: decodeSingle cs
  | '\\' :: '\x27' :: cs => '\x27' :: decodeSingle cs
  | c :: cs => c :: decodeSingle cs

/-- The character that a backslash and one more character stand for between double quotes. -/
def escaped? (c : Char) : Option Char :=
  if c = '\\' ∨ c = '"' ∨ c = '$' then some c
  else if c = 'n' then some '\n'
  else if c = 'r' then some '\r'
  else if c = 't' then some '\t'
  else if c = 'v' then some '\x0b'
  else if c = '0' then some '\x00'
  else if c = 'e' then some '\x1b'
  else none

/-- The values of the hexadecimal digits at the start of a text, at most two. -/
def leadingHex (cs : List Char) : List Nat :=
  ((cs.take 2).takeWhile fun c => (hexValue? c).isSome).filterMap hexValue?

/-- The character that an escape stands for, and how many characters it takes; the text follows the
backslash. -/
def escape? : List Char → Option (Char × Nat)
  | [] => none
  | c :: cs =>
    match escaped? c with
    | some d => some (d, 1)
    | none =>
      let digits := leadingHex cs
      if c = 'x' ∧ digits ≠ [] then
        some (Char.ofNat (digits.foldl (fun n d => n * 16 + d) 0), 1 + digits.length)
      else none

/-- The text between double quotes, after the first `used` characters, which belong to an escape
before.  A backslash that starts no escape stands for itself. -/
def decodeDoubleFrom (used : Nat) : List Char → List Char
  | [] => []
  | c :: cs =>
    match used with
    | used + 1 => decodeDoubleFrom used cs
    | 0 =>
      match if c = '\\' then escape? cs else none with
      | some (d, used) => d :: decodeDoubleFrom used cs
      | none => c :: decodeDoubleFrom 0 cs

/-- The text between double quotes. -/
def decodeDouble (cs : List Char) : List Char :=
  decodeDoubleFrom 0 cs

/-- Whether a character after a dollar sign makes an interpolation. -/
def startsInterpolation (c : Char) : Bool :=
  c.isAlpha || c == '_' || c == '\x7b'

/-- Whether a text between double quotes interpolates a variable; `odd` tells whether an odd number
of backslashes stands directly before the text, in which case they escape its first character. -/
def interpolates (odd : Bool) : List Char → Bool
  | [] => false
  | '\\' :: cs => interpolates (!odd) cs
  | '$' :: cs => (!odd && cs.head?.any startsInterpolation) || interpolates false cs
  | _ :: cs => interpolates false cs

/-- The text of a literal with its quotes, if it is fixed. -/
def decode? : List Char → Option (List Char)
  | [] => none
  | quote :: cs =>
    let body := cs.dropLast
    if quote = '\x27' then some (decodeSingle body)
    else if interpolates false body then none
    else some (decodeDouble body)

end Literal

/-- The text that a token stands for, if it is a string literal and its text is fixed. -/
def Token.stringValue? (t : Token) : Option String :=
  if t.kind = .string then (Literal.decode? t.text.toList).map String.ofList else none

end RouteAudit.Source
