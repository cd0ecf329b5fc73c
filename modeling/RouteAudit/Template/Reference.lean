import RouteAudit.Text.Utf8

/-!
# References in templates

A template refers to a route by `actionInput` with a literal: the word, an opening parenthesis,
possibly blanks, and a quoted text that is not empty.  References are found in the bytes of a
template, so that their lines are exact whatever its encoding.
-/

namespace RouteAudit

/-- A reference to a route, with the line of the literal. -/
structure Reference where
  route : String
  file : String
  line : Int
  deriving DecidableEq, Repr

namespace Reference

/-- What stands before the literal. -/
def mark : List UInt8 :=
  Text.Utf8.encode "actionInput("

/-- Whether a byte is a blank. -/
def isBlankByte (b : UInt8) : Bool :=
  b == 32 || (9 ≤ b && b ≤ 13)

/-- Whether a byte is a quote. -/
def isQuoteByte (b : UInt8) : Bool :=
  b == 34 || b == 39

/-- The reference that starts here: the number of bytes before the literal, and the literal. -/
def literal? (bytes : List UInt8) : Option (Nat × List UInt8) :=
  if mark.isPrefixOf bytes then
    let tail := bytes.drop mark.length
    let blanks := (tail.takeWhile isBlankByte).length
    match tail.drop blanks with
    | [] => none
    | quote :: rest =>
      let text := rest.takeWhile (· != quote)
      if isQuoteByte quote && !text.isEmpty && text.length < rest.length then
        some (mark.length + blanks + 1, text)
      else none
  else none

/-- The number of line ends. -/
def lineEnds (bytes : List UInt8) : Nat :=
  bytes.count 10

/-- The references after the first `used` bytes, which belong to a reference before; the first byte
is on the given line. -/
def scan (file : String) (line used : Nat) : List UInt8 → List Reference
  | [] => []
  | b :: bytes =>
    let next := line + lineEnds [b]
    match used with
    | used + 1 => scan file next used bytes
    | 0 =>
      match literal? (b :: bytes) with
      | none => scan file next 0 bytes
      | some (front, text) =>
        { route := String.ofList (Text.Utf8.decodeLossy text), file,
          line := (line + lineEnds ((b :: bytes).take front) : Nat) } ::
          scan file next (front + text.length) bytes

/-- The references of a template, in order. -/
def extract (file : String) (content : List UInt8) : List Reference :=
  scan file 1 0 content

end Reference

end RouteAudit
