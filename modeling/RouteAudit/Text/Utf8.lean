/-!
# UTF-8

Reading bytes as characters.  A maximal ill-formed part, that is, the longest start of a character
that the next byte does not continue, counts as one unreadable character.  The strict reader refuses
a text that has one and the lossy reader writes a replacement character for each.
-/

namespace RouteAudit.Text.Utf8

/-- What the first byte of a character announces. -/
structure Lead where
  /-- The bits of the code point that the first byte carries. -/
  bits : Nat
  /-- The number of bytes that follow. -/
  tails : Nat
  /-- The least second byte. -/
  low : Nat := 0x80
  /-- The greatest second byte. -/
  high : Nat := 0xBF

/-- The announcement of a first byte.  The bounds of the second byte leave out the forms that are
longer than needed, the surrogates, and what lies beyond the last code point. -/
def lead? (b : Nat) : Option Lead :=
  if b < 0x80 then some { bits := b, tails := 0 }
  else if b < 0xC2 then none
  else if b < 0xE0 then some { bits := b - 0xC0, tails := 1 }
  else if b = 0xE0 then some { bits := 0, tails := 2, low := 0xA0 }
  else if b = 0xED then some { bits := 0xD, tails := 2, high := 0x9F }
  else if b < 0xF0 then some { bits := b - 0xE0, tails := 2 }
  else if b = 0xF0 then some { bits := 0, tails := 3, low := 0x90 }
  else if b < 0xF4 then some { bits := b - 0xF0, tails := 3 }
  else if b = 0xF4 then some { bits := 4, tails := 3, high := 0x8F }
  else none

/-- Reads `n` following bytes: the code point, if all are there, and how many bytes were used. -/
def readTails (bits low high : Nat) : Nat → List UInt8 → Option Nat × Nat
  | 0, _ => (some bits, 0)
  | _ + 1, [] => (none, 0)
  | n + 1, b :: bs =>
    if low ≤ b.toNat ∧ b.toNat ≤ high then
      let (point, used) := readTails (bits * 64 + (b.toNat - 0x80)) 0x80 0xBF n bs
      (point, used + 1)
    else (none, 0)

/-- The characters of a byte sequence, with `none` for each unreadable part, after the first `used`
bytes, which belong to a character before. -/
def charactersFrom (used : Nat) : List UInt8 → List (Option Char)
  | [] => []
  | b :: bs =>
    match used with
    | used + 1 => charactersFrom used bs
    | 0 =>
      match lead? b.toNat with
      | none => none :: charactersFrom 0 bs
      | some lead =>
        let (point, used) := readTails lead.bits lead.low lead.high lead.tails bs
        point.map Char.ofNat :: charactersFrom used bs

/-- The characters of a byte sequence, with `none` for each unreadable part. -/
def characters (bytes : List UInt8) : List (Option Char) :=
  charactersFrom 0 bytes

/-- The text, if every part of it is readable. -/
def decode? (bytes : List UInt8) : Option (List Char) :=
  (characters bytes).mapM id

/-- The text, with a replacement character for each unreadable part. -/
def decodeLossy (bytes : List UInt8) : List Char :=
  (characters bytes).map (·.getD '\uFFFD')

/-- The bytes of a text. -/
def encode (s : String) : List UInt8 :=
  s.toUTF8.toList

end RouteAudit.Text.Utf8
