import RouteAudit.Assoc
import RouteAudit.Files.Path
import RouteAudit.Text.Digit
import RouteAudit.Text.Numeral

/-!
# Values

What an expression of a PHP configuration file evaluates to.  An expression whose value cannot be
known without running the program is `unresolved`; a reader treats it like a missing entry.

An array whose elements have no keys is a list, any other is a map in which an element without a key
takes the next free index.
-/

namespace RouteAudit.Source

/-- The key of an array element. -/
inductive Key where
  | index (n : Nat)
  | text (s : String)
  deriving DecidableEq, Repr

/-- A value, as far as it is known. -/
inductive Value where
  | unresolved
  | null
  | bool (b : Bool)
  | integer (n : Nat)
  | double (bits : UInt64)
  | text (s : String)
  | list (items : List Value)
  | keyed (entries : List (Key × Value))
  deriving Inhabited, Repr

/-- Why a source has no value at all. -/
inductive Fault where
  /-- An integer of more digits than the limit is turned into text or read from text. -/
  | overlong
  /-- There is no statement that returns a value. -/
  | noReturn (file : Option Path)
  deriving DecidableEq, Repr

namespace Fault

/-- What a message says about a source without a value. -/
def noReturnText : String := "no top-level return statement"

/-- The message of a fault. -/
def message : Fault → String
  | .overlong => "too many digits in an integer"
  | .noReturn none => noReturnText
  | .noReturn (some file) => file.toString ++ ": " ++ noReturnText

end Fault

/-- The decimal digits of an integer, unless there are more than the limit. -/
def decimalText (n : Nat) : Except Fault String :=
  if Nat.pow 10 Text.digitLimit ≤ n then .error .overlong else .ok (Nat.repr n)

namespace Key

/-- Whether a text is the decimal form of an index, without leading zeros. -/
def isIndexText (cs : List Char) : Bool :=
  cs == ['0'] || (cs.all Char.isDigit && !cs.isEmpty && cs.head? != some '0')

/-- The key that a value stands for, if it can be a key.  A text that is the decimal form of an
index stands for that index. -/
def ofValue? : Value → Except Fault (Option Key)
  | .bool b => .ok (some (.index b.toNat))
  | .integer n => .ok (some (.index n))
  | .text s =>
    let cs := s.toList
    if isIndexText cs then
      if Text.digitLimit < cs.length then .error .overlong
      else .ok (some (.index (Text.Numeral.ofDigits 10 (cs.filterMap Text.digitValue?))))
    else .ok (some (.text s))
  | _ => .ok none

end Key

namespace Value

/-- The concatenation of two values, known if both are texts or integers. -/
def concat : Value → Value → Except Fault Value
  | .text s, .text t => .ok (.text (s ++ t))
  | .text s, .integer n => do return .text (s ++ (← decimalText n))
  | .integer m, .text t => do return .text ((← decimalText m) ++ t)
  | .integer m, .integer n => do return .text ((← decimalText m) ++ (← decimalText n))
  | _, _ => .ok .unresolved

/-- The number of levels that a value asks for; what is no number asks for none. -/
def levelCount : Value → Nat
  | .integer n => n
  | .bool b => b.toNat
  | _ => 0

/-- The directory of a path some levels up, known if the path is a text and the levels are a
positive number. -/
def directory (path levels : Value) : Value :=
  match path with
  | .text s =>
    if levels.levelCount = 0 then .unresolved
    else .text (Nat.repeat Path.directoryText levels.levelCount s)
  | _ => .unresolved

end Value

/-- An array under construction. -/
structure ArrayBuilder where
  entries : Assoc Key Value := []
  /-- The index of the next element without a key. -/
  next : Nat := 0
  /-- Whether an element with a key came. -/
  isKeyed : Bool := false

namespace ArrayBuilder

/-- Adds an element without a key. -/
def push (b : ArrayBuilder) (v : Value) : ArrayBuilder :=
  { b with entries := b.entries.insert (.index b.next) v, next := b.next + 1 }

/-- Adds an element with a key, if the key can be one. -/
def insert (b : ArrayBuilder) (key? : Option Key) (v : Value) : ArrayBuilder :=
  let b := { b with isKeyed := true }
  match key? with
  | none => b
  | some key =>
    let next := match key with
      | .index n => max b.next (n + 1)
      | .text _ => b.next
    { b with entries := b.entries.insert key v, next }

/-- The finished array. -/
def build (b : ArrayBuilder) : Value :=
  if b.isKeyed then .keyed b.entries else .list b.entries.values

end ArrayBuilder

end RouteAudit.Source
