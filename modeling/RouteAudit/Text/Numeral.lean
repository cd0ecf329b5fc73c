import RouteAudit.Text.Binary64
import RouteAudit.Text.Digit
import RouteAudit.Text.Hex

/-!
# Number literals

The value of a number literal.  Digits of any script count, and underscores between digits are
dropped.  A literal is an integer if it reads as one, in base ten or with a base mark; otherwise it
is a floating-point number if it reads as one.

A base-ten integer has no leading zero and at most `digitLimit` digits: a longer one reads as a
floating-point number.
-/

namespace RouteAudit.Text

/-- The value of a number literal. -/
inductive Numeral where
  | integer (n : Nat)
  | double (bits : UInt64)
  deriving DecidableEq, Repr

/-- The greatest number of decimal digits in a conversion between text and integer. -/
def digitLimit : Nat := 4300

namespace Numeral

/-- The number that a list of digit values stands for in a base. -/
def ofDigits (base : Nat) (digits : List Nat) : Nat :=
  digits.foldl (fun n d => n * base + d) 0

/-- The values of the characters as digits of a base, if all are and there is one. -/
def digitsIn? (base : Nat) (cs : List Char) : Option (List Nat) :=
  if cs.isEmpty then none
  else cs.mapM fun c => (hexValue? c).filter (· < base)

/-- The literal with every digit as an ASCII digit and without underscores.  Of the other characters
beyond ASCII none has a place in a number, and they are written as a question mark. -/
def plain (cs : List Char) : List Char :=
  (cs.filter (· != '_')).map fun c =>
    match digitValue? c with
    | some d => Char.ofNat ('0'.toNat + d)
    | none => if c.toNat < 0x80 then c else '?'

/-- The value of a base-ten integer. -/
def decimal? (cs : List Char) : Option Nat := do
  let digits ← digitsIn? 10 cs
  if digitLimit < digits.length then none
  else if digits.head? = some 0 ∧ digits.any (· != 0) then none
  else some (ofDigits 10 digits)

/-- The base that a mark after a leading zero stands for. -/
def markedBase? (mark : Char) : Option Nat :=
  if mark = 'x' ∨ mark = 'X' then some 16
  else if mark = 'o' ∨ mark = 'O' then some 8
  else if mark = 'b' ∨ mark = 'B' then some 2
  else none

/-- The value of an integer in any base. -/
def integer? (cs : List Char) : Option Nat :=
  match cs with
  | '0' :: mark :: digits =>
    match markedBase? mark with
    | some base => (digitsIn? base digits).map (ofDigits base)
    | none => decimal? cs
  | _ => decimal? cs

/-- The value of a number with a fraction or an exponent. -/
def double? (cs : List Char) : Option UInt64 := do
  let whole := cs.takeWhile Char.isDigit
  let afterWhole := cs.dropWhile Char.isDigit
  let (fraction, afterFraction) := match afterWhole with
    | '.' :: r => (r.takeWhile Char.isDigit, r.dropWhile Char.isDigit)
    | r => ([], r)
  let digits ← digitsIn? 10 (whole ++ fraction)
  let exponent ← match afterFraction with
    | [] => some 0
    | e :: r => if e = 'e' ∨ e = 'E' then (digitsIn? 10 r).map (ofDigits 10) else none
  let significant := digits.dropWhile (· == 0)
  some (Binary64.ofDecimal (ofDigits 10 significant) significant.length
    ((exponent : Int) - fraction.length))

/-- The value of a number literal, if it has one. -/
def read? (literal : String) : Option Numeral :=
  let cs := plain literal.toList
  match integer? cs with
  | some n => some (.integer n)
  | none => (double? cs).map .double

end Numeral

end RouteAudit.Text
