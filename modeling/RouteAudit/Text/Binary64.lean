/-!
# Binary floating-point numbers

The double nearest to a decimal number, as its 64 bits.  All is done on exact fractions; a tie goes
to the even neighbour, and what lies beyond the largest finite double becomes infinity.
-/

namespace RouteAudit.Text.Binary64

/-- The bits of positive infinity. -/
def infinity : UInt64 := 0x7FF0000000000000

/-- The quotient nearest to `num / den`, a tie going to the even neighbour. -/
def roundDiv (num den : Nat) : Nat :=
  let q := num / den
  let r := num % den
  if 2 * r < den ∨ (2 * r = den ∧ q % 2 = 0) then q else q + 1

/-- The fraction `num / den / 2 ^ e`, as numerator and denominator. -/
def scale (num den : Nat) (e : Int) : Nat × Nat :=
  if e < 0 then (num <<< e.natAbs, den) else (num, den <<< e.natAbs)

/-- The exponent at which `num / den` has a significand of 53 bits, but at least the least exponent
there is. -/
def exponent (num den : Nat) : Int :=
  let guess : Int := num.log2 - den.log2 - 52
  let (n, d) := scale num den guess
  let exact := if n < d <<< 52 then guess - 1 else guess
  max exact (-1074)

/-- The double nearest to the positive fraction `num / den`. -/
def ofFraction (num den : Nat) : UInt64 :=
  let e := exponent num den
  let (n, d) := scale num den e
  let significand := roundDiv n d
  let word := (e + 1074).toNat <<< 52 + significand
  if word < infinity.toNat then UInt64.ofNat word else infinity

/-- The double nearest to `digits * 10 ^ shift`, where `digits` has `count` decimal digits.  The two
shortcuts keep the powers of ten small and change no result. -/
def ofDecimal (digits count : Nat) (shift : Int) : UInt64 :=
  if digits = 0 then 0
  else if shift > 400 then infinity
  else if shift + count < -400 then 0
  else if shift < 0 then ofFraction digits (Nat.pow 10 shift.natAbs)
  else ofFraction (digits * Nat.pow 10 shift.natAbs) 1

end RouteAudit.Text.Binary64
