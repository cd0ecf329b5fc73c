/-!
# Spans of code points

A character class of a standard is a list of spans: runs of code points at a fixed distance from
each other.  A distance of two covers the alphabets that interleave capital and small letters.
-/

namespace RouteAudit.Text

/-- The code points `first`, `first + step`, `first + 2 * step`, … that do not exceed `last`. -/
structure Span where
  first : Nat
  last : Nat
  step : Nat
  deriving DecidableEq, Repr

/-- Whether a code point lies on the span. -/
def Span.has (s : Span) (n : Nat) : Bool :=
  s.first ≤ n && n ≤ s.last && (n - s.first) % s.step == 0

/-- Whether a character lies on one of the spans. -/
def Span.anyHas (spans : List Span) (c : Char) : Bool :=
  spans.any (·.has c.toNat)

end RouteAudit.Text
