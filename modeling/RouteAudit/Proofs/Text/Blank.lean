import Mathlib
import RouteAudit.Text.Blank
import RouteAudit.Text.Digit
import RouteAudit.Text.Word
import RouteAudit.Proofs.Text.Span

/-!
# Blank characters

There are few blank characters, and none of them has a part in a name or in a number.
-/

namespace RouteAudit.Text

/-- The code points of the blank characters. -/
def blankPoints : List Nat :=
  [0x9, 0xA, 0xB, 0xC, 0xD, 0x1C, 0x1D, 0x1E, 0x1F, 0x20, 0x85, 0xA0, 0x1680, 0x2000, 0x2001,
   0x2002, 0x2003, 0x2004, 0x2005, 0x2006, 0x2007, 0x2008, 0x2009, 0x200A, 0x2028, 0x2029, 0x202F,
   0x205F, 0x3000]

/-- The numbers from the first code point of a span to the last one. -/
def Span.points (s : Span) : List Nat :=
  List.range' s.first (s.last + 1 - s.first)

/-- A number of a span is one of its points. -/
lemma Span.mem_points {s : Span} {n : Nat} (h : s.has n = true) : n ∈ s.points := by
  obtain ⟨low, high, -⟩ := has_iff.1 h
  rw [points, List.mem_range'_1]
  omega

/-- The points of the spans of blanks. -/
lemma points_blankSpans : blankSpans.flatMap Span.points = blankPoints := by
  decide

/-- A blank is one of the points. -/
lemma mem_blankPoints {b : Char} (hb : isBlank b = true) : b.toNat ∈ blankPoints := by
  obtain ⟨s, hs, has⟩ := List.any_eq_true.1 hb
  rw [← points_blankSpans]
  exact List.mem_flatMap.2 ⟨s, hs, Span.mem_points has⟩

/-- What holds of every listed point holds of every blank. -/
lemma of_isBlank {p : Char → Bool} (h : ∀ n ∈ blankPoints, p (Char.ofNat n) = false) {b : Char}
    (hb : isBlank b = true) : p b = false := by
  have hp := h _ (mem_blankPoints hb)
  rwa [Char.ofNat_toNat] at hp

/-- No blank is a letter or digit. -/
lemma blankSpans_miss_alphanumeric : Span.missTable 88 blankSpans alphanumericSpans = true := by
  decide +kernel

/-- A blank is of no word. -/
lemma isWord_of_isBlank {b : Char} (hb : isBlank b = true) : isWord b = false := by
  have ascii : (b.isAlphanum || b == '_') = false :=
    of_isBlank (p := fun b => b.isAlphanum || b == '_') (by decide +kernel) hb
  rw [Bool.or_eq_false_iff] at ascii
  rw [isWord, isAlphanumeric, ascii.2, Bool.or_false]
  split
  · exact ascii.1
  · exact Span.anyHas_eq_false blankSpans_miss_alphanumeric hb

/-- A blank starts no name. -/
lemma isNameStart_of_isBlank {b : Char} (hb : isBlank b = true) : isNameStart b = false :=
  of_isBlank (by decide +kernel) hb

/-- A blank is no digit. -/
lemma isDecimal_of_isBlank {b : Char} (hb : isBlank b = true) : isDecimal b = false :=
  of_isBlank (by decide +kernel) hb

/-- A blank is no character that is not blank. -/
lemma ne_of_isBlank {b c : Char} (hb : isBlank b = true) (hc : isBlank c = false) : b ≠ c := by
  rintro rfl
  rw [hb] at hc
  exact absurd hc (by decide)

end RouteAudit.Text
