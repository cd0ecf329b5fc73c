import RouteAudit.Text.Span

/-!
# Blank characters

The characters that count as white space between tokens and around option values: those that the
standard calls white space, and the four separators below the space.
-/

namespace RouteAudit.Text

/-- The blank characters. -/
def blankSpans : List Span :=
  [⟨0x9, 0xD, 1⟩, ⟨0x1C, 0x20, 1⟩, ⟨0x85, 0x85, 1⟩, ⟨0xA0, 0xA0, 1⟩, ⟨0x1680, 0x1680, 1⟩,
   ⟨0x2000, 0x200A, 1⟩, ⟨0x2028, 0x2029, 1⟩, ⟨0x202F, 0x202F, 1⟩, ⟨0x205F, 0x205F, 1⟩,
   ⟨0x3000, 0x3000, 1⟩]

/-- Whether a character is blank. -/
def isBlank (c : Char) : Bool :=
  Span.anyHas blankSpans c

end RouteAudit.Text
