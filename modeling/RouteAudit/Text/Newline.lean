/-!
# Line ends

A line of a source file may end in a line feed, a carriage return, or both in that order.  Where a
text is taken apart into lines, further characters end a line.
-/

namespace RouteAudit.Text

/-- The text with every line end written as a line feed. -/
def unifyNewlines : List Char → List Char
  | [] => []
  | '\r' :: '\n' :: cs => '\n' :: unifyNewlines cs
  | '\r' :: cs => '\n' :: unifyNewlines cs
  | c :: cs => c :: unifyNewlines cs

/-- Whether a character ends a line. -/
def endsLine (c : Char) : Bool :=
  c ∈ ['\n', '\x0b', '\x0c', '\r', '\x1c', '\x1d', '\x1e', '\u0085', '\u2028', '\u2029']

/-- The first line of a text. -/
def firstLine (s : String) : String :=
  String.ofList (s.toList.takeWhile fun c => !endsLine c)

end RouteAudit.Text
