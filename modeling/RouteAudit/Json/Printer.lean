import RouteAudit.Json.Basic
import RouteAudit.Text.Hex

/-!
# Writing JSON

Documents are written in ASCII: any other character is written as the escape of its UTF-16 units.
There are two layouts, on one line and with one item a line.
-/

namespace RouteAudit.Json

/-- The escape of a UTF-16 unit. -/
def unitEscape (n : Nat) : List Char :=
  '\\' :: 'u' :: Text.hexDigits 4 n

/-- The written form of a character in a string. -/
def escape (c : Char) : List Char :=
  if c = '"' then ['\\', '"']
  else if c = '\\' then ['\\', '\\']
  else if c = '\n' then ['\\', 'n']
  else if c = '\r' then ['\\', 'r']
  else if c = '\t' then ['\\', 't']
  else if c = '\x0c' then ['\\', 'f']
  else if c = '\x08' then ['\\', 'b']
  else if 0x20 ≤ c.toNat ∧ c.toNat < 0x7F then [c]
  else if c.toNat < 0x10000 then unitEscape c.toNat
  else
    unitEscape (0xD800 + (c.toNat - 0x10000) / 0x400) ++
      unitEscape (0xDC00 + (c.toNat - 0x10000) % 0x400)

/-- The written form of a string. -/
def quote (s : String) : List Char :=
  '"' :: s.toList.flatMap escape ++ ['"']

/-- How a document is laid out. -/
structure Layout where
  /-- What stands between an opening bracket and the first item, and between the last item and the
  closing bracket, at a depth of nesting. -/
  lineBreak : Nat → List Char
  /-- What follows a comma, at a depth of nesting. -/
  afterComma : Nat → List Char
  /-- What follows a colon. -/
  afterColon : List Char

/-- The layout on one line. -/
def Layout.line : Layout :=
  { lineBreak := fun _ => [], afterComma := fun _ => [], afterColon := [] }

/-- A new line at a depth of nesting, with two spaces for each level. -/
def newLine (depth : Nat) : List Char :=
  '\n' :: List.replicate (2 * depth) ' '

/-- The layout with one item a line. -/
def Layout.block : Layout :=
  { lineBreak := newLine, afterComma := newLine, afterColon := [' '] }

mutual

/-- The written form of a document inside `depth` brackets. -/
def write (layout : Layout) (depth : Nat) : Json → List Char
  | .null => "null".toList
  | .bool true => "true".toList
  | .bool false => "false".toList
  | .integer n => (toString n).toList
  | .decimal literal => literal.toList
  | .string s => quote s
  | .array [] => "[]".toList
  | .array (item :: items) =>
    '[' :: layout.lineBreak (depth + 1) ++ write layout (depth + 1) item ++
      writeItems layout (depth + 1) items ++ layout.lineBreak depth ++ [']']
  | .object [] => ['\x7b', '\x7d']
  | .object ((name, value) :: members) =>
    '\x7b' :: layout.lineBreak (depth + 1) ++ quote name ++ ':' :: layout.afterColon ++
      write layout (depth + 1) value ++ writeMembers layout (depth + 1) members ++
      layout.lineBreak depth ++ ['\x7d']

/-- The written form of the items after the first. -/
def writeItems (layout : Layout) (depth : Nat) : List Json → List Char
  | [] => []
  | item :: items =>
    ',' :: layout.afterComma depth ++ write layout depth item ++ writeItems layout depth items

/-- The written form of the members after the first. -/
def writeMembers (layout : Layout) (depth : Nat) : List (String × Json) → List Char
  | [] => []
  | (name, value) :: members =>
    ',' :: layout.afterComma depth ++ quote name ++ ':' :: layout.afterColon ++
      write layout depth value ++ writeMembers layout depth members

end

/-- The document on one line. -/
def compact (j : Json) : String :=
  String.ofList (write .line 0 j)

/-- The document with one item a line. -/
def pretty (j : Json) : String :=
  String.ofList (write .block 0 j)

end RouteAudit.Json
