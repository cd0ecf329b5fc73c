import RouteAudit.Text.Hex
import RouteAudit.Text.Printable

/-!
# Quoted text in messages

A message quotes a user's text so that it stays on one line and can be told from its surroundings.
Single quotes stand around it, unless the text holds a single quote and no double quote.
-/

namespace RouteAudit.Text.Quoted

/-- The written form of one character between the given quotes. -/
def escape (quote c : Char) : List Char :=
  if c = quote ∨ c = '\\' then ['\\', c]
  else if c = '\n' then ['\\', 'n']
  else if c = '\r' then ['\\', 'r']
  else if c = '\t' then ['\\', 't']
  else if isPrintable c then [c]
  else if c.toNat < 0x100 then '\\' :: 'x' :: hexDigits 2 c.toNat
  else if c.toNat < 0x10000 then '\\' :: 'u' :: hexDigits 4 c.toNat
  else '\\' :: 'U' :: hexDigits 8 c.toNat

/-- The quotes that stand around a text. -/
def quoteFor (cs : List Char) : Char :=
  if cs.contains '\x27' && !cs.contains '"' then '"' else '\x27'

/-- The text in quotes. -/
def encode (s : String) : String :=
  let quote := quoteFor s.toList
  String.ofList (quote :: s.toList.flatMap (escape quote) ++ [quote])

end RouteAudit.Text.Quoted
