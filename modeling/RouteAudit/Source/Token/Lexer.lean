import RouteAudit.Source.Token
import RouteAudit.Text.Blank
import RouteAudit.Text.Digit
import RouteAudit.Text.Word

/-!
# Splitting a source into tokens

At each place of the source the first class of lexeme that fits there decides how many characters
it takes; a character that fits no class is a token by itself, so nothing is lost.  The functions of
this file answer with the number of characters, not with the characters, so that text and rest of
the source are always cut from the source itself.
-/

namespace RouteAudit.Source

open RouteAudit.Text

/-- What a stretch of source is: layout, which no reader sees, or a token. -/
inductive Lexeme where
  | comment
  | tag
  | blank
  | token (kind : TokenKind)
  deriving DecidableEq, Repr

namespace Lexer

/-- The number of characters before the end of the line. -/
def lineLength (cs : List Char) : Nat :=
  (cs.takeWhile (· != '\n')).length

/-- The number of characters up to and with the end of a block comment. -/
def blockLength? : List Char → Option Nat
  | [] => none
  | '*' :: '/' :: _ => some 2
  | _ :: cs => (blockLength? cs).map (· + 1)

/-- A comment: to the end of the line after `//` or `#`, or a terminated block.  `#[` is no
comment. -/
def commentLength? : List Char → Option Nat
  | '/' :: '/' :: cs => some (2 + lineLength cs)
  | '/' :: '*' :: cs => (blockLength? cs).map (· + 2)
  | '#' :: '[' :: _ => none
  | '#' :: cs => some (1 + lineLength cs)
  | _ => none

/-- A tag that separates code from its surroundings. -/
def tagLength? : List Char → Option Nat
  | '<' :: '?' :: 'p' :: 'h' :: 'p' :: _ => some 5
  | '<' :: '?' :: '=' :: _ => some 3
  | '<' :: '?' :: _ => some 2
  | '?' :: '>' :: _ => some 2
  | _ => none

/-- Whether a character indents a line. -/
def isIndent (c : Char) : Bool :=
  c == ' ' || c == '\t'

/-- Whether a word starts here, in the sense that it would go on the word before it. -/
def startsWord : List Char → Bool
  | c :: _ => isWord c
  | [] => false

/-- The number of characters up to and with the label that ends a heredoc, if the label is the first
word of the line. -/
def closing? (label cs : List Char) : Option Nat :=
  let indent := (cs.takeWhile isIndent).length
  let back := cs.drop indent
  if label.isPrefixOf back && !startsWord (back.drop label.length) then
    some (indent + label.length)
  else none

/-- The number of characters up to and with the closing label, the nearest on a line of its own. -/
def bodyLength? (label : List Char) : List Char → Option Nat
  | [] => none
  | c :: cs =>
    match if c = '\n' then closing? label cs else none with
    | some n => some (n + 1)
    | none => (bodyLength? label cs).map (· + 1)

/-- The number of characters of a line end. -/
def lineEnd? : List Char → Option Nat
  | '\r' :: '\n' :: _ => some 2
  | '\n' :: _ => some 1
  | _ => none

/-- The quote in front of a heredoc's label. -/
def labelQuote : List Char → List Char
  | c :: _ => if c = '\x27' ∨ c = '"' then [c] else []
  | [] => []

/-- The label at the start of a text. -/
def label : List Char → List Char
  | c :: cs => if isNameStart c then c :: cs.takeWhile isWord else []
  | [] => []

/-- A heredoc: its opening label, possibly in quotes, the end of that line, and the text up to the
closing label. -/
def heredocLength? : List Char → Option Nat
  | '<' :: '<' :: '<' :: cs => do
    let indent := (cs.takeWhile isIndent).length
    let quote := labelQuote (cs.drop indent)
    let front := indent + quote.length
    let word := label (cs.drop front)
    if word.isEmpty then none
    else
      let back := cs.drop (front + word.length)
      if quote.isPrefixOf back then
        let head := front + word.length + quote.length
        let eol ← lineEnd? (cs.drop head)
        let body ← bodyLength? word (cs.drop (head + eol))
        some (3 + head + eol + body)
      else none
  | _ => none

/-- The number of characters up to and with the closing quote.  A backslash takes the next character
with it. -/
def quoteLength? (quote : Char) : List Char → Option Nat
  | [] => none
  | '\\' :: [] => none
  | '\\' :: _ :: cs => (quoteLength? quote cs).map (· + 2)
  | c :: cs => if c = quote then some 1 else (quoteLength? quote cs).map (· + 1)

/-- A terminated string literal. -/
def stringLength? : List Char → Option Nat
  | c :: cs =>
    if c = '\x27' ∨ c = '"' then (quoteLength? c cs).map (· + 1) else none
  | [] => none

/-- A variable. -/
def variableLength? : List Char → Option Nat
  | '$' :: c :: cs =>
    if isNameStart c then some (2 + (cs.takeWhile isWord).length) else none
  | _ => none

/-- The number of characters that go on a name: word characters, and a backslash before the start of
a further segment. -/
def nameTail : List Char → Nat
  | [] => 0
  | '\\' :: [] => 0
  | '\\' :: c :: cs => if isNameStart c then 2 + nameTail cs else 0
  | c :: cs => if isWord c then 1 + nameTail cs else 0

/-- A name: segments between single backslashes, of which one may lead. -/
def nameLength? : List Char → Option Nat
  | '\\' :: c :: cs => if isNameStart c then some (2 + nameTail cs) else none
  | c :: cs => if isNameStart c then some (1 + nameTail cs) else none
  | [] => none

/-- A number: a digit, then word characters and points. -/
def numberLength? : List Char → Option Nat
  | c :: cs =>
    if isDecimal c then some (1 + (cs.takeWhile fun d => isWord d || d == '.').length) else none
  | [] => none

/-- The operators of one character. -/
def singleOps : List Char :=
  ['\x7b', '\x7d', '(', ')', '[', ']', ';', ',', '=', '.', '?', ':', '&', '|', '!', '<', '>', '+',
   '-', '*', '/', '%', '@', '^', '~']

/-- An operator; the longer ones come first. -/
def opLength? : List Char → Option Nat
  | '#' :: '[' :: _ => some 2
  | '?' :: '-' :: '>' :: _ => some 3
  | ':' :: ':' :: _ => some 2
  | '=' :: '>' :: _ => some 2
  | '-' :: '>' :: _ => some 2
  | '?' :: '?' :: _ => some 2
  | '?' :: ':' :: _ => some 2
  | '.' :: '.' :: '.' :: _ => some 3
  | c :: _ => if singleOps.contains c then some 1 else none
  | [] => none

/-- A run of blanks. -/
def blankLength? : List Char → Option Nat
  | c :: cs => if isBlank c then some (1 + (cs.takeWhile isBlank).length) else none
  | [] => none

/-- The classes of lexeme in the order in which they are tried. -/
def classes : List (Lexeme × (List Char → Option Nat)) :=
  [(.comment, commentLength?), (.tag, tagLength?), (.token .heredoc, heredocLength?),
   (.token .string, stringLength?), (.token .variable, variableLength?),
   (.token .name, nameLength?), (.token .number, numberLength?), (.token .op, opLength?),
   (.blank, blankLength?)]

/-- The lexeme at the start of a text that is not empty, and its number of characters. -/
def next (cs : List Char) : Lexeme × Nat :=
  (classes.findSome? fun (lexeme, length?) => (length? cs).map (lexeme, ·)).getD (.token .other, 1)

/-- The lexemes of a text with their characters, after the first `used` characters, which belong to
a lexeme before; the first character stands at `offset`. -/
def lexemes (offset used : Nat) : List Char → List (Lexeme × Nat × List Char)
  | [] => []
  | c :: cs =>
    match used with
    | used + 1 => lexemes (offset + 1) used cs
    | 0 =>
      let (lexeme, length) := next (c :: cs)
      (lexeme, offset, c :: cs.take (length - 1)) :: lexemes (offset + 1) (length - 1) cs

/-- The token that a lexeme is, if it is one. -/
def token? : Lexeme × Nat × List Char → Option Token
  | (.token kind, offset, cs) => some ⟨kind, String.ofList cs, offset⟩
  | _ => none

end Lexer

/-- The significant tokens of a source, in order. -/
def Token.scan (source : List Char) : List Token :=
  (Lexer.lexemes 0 0 source).filterMap Lexer.token?

end RouteAudit.Source
