import RouteAudit.Text.Lowercase

/-!
# Tokens

The significant tokens of a PHP source: what is left when comments, blanks and the tags around the
code are dropped.  Keywords are names, compared without regard to case.  Brackets are operators.
-/

namespace RouteAudit.Source

/-- The kinds of token.  A heredoc is opaque, and `other` is a character with no role of its own. -/
inductive TokenKind where
  | string
  | variable
  | name
  | number
  | op
  | heredoc
  | other
  deriving DecidableEq, Repr

/-- A token with its text and the number of characters before it. -/
structure Token where
  kind : TokenKind
  text : String
  offset : Nat
  deriving DecidableEq, Repr

namespace Token

/-- Whether the token is one of the given operators. -/
def isOp (t : Token) (ops : List String) : Bool :=
  t.kind == .op && ops.contains t.text

/-- Whether the token is one of the given keywords, in any case. -/
def isKeyword (t : Token) (words : List String) : Bool :=
  t.kind == .name && words.contains (Text.lower t.text)

/-- Whether the token opens a bracketed group. -/
def opens (t : Token) : Bool :=
  t.isOp ["(", "[", "\x7b", "#["]

/-- Whether the token closes a bracketed group. -/
def closes (t : Token) : Bool :=
  t.isOp [")", "]", "\x7d"]

end Token

end RouteAudit.Source
