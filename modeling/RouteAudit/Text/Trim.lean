/-!
# Trimming and cutting

Removing unwanted characters at the ends of a text, and cutting a text at a separator.
-/

namespace RouteAudit.Text

/-- A list without its unwanted elements at both ends. -/
def trimList (drop : Char → Bool) (cs : List Char) : List Char :=
  ((cs.dropWhile drop).reverse.dropWhile drop).reverse

/-- A text without its unwanted characters at both ends. -/
def trim (drop : Char → Bool) (s : String) : String :=
  String.ofList (trimList drop s.toList)

/-- A text without its unwanted characters at the start. -/
def trimStart (drop : Char → Bool) (s : String) : String :=
  String.ofList (s.toList.dropWhile drop)

/-- The part after the last separator, or the whole text if there is none. -/
def afterLast (sep : Char) (s : String) : String :=
  String.ofList (s.toList.reverse.takeWhile (· != sep)).reverse

/-- The part before the last separator, if there is one. -/
def beforeLast? (sep : Char) (s : String) : Option String :=
  match s.toList.reverse.dropWhile (· != sep) with
  | [] => none
  | _ :: front => some (String.ofList front.reverse)

/-- The parts before and after the first separator, if there is one. -/
def cut? (sep : Char) (s : String) : Option (String × String) :=
  match s.toList.dropWhile (· != sep) with
  | [] => none
  | _ :: back => some (String.ofList (s.toList.takeWhile (· != sep)), String.ofList back)

/-- The pieces between separators; one more than there are separators. -/
def splitList (sep : Char) : List Char → List (List Char)
  | [] => [[]]
  | c :: cs =>
    if c = sep then [] :: splitList sep cs
    else match splitList sep cs with
      | [] => [[c]]
      | piece :: pieces => (c :: piece) :: pieces

/-- The pieces of a text between separators. -/
def split (sep : Char) (s : String) : List String :=
  (splitList sep s.toList).map String.ofList

/-- A text with one character in place of another. -/
def replaceChar (old new : Char) (s : String) : String :=
  String.ofList (s.toList.map fun c => if c = old then new else c)

/-- Whether a text starts with another. -/
def startsWith (s start : String) : Bool :=
  start.toList.isPrefixOf s.toList

/-- Whether a text ends with another. -/
def endsWith (s tail : String) : Bool :=
  tail.toList.isSuffixOf s.toList

/-- The text without its first `n` characters. -/
def dropFirst (n : Nat) (s : String) : String :=
  String.ofList (s.toList.drop n)

/-- The text without its last `n` characters. -/
def dropLast (n : Nat) (s : String) : String :=
  String.ofList (s.toList.take (s.length - n))

end RouteAudit.Text
