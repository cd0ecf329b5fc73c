import RouteAudit.Text.Trim

/-!
# Paths

A path is a list of names, absolute or relative to the working directory.  Empty names and single
points say nothing and are left out; double points stay, since what they mean depends on links.  Two
leading slashes are kept apart from one.
-/

namespace RouteAudit

/-- A path in normal form. -/
structure Path where
  /-- The number of leading slashes: none, one or two. -/
  slashes : Nat := 0
  parts : List String := []
  deriving DecidableEq, Repr

namespace Path

/-- The names in a text between slashes. -/
def names (s : String) : List String :=
  (Text.split '/' s).filter fun name => name != "" && name != "."

/-- The path that a text denotes. -/
def ofString (s : String) : Path :=
  let slashes := (s.toList.takeWhile (· == '/')).length
  { slashes := if slashes ≤ 2 then slashes else 1, parts := names s }

/-- The text of a path; the empty relative path is written as a point. -/
def toString (p : Path) : String :=
  if p.slashes = 0 ∧ p.parts = [] then "."
  else String.ofList (List.replicate p.slashes '/') ++ "/".intercalate p.parts

/-- A path is written with slashes. -/
instance : ToString Path := ⟨toString⟩

/-- Whether the path does not depend on the working directory. -/
def isAbsolute (p : Path) : Bool :=
  p.slashes != 0

/-- The path reached from `p` along `q`; an absolute `q` starts anew. -/
def join (p q : Path) : Path :=
  if q.isAbsolute then q else { p with parts := p.parts ++ q.parts }

/-- The path of an entry of a directory. -/
def child (p : Path) (name : String) : Path :=
  { p with parts := p.parts ++ [name] }

/-- The path without its last name. -/
def parent (p : Path) : Path :=
  { p with parts := p.parts.dropLast }

/-- The last name of a path. -/
def name (p : Path) : String :=
  p.parts.getLast?.getD ""

/-- The last point of a name with what follows, unless the point is the first or the last
character. -/
def extensionOf (name : String) : String :=
  match Text.beforeLast? '.' name with
  | none => ""
  | some stem =>
    let tail := Text.afterLast '.' name
    if stem.isEmpty || tail.isEmpty then "" else "." ++ tail

/-- The extension of the last name. -/
def extension (p : Path) : String :=
  extensionOf p.name

/-- The part of a text before its last slash, without slashes at its end unless it has nothing else.
This is a rule on texts: no name is looked at. -/
def directoryText (s : String) : String :=
  let front := s.toList.reverse.dropWhile (· != '/')
  let cut := front.dropWhile (· == '/')
  String.ofList (if cut.isEmpty then front else cut.reverse)

end Path

end RouteAudit
