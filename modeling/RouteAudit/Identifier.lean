import RouteAudit.Source.ClassName
import RouteAudit.Text.Letter
import RouteAudit.Text.Lowercase
import RouteAudit.Text.Trim

/-!
# Identifiers in routes

The identifiers of controllers and actions are made from the names of classes and methods: words of
a camel-case name are written in lower case with hyphens between them.  A word starts at a capital
letter.  In a run of capitals only the first starts a word, and the last if a small letter follows.
-/

namespace RouteAudit.Identifier

open RouteAudit.Text

/-- What the name of a controller class ends with. -/
def controllerSuffix : String := "Controller"

/-- What the name of an action method starts with. -/
def actionStart : String := "action"

/-- Whether a text starts with a small letter. -/
def startsSmall : List Char → Bool
  | c :: _ => isSmall c
  | [] => false

/-- The name with a hyphen before each word; `afterCapital` tells whether a capital letter stands
directly before. -/
def hyphenate (afterCapital : Bool) : List Char → List Char
  | [] => []
  | c :: cs =>
    if isCapital c then
      if !afterCapital || startsSmall cs then '-' :: c :: hyphenate true cs
      else c :: hyphenate true cs
    else c :: hyphenate false cs

/-- The identifier that a camel-case name is written as. -/
def ofName (name : String) : String :=
  trim (· == '-') (lower (String.ofList (hyphenate false name.toList)))

/-- The identifier of a controller class. -/
def ofController (className : String) : String :=
  let name := Source.ClassName.short className
  ofName (if endsWith name controllerSuffix then dropLast controllerSuffix.length name else name)

/-- The identifier of an action method. -/
def ofAction (method : String) : String :=
  ofName (if startsWith method actionStart then dropFirst actionStart.length method else method)

/-- Whether a method is an action by its name.  The method that lists the actions of other classes
is none. -/
def isAction (method : String) : Bool :=
  startsWith method actionStart && method != actionStart && method != actionStart ++ "s"

end RouteAudit.Identifier
