import RouteAudit.Files.Path
import RouteAudit.Source.Literal
import RouteAudit.Source.Token.Lexer
import RouteAudit.Source.UseClause

/-!
# Class declarations

The classes, traits, interfaces and enums that a source declares.  A declaration lists the members
written in it; what is inherited is another matter.

The text of a class names all its methods.  A declaration is what the other classes see of the text:
it lists only the methods that are neither private nor protected.
-/

namespace RouteAudit.Source

/-- The kinds of class-like declaration. -/
inductive ClassKind where
  | «class»
  | trait
  | interface
  | enum
  deriving DecidableEq, Repr

namespace ClassKind

/-- The kind that a lower-case keyword announces. -/
def ofWord? (word : String) : Option ClassKind :=
  if word = "class" then some .class
  else if word = "trait" then some .trait
  else if word = "interface" then some .interface
  else if word = "enum" then some .enum
  else none

/-- The keyword of a kind. -/
def word : ClassKind → String
  | .class => "class"
  | .trait => "trait"
  | .interface => "interface"
  | .enum => "enum"

end ClassKind

/-- A class-like declaration. -/
structure Declaration where
  name : String
  kind : ClassKind
  isAbstract : Bool := false
  parent : Option String := none
  traits : List String := []
  /-- The names of the methods that are neither private nor protected. -/
  methods : List String := []
  /-- The properties with their defaults, where a default is known only if it is a string. -/
  properties : List (String × Option String) := []
  path : Option Path := none
  deriving DecidableEq, Repr

namespace Declaration

/-- The default of a property declared here; the inner option tells whether it is a string. -/
def default? (d : Declaration) (property : String) : Option (Option String) :=
  (d.properties.find? (·.1 == property)).map (·.2)

/-- The name without regard to case. -/
def key (d : Declaration) : String :=
  Text.lower d.name

end Declaration

/-- A method as it is written. -/
structure Method where
  name : String
  /-- Whether the method is private or protected. -/
  isHidden : Bool
  deriving DecidableEq, Repr

/-- The members of a class as they are written. -/
structure Members where
  traits : List String := []
  methods : List Method := []
  properties : List (String × Option String) := []
  deriving DecidableEq, Repr

/-- The names of the methods that can be called from outside. -/
def Members.shown (m : Members) : List String :=
  (m.methods.filter fun method => !method.isHidden).map (·.name)

/-- A class-like declaration as it is written. -/
structure ClassText where
  name : String
  kind : ClassKind
  isAbstract : Bool := false
  parent : Option String := none
  members : Members := {}
  deriving DecidableEq, Repr

/-- What the text of a class declares; `path` is the file that holds the text. -/
def ClassText.declaration (path : Option Path) (c : ClassText) : Declaration :=
  { name := c.name, kind := c.kind, isAbstract := c.isAbstract, parent := c.parent,
    traits := c.members.traits, methods := c.members.shown, properties := c.members.properties,
    path }

end RouteAudit.Source
