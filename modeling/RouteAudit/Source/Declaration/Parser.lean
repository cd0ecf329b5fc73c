import RouteAudit.Source.Declaration

/-!
# Reading class declarations

A source is read for its class-like declarations.  Bodies, parameter lists, attributes and values
are skipped as bracketed groups, so they may hold anything.  Modifiers count for the declaration or
member that they stand before.
-/

namespace RouteAudit.Source.Declaration

open Token (Rest skipTo unread)

/-- Reads the names after `use` in a class, up to a semicolon or past a block in braces. -/
def readTraits (scope : NameScope) : List Token → List String × List Token
  | [] => ([], [])
  | t :: ts =>
    if t.kind = .name then
      let (names, rest) := readTraits scope ts
      (scope.resolve t.text :: names, rest)
    else if t.isOp [";"] then ([], ts)
    else if t.isOp ["\x7b"] then ([], Token.skipGroup (t :: ts))
    else readTraits scope ts

/-- The name that a token is, if it is one. -/
def nameOf? (t : Token) : Option String :=
  if t.kind = .name then some t.text else none

/-- Reads the name after `function`, which a mark for references may precede. -/
def readMethodName : List Token → Option String × List Token
  | [] => (none, [])
  | t :: ts =>
    if t.isOp ["&"] then
      match ts with
      | [] => (none, [])
      | name :: ts => (nameOf? name, ts)
    else (nameOf? t, ts)

/-- The value at the start of the tokens, if it is a single string literal. -/
def literal? : List Token → Option String
  | value :: after :: _ => if after.isOp [",", ";"] then value.stringValue? else none
  | _ => none

/-- Reads the default of a property, known if it is a single string literal. -/
def readDefault (ts : List Token) : Option String × Rest ts :=
  match ts with
  | [] => (none, unread [])
  | t :: ts =>
    if t.isOp ["="] then
      match skipTo [",", ";"] ts with
      | ⟨r, hr⟩ => (literal? ts, ⟨r, Nat.le_succ_of_le hr⟩)
    else (none, unread (t :: ts))

/-- The reader of trait names leaves no more tokens than it finds. -/
theorem length_readTraits_le (scope : NameScope) (ts : List Token) :
    (readTraits scope ts).2.length ≤ ts.length := by
  induction ts with
  | nil => simp [readTraits]
  | cons t ts ih =>
    have := Token.length_skipGroup_lt t ts
    simp only [readTraits]
    split
    · simp only [List.length_cons]; omega
    · split
      · simp
      · split
        · exact Nat.le_of_lt this
        · simp only [List.length_cons]; omega

/-- The reader of method names leaves no more tokens than it finds. -/
theorem length_readMethodName_le (ts : List Token) :
    (readMethodName ts).2.length ≤ ts.length := by
  unfold readMethodName
  split
  · simp
  · split
    · split
      · simp
      · simp only [List.length_cons]; omega
    · simp

/-- Reads a list of properties, of which the first has the given name. -/
def readProperties (name : String) (ts : List Token) : List (String × Option String) × Rest ts :=
  match readDefault ts with
  | (default, ⟨r, hr⟩) =>
    match r with
    | [] => ([(name, default)], ⟨[], by simp⟩)
    | t :: r =>
      have hr : r.length + 1 ≤ ts.length := hr
      if t.isOp [","] then
        match r with
        | [] => ([(name, default)], ⟨[], by simp⟩)
        | next :: r =>
          have hr : r.length + 2 ≤ ts.length := hr
          if next.kind = .variable then
            match readProperties (Text.dropFirst 1 next.text) r with
            | (properties, ⟨r', hr'⟩) => ((name, default) :: properties, ⟨r', by omega⟩)
          else ([(name, default)], ⟨r, by omega⟩)
      else if t.isOp [";"] then ([(name, default)], ⟨r, by omega⟩)
      else ([(name, default)], ⟨Token.skipPast [";"] r, by
        have := Token.length_skipPast_le [";"] r; omega⟩)
  termination_by ts.length

/-- Reads the members of a class up to its closing brace; `hidden` tells whether a modifier came
that keeps the next method from the outside. -/
def readMembers (scope : NameScope) (hidden : Bool) (m : Members) (ts : List Token) :
    Members × List Token :=
  match ts with
  | [] => (m, [])
  | t :: ts =>
    if t.isOp ["\x7d"] then (m, ts)
    else if t.isOp ["#[", "\x7b"] then
      have := Token.length_skipGroup_lt t ts
      readMembers scope hidden m (Token.skipGroup (t :: ts))
    else if t.isKeyword ["use"] then
      have := length_readTraits_le scope ts
      readMembers scope false { m with traits := m.traits ++ (readTraits scope ts).1 }
        (readTraits scope ts).2
    else if t.isKeyword ["function"] then
      have := length_readMethodName_le ts
      have := Token.length_skipBody_le (readMethodName ts).2
      let methods := (readMethodName ts).1.toList.map fun name => ⟨name, hidden⟩
      readMembers scope false { m with methods := m.methods ++ methods }
        (Token.skipBody (readMethodName ts).2)
    else if t.isKeyword ["const", "case"] then
      have := Token.length_skipPast_le [";"] ts
      readMembers scope false m (Token.skipPast [";"] ts)
    else if t.kind = .variable then
      match readProperties (Text.dropFirst 1 t.text) ts with
      | (properties, ⟨r, _hr⟩) =>
        readMembers scope false { m with properties := m.properties ++ properties } r
    else readMembers scope (hidden || t.isKeyword ["private", "protected"]) m ts
  termination_by ts.length
  decreasing_by all_goals simp_all <;> omega

/-- Reads up to the brace that opens the body: the parent, which only a class has. -/
def readHeader (scope : NameScope) (kind : ClassKind) (parent : Option String) :
    List Token → Option String × List Token
  | [] => (parent, [])
  | t :: ts =>
    if t.isOp ["\x7b"] then (parent, ts)
    else if t.isKeyword ["extends"] && kind == .class then
      match ts with
      | [] => (parent, [])
      | ref :: ts =>
        let parent := if ref.kind = .name then some (scope.resolve ref.text) else parent
        readHeader scope kind parent ts
    else readHeader scope kind parent ts

/-- The reader of headers leaves no more tokens than it finds. -/
theorem length_readHeader_le (scope : NameScope) (kind : ClassKind) (parent : Option String)
    (ts : List Token) : (readHeader scope kind parent ts).2.length ≤ ts.length := by
  fun_induction readHeader scope kind parent ts <;> simp_all <;> omega

/-- The reader of members leaves no more tokens than it finds. -/
theorem length_readMembers_le (scope : NameScope) (hidden : Bool) (m : Members)
    (ts : List Token) : (readMembers scope hidden m ts).2.length ≤ ts.length := by
  fun_induction readMembers scope hidden m ts <;> simp_all <;> omega

/-- Reads a class from behind its name. -/
def readOne (scope : NameScope) (kind : ClassKind) (isAbstract : Bool) (name : String)
    (ts : List Token) : ClassText × List Token :=
  let (parent, body) := readHeader scope kind none ts
  let (members, rest) := readMembers scope false {} body
  ({ name := scope.qualify name, kind, isAbstract, parent, members }, rest)

/-- The reader of one declaration leaves no more tokens than it finds. -/
theorem length_readOne_le (scope : NameScope) (kind : ClassKind) (isAbstract : Bool)
    (name : String) (ts : List Token) :
    (readOne scope kind isAbstract name ts).2.length ≤ ts.length := by
  have h₁ := length_readHeader_le scope kind none ts
  have h₂ := length_readMembers_le scope false {} (readHeader scope kind none ts).2
  simp only [readOne]
  omega

/-- The kind of declaration that a keyword announces. -/
def kindOf? (t : Token) : Option ClassKind :=
  if t.kind = .name then ClassKind.ofWord? (Text.lower t.text) else none

/-- Whether a token can be the name of a declaration. -/
def isSimpleName (t : Token) : Bool :=
  t.kind == .name && !t.text.contains '\\'

/-- Whether a class keyword after this token belongs to an expression. -/
def startsExpression (t : Token) : Bool :=
  t.isOp ["::"] || t.isKeyword ["new"]

/-- The kind and name of the declaration that a keyword opens, if it does. -/
def opening? (inExpression : Bool) (t : Token) (ts : List Token) : Option (ClassKind × String) :=
  match kindOf? t, ts with
  | some kind, name :: _ =>
    if !inExpression && isSimpleName name then some (kind, name.text) else none
  | _, _ => none

/-- Reads the classes of a source.  `isAbstract` tells whether the modifier came that makes the next
class abstract, and `inExpression` whether the token before starts an expression. -/
def readAll (scope : NameScope) (isAbstract inExpression : Bool) (ts : List Token) :
    List ClassText :=
  match ts with
  | [] => []
  | t :: ts =>
    if t.isKeyword ["namespace"] then
      match ts with
      | [] => []
      | name :: ts =>
        if name.kind = .name then
          readAll (.entering name.text) false (startsExpression name) ts
        else readAll (.entering "") false false (name :: ts)
    else if t.isKeyword ["use"] then
      have := UseClause.length_read_le scope ts
      readAll (UseClause.read scope ts).1 isAbstract false (UseClause.read scope ts).2
    else if t.isKeyword ["abstract", "final", "readonly"] then
      readAll scope (isAbstract || t.isKeyword ["abstract"]) false ts
    else
      match opening? inExpression t ts with
      | some (kind, name) =>
        have := length_readOne_le scope kind isAbstract name (ts.drop 1)
        (readOne scope kind isAbstract name (ts.drop 1)).1 ::
          readAll scope false false (readOne scope kind isAbstract name (ts.drop 1)).2
      | none =>
        if t.isKeyword ["function"] then
          have := Token.length_skipBody_le ts
          readAll scope false false (Token.skipBody ts)
        else if t.isOp ["#["] then
          have := Token.length_skipGroup_lt t ts
          readAll scope isAbstract false (Token.skipGroup (t :: ts))
        else readAll scope false (startsExpression t) ts
  termination_by ts.length
  decreasing_by all_goals simp_all <;> omega

/-- The texts of the classes of a source, in order. -/
def texts (source : List Char) : List ClassText :=
  readAll {} false false (Token.scan source)

/-- The class-like declarations of a source, in order. -/
def parse (path : Option Path) (source : List Char) : List Declaration :=
  (texts source).map (·.declaration path)

end RouteAudit.Source.Declaration
