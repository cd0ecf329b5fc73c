import RouteAudit.Proofs.Source.Grammar.Member
import RouteAudit.Proofs.Source.Grammar.UseStatement

/-!
# Class files

The grammar of class files: namespaces, class imports, functions, and classes of every kind.  The
reader of declarations reads each file of the grammar back (`parse_classFile`): it finds exactly the
classes of the file, in their order, each with what is written in it.

The proof follows the grammar.  Behind each part of a file the reader is where it would be had the
part not been there, with no modifier pending; only the scope has changed.
-/

namespace RouteAudit.Source.Grammar
open Token Declaration

/-! ## The grammar -/

/-- The modifiers of classes. -/
def classModifiers : List String :=
  ["abstract", "final", "readonly"]

/-- What a declaration has behind its name, depending on its kind. -/
inductive Ancestry : ClassKind → Type where
  | root {kind : ClassKind} : Ancestry kind
  | parent (keyword : Keyword "extends") (name : Name) : Ancestry .class
  | parents (keyword : Keyword "extends") (first : Name) (more : List Name) : Ancestry .interface
  /-- The type of the values of an enum. -/
  | backing (type : TypeText) : Ancestry .enum

/-- The interfaces that a declaration implements. -/
structure Interfaces where
  keyword : Keyword "implements"
  first : NoneOf ["extends"]
  more : List (NoneOf ["extends"])

/-- A class, trait, interface or enum. -/
structure ClassDecl where
  marks : List (Mark classModifiers)
  kind : ClassKind
  keyword : Keyword kind.word
  name : Name
  isSimple : '\\' ∉ name.text.toList
  ancestry : Ancestry kind
  interfaces? : Option Interfaces
  members : List Member

/-- A function outside of classes. -/
structure FunctionDecl where
  attributes : List Balanced
  keyword : Keyword "function"
  byReference : Bool
  name : Name
  signature : Signature

/-- A statement of a namespace. -/
inductive Statement where
  | imports (clause : Imports)
  | function (f : FunctionDecl)
  | class (c : ClassDecl)

/-- The start of a namespace, which goes on to the next one or has braces around it. -/
inductive Heading where
  | line (keyword : Keyword "namespace") (name : Name)
  | block (keyword : Keyword "namespace") (name? : Option Name)

/-- A namespace. -/
structure Space where
  heading : Heading
  statements : List Statement

/-- A class file: statements outside of namespaces, and namespaces. -/
structure ClassFile where
  front : List Statement
  spaces : List Space

/-! ## How it is written -/

/-- The tokens of what a declaration has behind its name. -/
def Ancestry.tokens {kind : ClassKind} : Ancestry kind → List Token
  | root => []
  | parent keyword name => [keyword.token, name.token]
  | parents keyword first more => keyword.token :: commas (fun name => [name.token]) first more
  | backing type => op ":" :: type.tokens

/-- The tokens of interfaces. -/
def interfaceTokens : Option Interfaces → List Token
  | none => []
  | some i => i.keyword.token :: commas (fun name => [name.token]) i.first i.more

/-- The tokens of a declaration. -/
def ClassDecl.tokens (c : ClassDecl) : List Token :=
  c.marks.flatMap Mark.tokens ++ c.keyword.token :: c.name.token ::
    (c.ancestry.tokens ++ (interfaceTokens c.interfaces? ++
      braces (c.members.flatMap Member.tokens)))

/-- The tokens of a function. -/
def FunctionDecl.tokens (f : FunctionDecl) : List Token :=
  f.attributes.flatMap attributeTokens ++ f.keyword.token ::
    (referenceTokens f.byReference ++ f.name.token :: f.signature.tokens)

/-- The tokens of a statement. -/
def Statement.tokens : Statement → List Token
  | imports clause => clause.tokens
  | function f => f.tokens
  | «class» c => c.tokens

/-- The tokens of a namespace. -/
def Space.tokens (s : Space) : List Token :=
  let statements := s.statements.flatMap Statement.tokens
  match s.heading with
  | .line keyword name => keyword.token :: name.token :: op ";" :: statements
  | .block keyword none => keyword.token :: braces statements
  | .block keyword (some name) => keyword.token :: name.token :: braces statements

/-- The tokens of a file. -/
def ClassFile.tokens (f : ClassFile) : List Token :=
  f.front.flatMap Statement.tokens ++ f.spaces.flatMap Space.tokens

/-- The source of a file. -/
def ClassFile.source (f : ClassFile) : List Char :=
  Token.render f.tokens

/-! ## What it means -/

/-- Whether a mark makes its class abstract. -/
def Mark.isAbstract : Mark classModifiers → Bool
  | attributes _ => false
  | modifier word => ["abstract"].contains (Text.lower word.text)

/-- The name of the parent, if there is one. -/
def Ancestry.parent? {kind : ClassKind} : Ancestry kind → Option Name
  | parent _ name => some name
  | _ => none

/-- The name of the method that a member is, if it can be called from outside. -/
def Member.shown (m : Member) : List String :=
  if m.isHidden then [] else m.methods

/-- What a declaration of a file declares in a scope. -/
def ClassDecl.declaration (path : Option Path) (scope : NameScope) (c : ClassDecl) :
    Declaration where
  name := scope.qualify c.name.text
  kind := c.kind
  isAbstract := c.marks.any Mark.isAbstract
  parent := c.ancestry.parent?.map (scope.resolve ·.text)
  traits := c.members.flatMap (Member.traits scope)
  methods := c.members.flatMap Member.shown
  properties := c.members.flatMap Member.properties
  path := path

/-- The scope behind a statement. -/
def Statement.enter (scope : NameScope) : Statement → NameScope
  | imports clause => clause.addTo scope
  | _ => scope

/-- The classes that some statements declare. -/
def declared (scope : NameScope) : List Statement → List (NameScope × ClassDecl)
  | [] => []
  | .class c :: statements => (scope, c) :: declared scope statements
  | s :: statements => declared (s.enter scope) statements

/-- The scope at the start of a namespace. -/
def Heading.scope : Heading → NameScope
  | line _ name => .entering name.text
  | block _ name? => .entering ((name?.map (·.text)).getD "")

/-- The classes of a file, each with its scope. -/
def ClassFile.classes (f : ClassFile) : List (NameScope × ClassDecl) :=
  declared {} f.front ++ f.spaces.flatMap fun s => declared s.heading.scope s.statements

/-- The declarations of a file. -/
def ClassFile.declarations (path : Option Path) (f : ClassFile) : List Declaration :=
  f.classes.map fun (scope, c) => c.declaration path scope

/-! ## How headers are read -/

/-- Whether the reader of headers passes a token over. -/
def Passed (kind : ClassKind) (t : Token) : Prop :=
  t.isOp ["\x7b"] = false ∧ (t.isKeyword ["extends"] && kind == .class) = false

/-- Tokens that name no parent are passed over. -/
lemma readHeader_passed {scope : NameScope} {kind : ClassKind} {parent : Option String}
    {ts : List Token} (h : ∀ t ∈ ts, Passed kind t) (rest : List Token) :
    readHeader scope kind parent (ts ++ rest) = readHeader scope kind parent rest := by
  induction ts with
  | nil => rfl
  | cons t ts ih =>
    rw [List.forall_mem_cons] at h
    rw [List.cons_append, readHeader.eq_def]
    simp only [h.1.1, h.1.2, Bool.false_eq_true, if_false]
    exact ih h.2

/-- A list is passed over if its members are. -/
lemma passed_commas {α : Type} {kind : ClassKind} {tokens : α → List Token}
    (h : ∀ a, ∀ t ∈ tokens a, Passed kind t) (first : α) (more : List α) :
    ∀ t ∈ commas tokens first more, Passed kind t := by
  induction more generalizing first with
  | nil => rw [commas_nil]; exact h first
  | cons next more ih =>
    rw [commas_cons, List.forall_mem_append, List.forall_mem_cons]
    exact ⟨h first, ⟨by simp, by simp⟩, ih next⟩

/-- Interfaces are passed over. -/
lemma passed_interfaces (kind : ClassKind) (interfaces? : Option Interfaces) :
    ∀ t ∈ interfaceTokens interfaces?, Passed kind t := by
  cases interfaces? with
  | none => simp [interfaceTokens]
  | some i =>
    have name (n : NoneOf ["extends"]) : ∀ t ∈ [n.token], Passed kind t := by
      have hn := n.notMem
      simp only [List.mem_singleton] at hn
      simp [Passed, hn]
    rw [interfaceTokens, List.forall_mem_cons]
    exact ⟨by simp [Passed], passed_commas name i.first i.more⟩

/-- The header of a declaration tells its parent. -/
lemma readHeader_tokens (scope : NameScope) {kind : ClassKind} (ancestry : Ancestry kind)
    (interfaces? : Option Interfaces) (rest : List Token) :
    readHeader scope kind none
        (ancestry.tokens ++ (interfaceTokens interfaces? ++ op "\x7b" :: rest)) =
      (ancestry.parent?.map (scope.resolve ·.text), rest) := by
  have body (parent : Option String) :
      readHeader scope kind parent (interfaceTokens interfaces? ++ op "\x7b" :: rest) =
        (parent, rest) := by
    rw [readHeader_passed (passed_interfaces kind interfaces?), readHeader.eq_def]
    simp
  cases ancestry with
  | root => exact body none
  | parent keyword name =>
    rw [Ancestry.tokens, List.cons_append, List.cons_append, readHeader.eq_def]
    simpa [Ancestry.parent?] using body (some (scope.resolve name.text))
  | parents keyword first more =>
    have name (n : Name) : ∀ t ∈ [n.token], Passed .interface t := by
      simp [Passed]
    rw [readHeader_passed, body]
    · rfl
    · rw [Ancestry.tokens, List.forall_mem_cons]
      exact ⟨⟨rfl, by simp⟩, passed_commas name first more⟩
  | backing type =>
    rw [readHeader_passed, body]
    · rfl
    · rw [Ancestry.tokens, List.forall_mem_cons]
      refine ⟨⟨by simp, by simp⟩, fun t ht => ⟨?_, by simp⟩⟩
      exact isOp_eq_false_of_subset (type.hasNoBlock t ht) (by simp)

/-! ## How files are read -/

section Files

variable (scope : NameScope) (isAbstract inExpression : Bool)

/-- An operator that starts nothing is passed over, and no modifier outlives it. -/
lemma readAll_op {s : String} (hs : s ∉ ["#[", "::"]) (rest : List Token) :
    readAll scope isAbstract inExpression (op s :: rest) = readAll scope false false rest := by
  simp only [List.mem_cons, List.not_mem_nil, or_false, not_or] at hs
  rw [readAll_cons]
  simp [opening?, kindOf?, startsExpression, hs]

/-- An attribute is passed over. -/
lemma readAll_attribute (content : Balanced) (rest : List Token) :
    readAll scope isAbstract inExpression (attributeTokens content ++ rest) =
      readAll scope isAbstract false rest := by
  rw [attributeTokens, List.cons_append, List.append_assoc, List.singleton_append, readAll_cons,
    skipGroup_op (by simp) content.run (by simp)]
  simp [opening?, kindOf?]

/-- A mark only counts for the next declaration. -/
lemma readAll_mark (mark : Mark classModifiers) (rest : List Token) :
    readAll scope isAbstract inExpression (mark.tokens ++ rest) =
      readAll scope (isAbstract || mark.isAbstract) false rest := by
  cases mark with
  | attributes content => rw [Mark.tokens, readAll_attribute, Mark.isAbstract, Bool.or_false]
  | modifier word =>
    have hw : Text.lower word.text ∈ ["abstract", "final", "readonly"] := word.mem
    have other : ∀ w ∈ ["abstract", "final", "readonly"], w ∉ ["namespace", "use"] := by decide
    have ho := other _ hw
    simp only [List.mem_cons, List.not_mem_nil, or_false, not_or] at hw ho
    rw [Mark.tokens, List.singleton_append, readAll_cons]
    simp [ho, hw, Mark.isAbstract]

/-- The marks of a declaration are read one by one. -/
lemma readAll_marks (marks : List (Mark classModifiers)) (rest : List Token) :
    readAll scope isAbstract false (marks.flatMap Mark.tokens ++ rest) =
      readAll scope (isAbstract || marks.any Mark.isAbstract) false rest := by
  induction marks generalizing isAbstract with
  | nil => rw [List.flatMap_nil, List.nil_append, List.any_nil, Bool.or_false]
  | cons mark marks ih =>
    rw [List.flatMap_cons, List.append_assoc, readAll_mark, ih, List.any_cons, Bool.or_assoc]

/-- What is written in a declaration. -/
def ClassDecl.text (scope : NameScope) (c : ClassDecl) : ClassText where
  name := scope.qualify c.name.text
  kind := c.kind
  isAbstract := c.marks.any Mark.isAbstract
  parent := c.ancestry.parent?.map (scope.resolve ·.text)
  members := c.members.foldl (Member.addTo scope) {}

/-- A declaration is read up to its end. -/
lemma readAll_class (c : ClassDecl) (rest : List Token) :
    readAll scope false false (c.tokens ++ rest) =
      c.text scope :: readAll scope false false rest := by
  have hkind : ClassKind.ofWord? c.kind.word = some c.kind := by
    cases c.kind <;> rfl
  have hword : c.kind.word ∉ ["namespace", "use", "abstract", "final", "readonly"] := by
    cases c.kind <;> decide
  have hopen (ts : List Token) :
      opening? false c.keyword.token (c.name.token :: ts) = some (c.kind, c.name.text) := by
    have hsimple := c.isSimple
    simp [opening?, kindOf?, isSimpleName, hkind, hsimple]
  simp only [List.mem_cons, List.not_mem_nil, or_false, not_or] at hword
  simp only [ClassDecl.tokens, braces, List.append_assoc, List.cons_append, List.nil_append]
  rw [readAll_marks, readAll_cons, hopen]
  simp [hword, readOne, readHeader_tokens, readMembers_members, ClassDecl.text]

/-- Attributes are passed over. -/
lemma readAll_attributes (attributes : List Balanced) (rest : List Token) :
    readAll scope isAbstract false (attributes.flatMap attributeTokens ++ rest) =
      readAll scope isAbstract false rest := by
  induction attributes with
  | nil => rfl
  | cons content attributes ih =>
    rw [List.flatMap_cons, List.append_assoc, readAll_attribute, ih]

/-- A function is passed over. -/
lemma readAll_function (f : FunctionDecl) (rest : List Token) :
    readAll scope false false (f.tokens ++ rest) = readAll scope false false rest := by
  have run : Run ["\x7b", ";"]
      (referenceTokens f.byReference ++ f.name.token :: f.signature.head) := by
    have named := run_name f.name f.signature.noBlock
    cases f.byReference with
    | false => exact named
    | true => exact run_sign (by simp) (by simp) named
  have body := skipBody_block run f.signature.body? rest
  have hkind : ClassKind.ofWord? "function" = none := by decide
  simp only [FunctionDecl.tokens, Signature.tokens, List.append_assoc, List.cons_append] at body ⊢
  rw [readAll_attributes, readAll_cons]
  simp [opening?, kindOf?, hkind, body]

/-- A clause changes the scope. -/
lemma readAll_use (keyword : Keyword "use") (rest : List Token) :
    readAll scope isAbstract inExpression (keyword.token :: rest) =
      readAll (UseClause.read scope rest).1 isAbstract false (UseClause.read scope rest).2 := by
  rw [readAll_cons, if_neg (by simp), if_pos (by simp)]

/-- Some statements are read up to their end: their classes are found, and no modifier outlives
them.  What is read behind them is read in the scope that they leave. -/
lemma readAll_statements (statements : List Statement) (rest : List Token) :
    readAll scope false false (statements.flatMap Statement.tokens ++ rest) =
      (declared scope statements).map (fun (scope, c) => c.text scope) ++
        readAll (statements.foldl Statement.enter scope) false false rest := by
  induction statements generalizing scope with
  | nil => rfl
  | cons s statements ih =>
    rw [List.flatMap_cons, List.append_assoc]
    cases s with
    | imports clause =>
      rw [Statement.tokens, Imports.tokens, List.cons_append, readAll_use, read_imports, ih]
      rfl
    | function f => rw [Statement.tokens, readAll_function, ih]; rfl
    | «class» c => rw [Statement.tokens, readAll_class, ih]; rfl

end Files

/-- A namespace is read up to its end, whatever the scope before it. -/
lemma readAll_space (scope : NameScope) (s : Space) (rest : List Token) :
    ∃ scope', readAll scope false false (s.tokens ++ rest) =
      (declared s.heading.scope s.statements).map (fun (scope, c) => c.text scope) ++
        readAll scope' false false rest := by
  refine ⟨s.statements.foldl Statement.enter s.heading.scope, ?_⟩
  -- a namespace up to the next one, the nameless one in braces, and one with a name in braces
  obtain ⟨⟨keyword, name⟩ | ⟨keyword, _ | name⟩, statements⟩ := s
  all_goals
    simp only [Space.tokens, braces, List.cons_append, List.append_assoc, List.nil_append]
    rw [readAll_cons, if_pos (by simp)]
  · simp only [kind_token, text_token, if_true]
    rw [readAll_op _ _ _ (by simp), readAll_statements]
    rfl
  · simp only [kind_op, reduceCtorEq, if_false]
    rw [readAll_op _ _ _ (by simp), readAll_statements, readAll_op _ _ _ (by simp)]
    rfl
  · simp only [kind_token, text_token, if_true]
    rw [readAll_op _ _ _ (by simp), readAll_statements, readAll_op _ _ _ (by simp)]
    rfl

/-- The namespaces of a file are read one by one. -/
lemma readAll_spaces (scope : NameScope) (spaces : List Space) :
    readAll scope false false (spaces.flatMap Space.tokens) =
      (spaces.flatMap fun s => declared s.heading.scope s.statements).map
        fun (scope, c) => c.text scope := by
  induction spaces generalizing scope with
  | nil => rw [List.flatMap_nil, readAll]; rfl
  | cons s spaces ih =>
    obtain ⟨scope', hs⟩ := readAll_space scope s (spaces.flatMap Space.tokens)
    rw [List.flatMap_cons, hs, ih, List.flatMap_cons, List.map_append]

/-- A declaration means what is written in it. -/
lemma ClassDecl.text_declaration (path : Option Path) (scope : NameScope) (c : ClassDecl) :
    (c.text scope).declaration path = c.declaration path scope := by
  have shown (a : Member) :
      ((a.methods.map (Method.mk · a.isHidden)).filter (fun m => !m.isHidden)).map (·.name) =
        a.shown := by
    cases h : a.isHidden <;> simp [Member.shown, h, List.filter_map, Function.comp_def]
  simp only [ClassText.declaration, text, declaration, foldl_addTo, Members.shown,
    List.nil_append, List.filter_flatMap, List.map_flatMap, shown]

/-! ## Files stand -/

/-- What a declaration has behind its name stands. -/
lemma Ancestry.allStand {kind : ClassKind} (ancestry : Ancestry kind) :
    AllStand ancestry.tokens := by
  have name (n : Name) : AllStand [n.token] := by simp
  cases ancestry with
  | root => simp [tokens]
  | parent keyword name => simp [tokens]
  | parents keyword first more => simp [tokens, allStand_commas name]
  | backing type => simp [tokens, type.stand, operators]

/-- A declaration stands. -/
lemma ClassDecl.allStand (c : ClassDecl) : AllStand c.tokens := by
  have interfaces : AllStand (interfaceTokens c.interfaces?) := by
    cases c.interfaces? with
    | none => simp [interfaceTokens]
    | some i =>
      have interface (n : NoneOf ["extends"]) : AllStand [n.token] := by simp
      simp [interfaceTokens, allStand_commas interface]
  have marks := allStand_flatMap Mark.allStand c.marks
  have members := allStand_flatMap Member.allStand c.members
  simp [tokens, braces, c.ancestry.allStand, interfaces, marks, members, operators]

/-- A function stands. -/
lemma FunctionDecl.allStand (f : FunctionDecl) : AllStand f.tokens := by
  have attributes := allStand_flatMap allStand_attributeTokens f.attributes
  simp [tokens, attributes, allStand_referenceTokens, f.signature.allStand]

/-- A statement stands. -/
lemma Statement.allStand (s : Statement) : AllStand s.tokens := by
  cases s with
  | imports clause => exact clause.allStand
  | function f => exact f.allStand
  | «class» c => exact c.allStand

/-- A namespace stands. -/
lemma Space.allStand (s : Space) : AllStand s.tokens := by
  have statements := allStand_flatMap Statement.allStand s.statements
  obtain ⟨⟨keyword, name⟩ | ⟨keyword, _ | name⟩, _⟩ := s <;>
    simp [tokens, braces, statements, operators]

/-- A file stands. -/
lemma ClassFile.allStand (f : ClassFile) : AllStand f.tokens := by
  rw [tokens, allStand_append]
  exact ⟨allStand_flatMap Statement.allStand f.front, allStand_flatMap Space.allStand f.spaces⟩

/-! ## Files are read back -/

/-- A class file holds the texts of its classes. -/
lemma texts_classFile (f : ClassFile) :
    texts f.source = f.classes.map fun (scope, c) => c.text scope := by
  rw [texts, ← readAll_unplaced, ClassFile.source, scan_render f.allStand, readAll_unplaced,
    ClassFile.tokens, readAll_statements, readAll_spaces, ← List.map_append]
  rfl

/-- Each class file of the grammar is read back: the reader finds its classes, traits, interfaces
and enums in their order, each with its full name, its kind, whether it is abstract, its parent, the
traits that it uses, the methods that can be called from outside, and its properties with their
defaults. -/
theorem parse_classFile (path : Option Path) (f : ClassFile) :
    Declaration.parse path f.source = f.declarations path := by
  rw [parse, texts_classFile, ClassFile.declarations, List.map_map]
  exact List.map_congr_left fun a _ => a.2.text_declaration path a.1

/-- A file of the grammar. -/
example :
    let word (s : String) (h : Lexer.Stands .name s.toList) : Name := ⟨s, h⟩
    let hidden : Mark memberModifiers :=
      .modifier ⟨word "Private" (by decide), by decide⟩
    let method : Item :=
      .method ⟨word "function" (by decide), by decide⟩ true (word "f" (by decide))
        ⟨⟨[], by simp, .nil⟩, none, some ⟨[], by simp, .nil⟩⟩
    let property : Item :=
      .properties ⟨[], by simp, by simp, .nil⟩
        ⟨⟨"$p", by decide⟩,
          some ⟨[⟨.string, "\x27v\x27", 0⟩], by decide, .plain rfl rfl rfl .nil⟩⟩ []
    let c : ClassDecl :=
      { marks := [], kind := .trait, keyword := ⟨word "trait" (by decide), by decide⟩,
        name := word "T" (by decide), isSimple := by decide, ancestry := .root,
        interfaces? := none, members := [⟨[hidden], method⟩, ⟨[], method⟩, ⟨[], property⟩] }
    let f : ClassFile :=
      { front := []
        spaces := [⟨.line ⟨word "namespace" (by decide), by decide⟩ (word "a\\b" (by decide)),
          [.class c]⟩] }
    String.ofList f.source =
        "<?php namespace a\\b ; trait T \x7b Private function & f ( ) \x7b \x7d " ++
          "function & f ( ) \x7b \x7d $p = \x27v\x27 ; \x7d " ∧
      f.declarations none =
        [{ name := "a\\b\\T", kind := .trait, methods := ["f"],
           properties := [("p", some "v")] }] := by
  decide

end RouteAudit.Source.Grammar
