import RouteAudit.Proofs.Source.Grammar.ClassFile
import RouteAudit.Proofs.Source.Grammar.Program

/-!
# Preambles

What can stand in front of a class or of a `return`: namespaces that start and end, and imports of
classes.  The reader of scripts and the reader of declarations both keep a scope over it.  They do
the same, except where a block without a name starts: there the one goes on with the scope that it
has, and the other starts afresh.  So the class that a script returns is the parent that a
declaration has, unless such a block comes upon a scope (`readers_resolve`).
-/

namespace RouteAudit.Source.Grammar
open Token

/-! ## The grammar -/

/-- Whether the tokens do not end in the word that an alias follows. -/
def Complete (ts : List Token) : Prop :=
  ∀ t ∈ ts.getLast?, t.isKeyword ["as"] = false

/-- Whether tokens are complete can be decided. -/
instance (ts : List Token) : Decidable (Complete ts) :=
  inferInstanceAs (Decidable (∀ t ∈ ts.getLast?, _))

/-- A clause that imports classes, with any tokens up to its semicolon. -/
structure ClassUse where
  keyword : Keyword "use"
  items : List Token
  stand : AllStand items
  forClasses : ∀ t ∈ items.head?, t.isKeyword ["function", "const"] = false
  noEnd : ∀ t ∈ items, t.isOp [";"] = false
  complete : Complete items

/-- A part of a preamble: the start of a namespace, the brace that ends one, or class imports. -/
inductive PreamblePart where
  | heading (h : Heading)
  | close
  | imports (clause : ClassUse)

/-- The tokens of the start of a namespace. -/
def Heading.tokens : Heading → List Token
  | line keyword name => [keyword.token, name.token, op ";"]
  | block keyword none => [keyword.token, op "\x7b"]
  | block keyword (some name) => [keyword.token, name.token, op "\x7b"]

/-- The tokens of a clause behind its keyword. -/
def ClassUse.body (u : ClassUse) : List Token :=
  u.items ++ [op ";"]

/-- The tokens of a part. -/
def PreamblePart.tokens : PreamblePart → List Token
  | heading h => h.tokens
  | close => [op "\x7d"]
  | imports clause => clause.keyword.token :: clause.body

/-- A script that returns the name of a class behind a preamble, and closes blocks. -/
def classNameTokens (front : List PreamblePart) (keyword : Keyword "return")
    (name : NoneOf constants) (member : Keyword "class") (blocks : Nat) : List Token :=
  front.flatMap PreamblePart.tokens ++
    keyword.token :: ((Atom.className name member).tokens ++
      op ";" :: List.replicate blocks (op "\x7d"))

/-- A file that declares a class behind a preamble, and closes blocks. -/
def declarationTokens (front : List PreamblePart) (c : ClassDecl) (blocks : Nat) : List Token :=
  front.flatMap PreamblePart.tokens ++ (c.tokens ++ List.replicate blocks (op "\x7d"))

/-! ## What it means -/

section Scopes

variable (unnamed : NameScope → NameScope)

/-- The scope behind the start of a namespace; `unnamed` tells what a block without a name does. -/
def Heading.enter (scope : NameScope) : Heading → NameScope
  | line _ name => .entering name.text
  | block _ (some name) => .entering name.text
  | block _ none => unnamed scope

/-- The scope behind a clause. -/
def ClassUse.addTo (scope : NameScope) (u : ClassUse) : NameScope :=
  (UseClause.read scope u.body).1

/-- The scope behind a part of a preamble. -/
def PreamblePart.enter (scope : NameScope) : PreamblePart → NameScope
  | heading h => h.enter unnamed scope
  | close => scope
  | imports clause => clause.addTo scope

/-- The scope behind some parts of a preamble. -/
def enterAll (scope : NameScope) (front : List PreamblePart) : NameScope :=
  front.foldl (PreamblePart.enter unnamed) scope

end Scopes

/-- The scope that the reader of scripts has behind a preamble. -/
def scriptScope (front : List PreamblePart) : NameScope :=
  enterAll id {} front

/-- The scope that the reader of declarations has behind a preamble. -/
def classScope (front : List PreamblePart) : NameScope :=
  enterAll (fun _ => {}) {} front

/-- Whether a part starts a namespace with a name. -/
def PreamblePart.IsNamed : PreamblePart → Prop
  | heading (.line _ _) => True
  | heading (.block _ name?) => name?.isSome = true
  | _ => False

/-- Whether no block without a name comes upon a scope, unless a namespace with a name follows. -/
def StartsAfresh (front : List PreamblePart) : Prop :=
  ∀ before keyword after, front = before ++ .heading (.block keyword none) :: after →
    (∀ part ∈ after, ¬ part.IsNamed) → scriptScope before = {}

/-! ## The two scopes -/

/-- The parts of a preamble are entered one after the other. -/
lemma enterAll_append (unnamed : NameScope → NameScope) (scope : NameScope)
    (front back : List PreamblePart) :
    enterAll unnamed scope (front ++ back) =
      enterAll unnamed (enterAll unnamed scope front) back :=
  List.foldl_append

/-- The reader of scripts passes over the start of a block without a name. -/
lemma scriptScope_block (before : List PreamblePart) (keyword : Keyword "namespace")
    (after : List PreamblePart) :
    scriptScope (before ++ .heading (.block keyword none) :: after) =
      scriptScope (before ++ after) := by
  rw [scriptScope, scriptScope, enterAll_append, enterAll_append]
  rfl

/-- The reader of declarations forgets what comes before a block without a name. -/
lemma classScope_block (before : List PreamblePart) (keyword : Keyword "namespace")
    (after : List PreamblePart) :
    classScope (before ++ .heading (.block keyword none) :: after) = classScope after := by
  rw [classScope, enterAll_append]
  rfl

/-- Without a last part that names no namespace a preamble starts afresh as well. -/
lemma StartsAfresh.init {front : List PreamblePart} {part : PreamblePart}
    (h : StartsAfresh (front ++ [part])) (hpart : ¬ part.IsNamed) : StartsAfresh front := by
  rintro before keyword after rfl hafter
  refine h before keyword (after ++ [part]) (by simp) ?_
  rw [List.forall_mem_append, List.forall_mem_singleton]
  exact ⟨hafter, hpart⟩

/-- Where a block without a name comes upon no scope, the two scopes are the same. -/
lemma scopes_agree {front : List PreamblePart} (h : StartsAfresh front) :
    scriptScope front = classScope front := by
  induction front using List.reverseRecOn with
  | nil => rfl
  | append_singleton front part ih =>
    rw [scriptScope, classScope, enterAll_append, enterAll_append]
    -- a name makes the scopes the same, and other parts keep them so
    obtain (⟨keyword, name⟩ | ⟨keyword, _ | name⟩) | _ | clause := part
    · rfl
    · exact h front keyword [] rfl (List.forall_mem_nil _)
    · rfl
    · exact ih (h.init id)
    · exact congrArg (ClassUse.addTo · clause) (ih (h.init id))

/-! ## How it is read -/

/-- Complete tokens are complete behind the first. -/
lemma Complete.tail {t : Token} {ts : List Token} (h : Complete (t :: ts)) : Complete ts := by
  cases ts with
  | nil => exact nofun
  | cons u ts => rwa [Complete, List.getLast?_cons_cons] at h

/-- A clause ends at its first semicolon, and what it does to a scope does not depend on more. -/
lemma readItems_ends (rest : List Token) (start : String) (scope : NameScope) (items : List Token)
    (hend : ∀ t ∈ items, t.isOp [";"] = false) (hcomplete : Complete items) :
    UseClause.readItems start scope (items ++ op ";" :: rest) =
      ((UseClause.readItems start scope (items ++ [op ";"])).1, rest) := by
  -- an item takes one token, or two if a group starts, or three if it has an alias
  cases items with
  | nil => simp only [List.nil_append, readItems_semicolon]
  | cons t ts =>
    obtain ⟨ht, hts⟩ := List.forall_mem_cons.1 hend
    have hrest := hcomplete.tail
    rw [List.cons_append, List.cons_append, UseClause.readItems.eq_def,
      UseClause.readItems.eq_def start scope (t :: (ts ++ [op ";"]))]
    simp only [ht, Bool.false_eq_true, if_false]
    split
    · exact readItems_ends rest _ _ ts hts hrest
    split
    · exact readItems_ends rest _ _ ts hts hrest
    cases ts with
    | nil =>
      have hmark : UseClause.isGroupMark (op ";") = false := rfl
      simp [hmark, readItems_semicolon]
    | cons mark ts =>
      obtain ⟨-, hmore⟩ := List.forall_mem_cons.1 hts
      simp only [List.cons_append]
      split
      · exact readItems_ends rest _ _ ts hmore hrest.tail
      split
      case isTrue has =>
        cases ts with
        | nil =>
          rw [hrest mark rfl] at has
          cases has
        | cons short ts =>
          exact readItems_ends rest _ _ ts (List.forall_mem_cons.1 hmore).2 hrest.tail.tail
      case isFalse => exact readItems_ends rest _ _ (mark :: ts) hts hrest
  termination_by items.length
  decreasing_by all_goals subst_vars; simp +arith only [List.length_cons]

/-- A clause that imports classes is read to its end. -/
lemma read_classUse (scope : NameScope) (u : ClassUse) (rest : List Token) :
    UseClause.read scope (u.body ++ rest) = (u.addTo scope, rest) := by
  have hends := readItems_ends rest "" scope u.items u.noEnd u.complete
  have hread (rest : List Token) : UseClause.read scope (u.items ++ op ";" :: rest) =
      UseClause.readItems "" scope (u.items ++ op ";" :: rest) := by
    have hfirst := u.forClasses
    cases hitems : u.items with
    | nil => rfl
    | cons t ts =>
      rw [hitems] at hfirst
      rw [List.cons_append, UseClause.read, if_neg (by simp [hfirst t rfl])]
  rw [ClassUse.addTo, ClassUse.body, List.append_assoc, List.singleton_append, hread, hread, hends]

/-- A script goes on behind a preamble in the scope that the preamble leaves. -/
lemma run_preamble (missing : Fault) (env : Env) (front : List PreamblePart)
    (rest : List Token) :
    Script.run missing env (front.flatMap PreamblePart.tokens ++ rest) =
      Script.run missing { env with scope := enterAll id env.scope front } rest := by
  induction front generalizing env with
  | nil => rfl
  | cons part front ih =>
    rw [List.flatMap_cons, List.append_assoc]
    obtain (⟨keyword, name⟩ | ⟨keyword, _ | name⟩) | _ | clause := part
    case close =>
      rw [PreamblePart.tokens, List.singleton_append, run_op, ih]
      rfl
    case imports =>
      rw [PreamblePart.tokens, List.cons_append, run_use, read_classUse, ih]
      rfl
    all_goals
      simp only [PreamblePart.tokens, Heading.tokens, List.cons_append, List.nil_append]
      rw [Script.run_cons, if_pos (by simp)]
      simp only [kind_token, kind_op, text_token, if_true, reduceCtorEq, if_false]
    -- a brace in place of the name is read as if it were one, and changes nothing
    case heading.block.none => exact ih env
    all_goals
      rw [run_op, ih]
      rfl

/-- Declarations are read behind a preamble in the scope that the preamble leaves. -/
lemma readAll_preamble (scope : NameScope) (front : List PreamblePart) (rest : List Token) :
    Declaration.readAll scope false false (front.flatMap PreamblePart.tokens ++ rest) =
      Declaration.readAll (enterAll (fun _ => {}) scope front) false false rest := by
  induction front generalizing scope with
  | nil => rfl
  | cons part front ih =>
    rw [List.flatMap_cons, List.append_assoc]
    obtain (⟨keyword, name⟩ | ⟨keyword, _ | name⟩) | _ | clause := part
    case close =>
      rw [PreamblePart.tokens, List.singleton_append, readAll_op _ _ _ (by simp), ih]
      rfl
    case imports =>
      rw [PreamblePart.tokens, List.cons_append, readAll_use, read_classUse, ih]
      rfl
    all_goals
      simp only [PreamblePart.tokens, Heading.tokens, List.cons_append, List.nil_append]
      rw [Declaration.readAll_cons, if_pos (by simp)]
      simp only [kind_token, kind_op, text_token, if_true, reduceCtorEq, if_false]
      rw [readAll_op _ _ _ (by simp), ih]
      rfl

/-- Nothing is declared by braces. -/
lemma readAll_closes (scope : NameScope) (blocks : Nat) :
    Declaration.readAll scope false false (List.replicate blocks (op "\x7d")) = [] := by
  induction blocks with
  | zero => rw [List.replicate_zero, Declaration.readAll]
  | succ blocks ih => rw [List.replicate_succ, readAll_op _ _ _ (by simp), ih]

section Readers

variable {front : List PreamblePart} {name : NoneOf constants} {blocks : Nat}

/-- A script returns the name of a class as the scope of scripts has it. -/
lemma evaluate_className {keyword : Keyword "return"} {member : Keyword "class"}
    {source : List Char}
    (h : Script.Writes source (classNameTokens front keyword name member blocks))
    (directory : Path) (file : Option Path) :
    Script.evaluate directory file source =
      .ok (.text ((scriptScope front).resolve name.text)) := by
  have hread (rest : List Token) :
      outcome (Expr.read ((Atom.className name member).tokens ++ op ";" :: rest)) =
        (.className name.text, op ";" :: rest) :=
    read_phrase (.operand (.atom (.className name member))) rest
  rw [Script.evaluate_of_writes h, classNameTokens, run_preamble, run_return, hread]
  rfl

/-- A declaration has its names as the scope of declarations has them. -/
lemma parse_declaration {c : ClassDecl} {source : List Char}
    (h : Script.Writes source (declarationTokens front c blocks)) (path : Option Path) :
    Declaration.parse path source = [c.declaration path (classScope front)] := by
  have htexts : Declaration.texts source = [c.text (classScope front)] := by
    rw [Declaration.texts, ← Declaration.readAll_unplaced, h, Declaration.readAll_unplaced,
      declarationTokens, readAll_preamble, readAll_class, readAll_closes]
    rfl
  rw [Declaration.parse, htexts, List.map_singleton, ClassDecl.text_declaration]

/-- The name of a class that a script returns behind a preamble, and the parent of a declaration
there, are resolved in scopes that differ in one point: a block without a name is nothing to the
one reader, and the start of the file to the other.  They are the same if no such block comes upon a
scope. -/
theorem readers_resolve {keyword : Keyword "return"} {member : Keyword "class"} {c : ClassDecl}
    (hparent : c.ancestry.parent? = some name.toWord) {script classes : List Char}
    (hscript : Script.Writes script (classNameTokens front keyword name member blocks))
    (hclasses : Script.Writes classes (declarationTokens front c blocks))
    (directory : Path) (file path : Option Path) :
    (∃ value parent d,
      Script.evaluate directory file script = .ok (.text value) ∧
      Declaration.parse path classes = [d] ∧ d.parent = some parent ∧
      value = (scriptScope front).resolve name.text ∧
      parent = (classScope front).resolve name.text ∧
      (StartsAfresh front → value = parent)) ∧
    ∀ before keyword after, front = before ++ .heading (.block keyword none) :: after →
      scriptScope front = scriptScope (before ++ after) ∧ classScope front = classScope after := by
  refine ⟨⟨_, _, _, evaluate_className hscript directory file, parse_declaration hclasses path,
    ?_, rfl, rfl, ?_⟩, ?_⟩
  · rw [ClassDecl.declaration, hparent]
    rfl
  · intro hfront
    rw [scopes_agree hfront]
  · rintro before keyword after rfl
    exact ⟨scriptScope_block before keyword after, classScope_block before keyword after⟩

end Readers

/-! ## It stands -/

/-- A part stands. -/
lemma PreamblePart.allStand (part : PreamblePart) : AllStand part.tokens := by
  obtain (⟨_, _⟩ | ⟨_, _ | _⟩) | _ | clause := part
  case imports => simp [tokens, ClassUse.body, clause.stand, operators]
  all_goals simp [tokens, Heading.tokens, operators]

/-- Closing braces stand. -/
lemma allStand_closes (blocks : Nat) : AllStand (List.replicate blocks (op "\x7d")) := by
  intro t ht
  rw [List.eq_of_mem_replicate ht]
  exact stands_op (by decide)

/-- A preamble with a returned class name is written as its tokens. -/
lemma writes_className (front : List PreamblePart) (keyword : Keyword "return")
    (name : NoneOf constants) (member : Keyword "class") (blocks : Nat) :
    Script.Writes (render (classNameTokens front keyword name member blocks))
      (classNameTokens front keyword name member blocks) := by
  apply scan_render
  have hfront := allStand_flatMap PreamblePart.allStand front
  have hname := (Atom.className name member).allStand
  have hsemicolon : (op ";").Stands := stands_op (by decide)
  exact allStand_append.2 ⟨hfront, allStand_cons.2 ⟨stands_token _, allStand_append.2
    ⟨hname, allStand_cons.2 ⟨hsemicolon, allStand_closes blocks⟩⟩⟩⟩

/-- A preamble with a declaration is written as its tokens. -/
lemma writes_declaration (front : List PreamblePart) (c : ClassDecl) (blocks : Nat) :
    Script.Writes (render (declarationTokens front c blocks))
      (declarationTokens front c blocks) := by
  apply scan_render
  have hfront := allStand_flatMap PreamblePart.allStand front
  exact allStand_append.2 ⟨hfront, allStand_append.2 ⟨c.allStand, allStand_closes blocks⟩⟩

section Sample

/-- The keyword of a namespace. -/
def namespaceKeyword : Keyword "namespace" :=
  ⟨⟨"namespace", stands_namespace⟩, List.mem_singleton_self _⟩

/-- The keyword of a class. -/
def classKeyword : Keyword "class" := ⟨⟨"class", stands_class⟩, List.mem_singleton_self _⟩

/-- A name of one letter. -/
def letterA : Name := ⟨"A", by decide⟩

/-- A class with a parent. -/
def sampleHeir : ClassDecl where
  marks := []
  kind := .class
  keyword := classKeyword
  name := letterA
  isSimple := by decide
  ancestry := .parent ⟨⟨"extends", by decide⟩, by decide⟩ letterC
  interfaces? := none
  members := []

/-- A namespace with an import behind a block without a name. -/
def freshFront : List PreamblePart :=
  [.heading (.block namespaceKeyword none), .close,
    .heading (.block namespaceKeyword (some letterA)),
    .imports {
      keyword := useKeyword
      items := [⟨.name, "b\\C", 0⟩]
      stand := by decide
      forClasses := by decide
      noEnd := by decide
      complete := by decide }]

/-- A block without a name behind a namespace. -/
def staleFront : List PreamblePart :=
  [.heading (.block namespaceKeyword (some letterA)), .close,
    .heading (.block namespaceKeyword none)]

/-- In the first preamble no unnamed block comes upon a scope. -/
lemma startsAfresh_freshFront : StartsAfresh freshFront := by
  intro before keyword after e hafter
  obtain _ | ⟨_, _ | ⟨_, _ | ⟨_, _ | ⟨_, before⟩⟩⟩⟩ := before
  · -- only the first part is a block without a name
    rfl
  all_goals simp [freshFront] at e

/-- Behind the one preamble both readers find the same class, behind the other they do not. -/
theorem readers_resolve_sampleFronts :
    let script front :=
      render (classNameTokens front returnKeyword ⟨letterC, by decide⟩ classKeyword 1)
    let classes front := render (declarationTokens front sampleHeir 1)
    StartsAfresh freshFront ∧
    (∃ value d, Script.evaluate {} none (script freshFront) = .ok (.text value) ∧
      Declaration.parse none (classes freshFront) = [d] ∧ d.parent = some value) ∧
    ∃ d, Script.evaluate {} none (script staleFront) = .ok (.text "A\\C") ∧
      Declaration.parse none (classes staleFront) = [d] ∧ d.parent = some "C" := by
  intro script classes
  have hresolve (front : List PreamblePart) :=
    (readers_resolve (c := sampleHeir) rfl (writes_className front returnKeyword
      ⟨letterC, by decide⟩ classKeyword 1) (writes_declaration front sampleHeir 1) {} none none).1
  refine ⟨startsAfresh_freshFront, ?_, ?_⟩
  · obtain ⟨value, parent, d, hvalue, hd, hparent, -, -, heq⟩ := hresolve freshFront
    rw [← heq startsAfresh_freshFront] at hparent
    exact ⟨value, d, hvalue, hd, hparent⟩
  · obtain ⟨value, parent, d, hvalue, hd, hparent, rfl, rfl, -⟩ := hresolve staleFront
    exact ⟨d, hvalue, hd, hparent⟩

end Sample

end RouteAudit.Source.Grammar
