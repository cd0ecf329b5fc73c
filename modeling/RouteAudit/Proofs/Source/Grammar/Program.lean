import RouteAudit.Proofs.Source.Expr.Place
import RouteAudit.Proofs.Source.Grammar.Meaning
import RouteAudit.Proofs.Source.Grammar.UseStatement

/-!
# Programs

The grammar of the scripts that hold configurations: possibly a namespace, then class imports and
assignments, and an expression that is returned.  Each program of the grammar returns the value that
it means (`evaluate_program`).
-/

namespace RouteAudit.Source.Grammar
open Token

/-! ## The grammar -/

/-- An import or an assignment. -/
inductive Instruction where
  | imports (clause : Imports)
  | assign (target : Variable) (e : Phrase)

/-- A namespace declaration. -/
structure NamespaceLine where
  keyword : Keyword "namespace"
  name : Name

/-- A script. -/
structure Program where
  space? : Option NamespaceLine
  instructions : List Instruction
  keyword : Keyword "return"
  result : Phrase

/-! ## How it is written -/

/-- The tokens of an instruction. -/
def Instruction.tokens : Instruction → List Token
  | imports clause => clause.tokens
  | assign target e => target.token :: op "=" :: (e.tokens ++ [op ";"])

/-- The tokens of a namespace declaration. -/
def spaceTokens : Option NamespaceLine → List Token
  | none => []
  | some s => [s.keyword.token, s.name.token, op ";"]

/-- The tokens of a script. -/
def Program.tokens (p : Program) : List Token :=
  spaceTokens p.space? ++ (p.instructions.flatMap Instruction.tokens ++
    p.keyword.token :: (p.result.tokens ++ [op ";"]))

/-- The source of a script. -/
def Program.source (p : Program) : List Char :=
  Token.render p.tokens

/-! ## What it means -/

/-- What the expressions behind an instruction depend on. -/
def Instruction.next (σ : Surroundings) : Instruction → Surroundings
  | imports clause => { σ with scope := clause.addTo σ.scope }
  | assign target e =>
    { σ with lookup := fun x => if x = target.text then e.value σ else σ.lookup x }

/-- What the first instruction of a program depends on: no variable has a value yet. -/
def Program.start (file : Option Path) (p : Program) : Surroundings where
  scope := (p.space?.map fun s => .entering s.name.text).getD {}
  lookup := fun _ => .unresolved
  file := file

/-- The value that a program returns. -/
def Program.value (file : Option Path) (p : Program) : Value :=
  p.result.value (p.instructions.foldl Instruction.next (p.start file))

/-- Whether the integers and the keys of all arrays of an instruction are within the limit. -/
def Instruction.WithinLimit (σ : Surroundings) : Instruction → Prop
  | imports _ => True
  | assign _ e => e.WithinLimit σ

/-- Whether the integers and the keys of all arrays are within the limit, in some instructions and
in the result. -/
def WithinLimitIn (result : Phrase) (σ : Surroundings) : List Instruction → Prop
  | [] => result.WithinLimit σ
  | i :: instructions => i.WithinLimit σ ∧ WithinLimitIn result (i.next σ) instructions

/-- Whether the integers and the keys of all arrays of a program are within the limit. -/
def Program.WithinLimit (file : Option Path) (p : Program) : Prop :=
  WithinLimitIn p.result (p.start file) p.instructions

/-! ## How it is read -/

/-- An operator between statements is passed over. -/
lemma run_op (missing : Fault) (env : Env) (s : String) (rest : List Token) :
    Script.run missing env (op s :: rest) = Script.run missing env rest := by
  rw [Script.run_cons]
  simp

/-- An import goes on behind its clause. -/
lemma run_use (missing : Fault) (env : Env) (keyword : Keyword "use") (rest : List Token) :
    Script.run missing env (keyword.token :: rest) =
      Script.run missing { env with scope := (UseClause.read env.scope rest).1 }
        (UseClause.read env.scope rest).2 := by
  rw [Script.run_cons, if_neg (by simp), if_pos (by simp)]

/-- The first `return` ends a script. -/
lemma run_return (missing : Fault) (env : Env) (keyword : Keyword "return") (rest : List Token) :
    Script.run missing env (keyword.token :: rest) = (outcome (Expr.read rest)).1.eval env := by
  rw [Script.run_cons, if_neg (by simp), if_neg (by simp), if_neg (by simp), if_neg (by simp),
    if_pos (by simp)]

/-- An expression is read up to the semicolon behind it. -/
lemma read_phrase (e : Phrase) (rest : List Token) :
    outcome (Expr.read (e.tokens ++ op ";" :: rest)) = (e.expr, op ";" :: rest) :=
  (read_tokens e _).trans (readChain_stop _ (by decide) _)

/-- After an assignment the variable has the value of the expression. -/
lemma Agrees.assign {env : Env} {σ : Surroundings} (h : Agrees env σ) (target : Variable)
    {e : Phrase} (hw : e.WithinLimit σ) :
    Agrees { env with bindings := env.bindings.insert target.text (e.value σ) }
      ((Instruction.assign target e).next σ) where
  scope := h.scope
  lookup x := by
    show ((env.bindings.insert target.text (e.value σ)).get? x).getD .unresolved =
      if x = target.text then e.value σ else σ.lookup x
    by_cases hx : x = target.text
    · rw [if_pos hx, hx, Assoc.get?_insert_self]
      rfl
    · rw [if_neg hx, Assoc.get?_insert_of_ne hx, h.lookup]
  file := h.file
  fits x := by
    show Fits (if x = target.text then e.value σ else σ.lookup x)
    split
    · exact fits_phrase h e hw
    · exact h.fits x

/-- After an import the classes are known. -/
lemma Agrees.imports {env : Env} {σ : Surroundings} (h : Agrees env σ) (clause : Imports) :
    Agrees { env with scope := clause.addTo env.scope } ((Instruction.imports clause).next σ) where
  scope := congrArg clause.addTo h.scope
  lookup := h.lookup
  file := h.file
  fits := h.fits

/-- Behind some instructions the environment agrees with what they mean. -/
lemma run_instructions (missing : Fault) (result : Phrase) (instructions : List Instruction)
    {env : Env} {σ : Surroundings} (h : Agrees env σ) (hw : WithinLimitIn result σ instructions)
    (rest : List Token) :
    ∃ env', Script.run missing env (instructions.flatMap Instruction.tokens ++ rest) =
        Script.run missing env' rest ∧
      Agrees env' (instructions.foldl Instruction.next σ) ∧
      result.WithinLimit (instructions.foldl Instruction.next σ) := by
  -- the invariant is that the environment agrees with what the instructions so far mean
  induction instructions generalizing env σ with
  | nil => exact ⟨env, rfl, h, hw⟩
  | cons i instructions ih =>
    obtain ⟨hi, hrest⟩ := hw
    rw [List.flatMap_cons, List.append_assoc, List.foldl_cons]
    cases i with
    | imports clause =>
      obtain ⟨env', hrun, hagrees⟩ := ih (h.imports clause) hrest
      refine ⟨env', ?_, hagrees⟩
      rw [← hrun, Instruction.tokens, Imports.tokens, List.cons_append, run_use, read_imports]
    | assign target e =>
      obtain ⟨env', hrun, hagrees⟩ := ih (h.assign target hi) hrest
      refine ⟨env', ?_, hagrees⟩
      have hread := read_phrase e (instructions.flatMap Instruction.tokens ++ rest)
      simp only [Instruction.tokens, List.cons_append, List.append_assoc, List.nil_append]
      rw [Script.run_variable missing env rfl, if_pos (by simp), hread, eval_phrase h e hi]
      simp only
      rw [run_op]
      exact hrun

/-- A script stands. -/
lemma Program.allStand (p : Program) : AllStand p.tokens := by
  have space : AllStand (spaceTokens p.space?) := by
    cases p.space? <;> simp [spaceTokens, operators]
  have instruction (i : Instruction) : AllStand i.tokens := by
    cases i with
    | imports clause => exact clause.allStand
    | assign target e => simp [Instruction.tokens, e.allStand, operators]
  simp [tokens, space, allStand_flatMap instruction, p.result.allStand, operators]

/-- Each program of the grammar returns the value that it means. -/
theorem evaluate_program (directory : Path) (file : Option Path) (p : Program)
    (hw : p.WithinLimit (file.map directory.join)) :
    Script.evaluate directory file p.source = .ok (p.value (file.map directory.join)) := by
  have hstart : ∀ rest, ∃ env, Script.run (.noReturn file) { file := file.map directory.join }
      (spaceTokens p.space? ++ rest) = Script.run (.noReturn file) env rest ∧
        Agrees env (p.start (file.map directory.join)) := by
    intro rest
    have fits (x : String) : Fits ((p.start (file.map directory.join)).lookup x) := by
      intro n e
      cases e
    rcases hs : p.space? with _ | s
    · exact ⟨_, rfl, by rw [Program.start, hs]; rfl, fun x => rfl, rfl, fits⟩
    · refine ⟨{ scope := .entering s.name.text, file := file.map directory.join }, ?_,
        by rw [Program.start, hs]; rfl, fun x => rfl, rfl, fits⟩
      simp only [spaceTokens, List.cons_append, List.nil_append]
      rw [Script.run_cons, if_pos (by simp)]
      simp only [kind_token, if_true]
      rw [run_op]
      rfl
  obtain ⟨env, hspace, hagrees⟩ := hstart
    (p.instructions.flatMap Instruction.tokens ++ p.keyword.token :: (p.result.tokens ++ [op ";"]))
  obtain ⟨env', hrun, hagrees', hwithin⟩ := run_instructions (.noReturn file) p.result p.instructions
    hagrees hw (p.keyword.token :: (p.result.tokens ++ [op ";"]))
  rw [Script.evaluate, ← Script.run_unplaced, Program.source, scan_render p.allStand,
    Script.run_unplaced, Program.tokens, hspace, hrun, Script.run_cons, if_neg (by simp),
    if_neg (by simp), if_neg (by simp), if_neg (by simp), if_pos (by simp), read_phrase]
  exact eval_phrase hagrees' p.result hwithin

/-- A program with all kinds of instruction. -/
def sampleProgram : Program :=
  let name (s : String) (h : Lexer.Stands .name s.toList) : Name := ⟨s, h⟩
  { space? := some ⟨⟨name "namespace" (by decide), by decide⟩, name "n" (by decide)⟩
    instructions :=
      [.imports
        { keyword := useKeyword
          statement :=
            { mark? := none
              first := .single ⟨name "a\\B" (by decide),
                some (⟨name "as" (by decide), by decide⟩, letterC)⟩
              more := []
              unmarked := by decide }
          plain := by intro _ i hi; cases hi },
      .assign ⟨"$v", by decide⟩
        (.concat (.operand (.atom (.string sampleLiteral)))
          (.atom (.integer (.single 1))))]
    keyword := ⟨name "Return" (by decide), by decide⟩
    result :=
      .operand (.brackets
        (.more (.keyed (.operand (.atom (.string ⟨⟨"\x27x\x27", by decide⟩, "x", by decide⟩)))
          (.operand (.atom (.variable ⟨"$v", by decide⟩))))
        (.more (.plain (.operand (.atom (.className ⟨letterC, by decide⟩
          ⟨name "class" stands_class, by decide⟩)))) .done))) }

/-- The sample returns an array with both kinds of key. -/
theorem evaluate_sampleProgram :
    sampleProgram.WithinLimit none ∧
      Script.evaluate {} none sampleProgram.source =
        .ok (.keyed [(.text "x", .text "a1"), (.index 0, .text "a\\B")]) := by
  have one : 1 < 10 ^ Text.digitLimit := Nat.one_lt_pow (by decide) (by decide)
  have hw : sampleProgram.WithinLimit none :=
    ⟨trivial, ⟨trivial, one⟩, ⟨trivial, trivial, keyFits_of_length_le (by decide)⟩, trivial,
      trivial⟩
  exact ⟨hw, (evaluate_program {} none sampleProgram hw).trans rfl⟩

end RouteAudit.Source.Grammar
