import RouteAudit.Proofs.Source.Expr.Delimited
import RouteAudit.Proofs.Source.Grammar.Program

/-!
# The rows of an array

An array literal is read row by row.  What stands as the value of one row, whether it is understood
or not, has no part in the other rows, as long as the readers find its end
(`evaluate_scriptAround`).
-/

namespace RouteAudit.Source.Grammar
open Token

/-! ## How it is written -/

/-- A key and the tokens of its value. -/
abbrev Row := StringLiteral × List Token

/-- The tokens of a row. -/
def Row.tokens (row : Row) : List Token :=
  row.1.token :: op "=>" :: row.2

/-- The tokens of rows with commas between. -/
def rowTokens : List Row → List Token
  | [] => []
  | row :: rows => commas Row.tokens row rows

/-- An array literal. -/
def literalTokens (rows : List Row) : List Token :=
  op "[" :: (rowTokens rows ++ [op "]"])

/-- A script that does nothing but return an expression. -/
def returnTokens (keyword : Keyword "return") (ts : List Token) : List Token :=
  keyword.token :: (ts ++ [op ";"])

/-- The rows whose values are phrases. -/
def phraseRows (rows : List (StringLiteral × Phrase)) : List Row :=
  rows.map fun row => (row.1, row.2.tokens)

/-! ## What it stands for -/

/-- Whether no two keys are the same, and none stands for a number. -/
def KeysApart (keys : List StringLiteral) : Prop :=
  (keys.map (·.value)).Nodup ∧ ∀ key ∈ keys, numberOf? key.value = none

/-- What the rows of an array stand for. -/
def rowElements : List Row → Elements
  | [] => .nil
  | (key, ts) :: rows => .pair (.constant (.text key.value)) (Expr.alone ts) (rowElements rows)

/-- The elements that some rows are, each with the key that is written. -/
def pairsOf (env : Env) (rows : List Row) : Except Fault (List (Option Value × Value)) :=
  rows.mapM fun row => ((Expr.alone row.2).eval env).map fun v => (some (.text row.1.value), v)

/-! ## How it is read -/

/-- A phrase is separate, and has its expression alone. -/
lemma Phrase.separate (p : Phrase) : Expr.alone p.tokens = p.expr ∧ Expr.Separate p.tokens := by
  refine Expr.separate_of_reads fun stop rest hs => ?_
  rw [read_tokens, Expr.readChain_terminator p.expr hs]

/-- A row is read up to what stands behind it. -/
lemma readElements_row {key : StringLiteral} {ts : List Token} (h : Expr.Separate ts) {stop : Token}
    (hs : stop.isOp Expr.terminators = true) (rest : List Token) :
    outcome (Expr.readElements (Row.tokens (key, ts) ++ stop :: rest)) =
      (.pair (.constant (.text key.value)) (Expr.alone ts)
          (outcome (Expr.readElements (stop :: rest))).1,
        (outcome (Expr.readElements (stop :: rest))).2) := by
  have hkey : outcome (Expr.read (key.token :: op "=>" :: (ts ++ stop :: rest))) =
      (.constant (.text key.value), op "=>" :: (ts ++ stop :: rest)) := by
    have hatom := readOperand_atom (.string key) (op "=>" :: (ts ++ stop :: rest))
    rw [Atom.tokens, List.singleton_append] at hatom
    rw [Expr.outcome_read, hatom, readChain_stop _ (by decide)]
    rfl
  rw [Row.tokens, List.cons_append, List.cons_append]
  exact Expr.readElements_pair rfl rfl hkey (by simp) (h stop rest hs)

/-- The rows of an array are read up to its closing bracket. -/
lemma readElements_rows {rows : List Row} (h : ∀ row ∈ rows, Expr.Separate row.2)
    (rest : List Token) :
    outcome (Expr.readElements (rowTokens rows ++ op "]" :: rest)) = (rowElements rows, rest) := by
  have hclose : outcome (Expr.readElements (op "]" :: rest)) = (.nil, rest) := by
    rw [Expr.outcome_readElements, if_pos (by simp [closes])]
  cases rows with
  | nil => exact hclose
  | cons row rows =>
    rw [rowTokens]
    induction rows generalizing row with
    | nil =>
      rw [commas_nil, readElements_row (h row List.mem_cons_self) (by decide), hclose]
      rfl
    | cons next rows ih =>
      rw [List.forall_mem_cons] at h
      rw [commas_cons, List.append_assoc, List.cons_append, readElements_row h.1 (by decide),
        Expr.outcome_readElements, if_neg (by simp [closes]), if_pos (by simp), ih next h.2]
      rfl

/-- An array literal is read as its rows. -/
lemma alone_literal {rows : List Row} (h : ∀ row ∈ rows, Expr.Separate row.2) :
    Expr.alone (literalTokens rows) = .array (rowElements rows) := by
  show (outcome (Expr.read (literalTokens rows ++ [op ";"]))).1 = _
  rw [literalTokens, List.cons_append, List.append_assoc, List.singleton_append,
    Expr.outcome_read, Expr.outcome_readOperand]
  simp only [kind_op]
  rw [if_pos (by simp), readElements_rows h, readChain_stop _ (by decide)]

/-! ## How it is evaluated -/

/-- A key that stands for no number is within the limit. -/
lemma keyFits_of_numberOf? {s : String} (h : numberOf? s = none) : KeyFits (.text s) := by
  intro n e
  cases e
  rw [numberOf?_eq_some.2 rfl] at h
  cases h

/-- The pairs of rows are computed row by row. -/
lemma pairsOf_cons (env : Env) (row : Row) (rows : List Row) :
    pairsOf env (row :: rows) =
      match (Expr.alone row.2).eval env with
      | .error fault => .error fault
      | .ok v => (pairsOf env rows).map ((some (.text row.1.value), v) :: ·) := by
  rw [pairsOf, List.mapM_cons, ← pairsOf]
  cases (Expr.alone row.2).eval env with
  | error fault => rfl
  | ok v => cases pairsOf env rows <;> rfl

/-- More rows add their pairs. -/
lemma pairsOf_append (env : Env) {rows : List Row} {pairs : List (Option Value × Value)}
    (h : pairsOf env rows = .ok pairs) (more : List Row) :
    pairsOf env (rows ++ more) = (pairsOf env more).map (pairs ++ ·) := by
  rw [pairsOf, List.mapM_append, ← pairsOf, h, ← pairsOf]
  cases pairsOf env more <;> rfl

/-- The rows are added one after the other. -/
lemma eval_rowElements (env : Env) {rows : List Row}
    (hnumber : ∀ row ∈ rows, numberOf? row.1.value = none) (b : ArrayBuilder) :
    (rowElements rows).eval env b = (pairsOf env rows).map (List.foldl addElement b) := by
  induction rows generalizing b with
  | nil => rfl
  | cons row rows ih =>
    rw [List.forall_mem_cons] at hnumber
    have hkey := ofValue?_eq (keyFits_of_numberOf? hnumber.1)
    rw [rowElements, Elements.eval, Expr.eval, pairsOf_cons]
    simp only [bind, Except.bind, hkey]
    cases (Expr.alone row.2).eval env with
    | error fault => rfl
    | ok v =>
      simp only
      rw [ih hnumber.2]
      cases pairsOf env rows <;> rfl

/-- An array literal is the array of its rows. -/
lemma eval_literal (env : Env) {rows : List Row}
    (hnumber : ∀ row ∈ rows, numberOf? row.1.value = none) :
    (Expr.array (rowElements rows)).eval env = (pairsOf env rows).map arrayOf := by
  rw [Expr.eval, eval_rowElements env hnumber]
  cases pairsOf env rows with
  | error fault => rfl
  | ok pairs => exact congrArg Except.ok (build_foldl_addElement pairs)

/-- Rows with phrases have the values of the phrases. -/
lemma pairsOf_phraseRows {env : Env} {σ : Surroundings} (h : Agrees env σ)
    {rows : List (StringLiteral × Phrase)} (hfit : ∀ row ∈ rows, row.2.WithinLimit σ) :
    pairsOf env (phraseRows rows) =
      .ok (rows.map fun row => (some (.text row.1.value), row.2.value σ)) := by
  induction rows with
  | nil => rfl
  | cons row rows ih =>
    rw [List.forall_mem_cons] at hfit
    rw [phraseRows, List.map_cons, pairsOf_cons, row.2.separate.1, eval_phrase h row.2 hfit.1,
      ← phraseRows, ih hfit.2]
    rfl

/-- Keys that stand for no number are placed as they are. -/
lemma place_rows {entries : List (StringLiteral × Value)}
    (hnumber : ∀ e ∈ entries, numberOf? e.1.value = none) (next : Nat) :
    place next (entries.map fun e => (some (.text e.1.value), e.2)) =
      entries.map fun e => (.text e.1.value, e.2) := by
  induction entries generalizing next with
  | nil => rfl
  | cons e entries ih =>
    rw [List.forall_mem_cons] at hnumber
    have hkey : keyOf? (.text e.1.value) = some (.text e.1.value) := by
      rw [keyOf?, hnumber.1]
      rfl
    rw [List.map_cons, place, hkey, ih hnumber.2]
    rfl

/-- The array of rows whose keys are apart has them as they stand. -/
lemma arrayOf_rows {entries : List (StringLiteral × Value)} (hne : entries ≠ [])
    (hkeys : KeysApart (entries.map (·.1))) :
    arrayOf (entries.map fun e => (some (.text e.1.value), e.2)) =
      .keyed (entries.map fun e => (.text e.1.value, e.2)) := by
  obtain ⟨hnodup, hnumber⟩ := hkeys
  have hplace := place_rows (fun e he => hnumber e.1 (List.mem_map_of_mem he)) 0
  have hkeyed : (entries.map fun e => (some (Value.text e.1.value), e.2)).all (·.1.isNone) =
      false := by
    obtain ⟨e, rest, rfl⟩ := List.exists_cons_of_ne_nil hne
    rfl
  have hdistinct : ((entries.map fun e => (Key.text e.1.value, e.2)).map (·.1)).Nodup := by
    have hinj : Function.Injective Key.text := fun a b e => Key.text.inj e
    have hmap := hnodup.map hinj
    rw [List.map_map, List.map_map] at hmap
    rwa [List.map_map]
  rw [arrayOf, if_neg (by simp only [hkeyed, Bool.false_eq_true, not_false_iff]), hplace,
    Assoc.ofList_of_nodup hdistinct]

/-! ## What is returned -/

/-- A script that returns an expression returns its value. -/
lemma evaluate_returning {keyword : Keyword "return"} {ts : List Token} {source : List Char}
    (h : Script.Writes source (returnTokens keyword ts)) (directory : Path)
    (file : Option Path) :
    Script.evaluate directory file source =
      (Expr.alone ts).eval { file := file.map directory.join } := by
  rw [Script.evaluate_of_writes h, returnTokens, run_return]
  rfl

section
variable {before after : List (StringLiteral × Phrase)} {key : StringLiteral}

/-- The entries of rows with phrases. -/
def phraseEntries (σ : Surroundings) (rows : List (StringLiteral × Phrase)) :
    List (Key × Value) :=
  rows.map fun row => (.text row.1.value, row.2.value σ)

/-- The array with a value between the rows of phrases. -/
def arrayAround (σ : Surroundings) (before : List (StringLiteral × Phrase)) (key : StringLiteral)
    (v : Value) (after : List (StringLiteral × Phrase)) : Value :=
  .keyed (phraseEntries σ before ++ (.text key.value, v) :: phraseEntries σ after)

/-- The script that returns an array literal with some tokens between the rows of phrases. -/
def scriptAround (keyword : Keyword "return") (before : List (StringLiteral × Phrase))
    (key : StringLiteral) (ts : List Token) (after : List (StringLiteral × Phrase)) : List Token :=
  returnTokens keyword (literalTokens (phraseRows before ++ (key, ts) :: phraseRows after))

/-- What the array has for one key has no part in its other entries. -/
lemma evaluate_scriptAround {directory : Path} {file : Option Path}
    (hkeys : KeysApart (before.map (·.1) ++ key :: after.map (·.1)))
    (hfit : ∀ row ∈ before ++ after,
      row.2.WithinLimit (Surroundings.fresh (file.map directory.join)))
    {ts : List Token} (hts : Expr.Separate ts) {keyword : Keyword "return"} {source : List Char}
    (h : Script.Writes source (scriptAround keyword before key ts after)) :
    Script.evaluate directory file source =
      ((Expr.alone ts).eval { file := file.map directory.join }).map fun v =>
        arrayAround (Surroundings.fresh (file.map directory.join)) before key v after := by
  have hfresh := agrees_fresh (file.map directory.join)
  rw [List.forall_mem_append] at hfit
  have hseparate : ∀ row ∈ phraseRows before ++ (key, ts) :: phraseRows after,
      Expr.Separate row.2 := by
    have hphrases (rows : List (StringLiteral × Phrase)) :
        ∀ row ∈ phraseRows rows, Expr.Separate row.2 := by
      intro row hrow
      obtain ⟨r, -, rfl⟩ := List.mem_map.1 hrow
      exact r.2.separate.2
    rw [List.forall_mem_append, List.forall_mem_cons]
    exact ⟨hphrases before, hts, hphrases after⟩
  have hnumber : ∀ row ∈ phraseRows before ++ (key, ts) :: phraseRows after,
      numberOf? row.1.value = none := by
    intro row hrow
    refine hkeys.2 row.1 ?_
    have hmap := List.mem_map_of_mem (f := fun row : Row => row.1) hrow
    simpa [phraseRows] using hmap
  rw [evaluate_returning h, alone_literal hseparate, eval_literal _ hnumber,
    pairsOf_append _ (pairsOf_phraseRows hfresh hfit.1), pairsOf_cons,
    pairsOf_phraseRows hfresh hfit.2]
  cases (Expr.alone ts).eval { file := file.map directory.join } with
  | error fault => rfl
  | ok v =>
    let value (row : StringLiteral × Phrase) : StringLiteral × Value :=
      (row.1, row.2.value (Surroundings.fresh (file.map directory.join)))
    have hne : before.map value ++ (key, v) :: after.map value ≠ [] := by simp
    have harray := arrayOf_rows hne (by simpa [value, Function.comp_def] using hkeys)
    simp only [List.map_append, List.map_cons, List.map_map] at harray
    exact congrArg Except.ok harray

variable (before after key) in
/-- In an array whose keys are apart a value that is not understood costs no other entry, if the
readers find its end: the array has all the others as it has them with `null` in that place.  For
the key itself it has what the tokens are by themselves, and there is no array if these have no
value. -/
theorem evaluate_around_delimited (directory : Path) (file : Option Path)
    (hkeys : KeysApart (before.map (·.1) ++ key :: after.map (·.1)))
    (hfit : ∀ row ∈ before ++ after,
      row.2.WithinLimit (Surroundings.fresh (file.map directory.join)))
    {ts : List Token} (hts : Expr.Delimited .expression ts) {keyword : Keyword "return"}
    {null : Keyword "null"} {source bare single : List Char}
    (hsource : Script.Writes source (scriptAround keyword before key ts after))
    (hbare : Script.Writes bare (scriptAround keyword before key [null.token] after))
    (hsingle : Script.Writes single (returnTokens keyword ts)) :
    Script.evaluate directory file bare =
        .ok (arrayAround (Surroundings.fresh (file.map directory.join)) before key .null after) ∧
      Script.evaluate directory file source =
        (Script.evaluate directory file single).map fun v =>
          arrayAround (Surroundings.fresh (file.map directory.join)) before key v after := by
  constructor
  · have hnull := (Phrase.operand (.atom (.null null))).separate
    rw [evaluate_scriptAround hkeys hfit hnull.2 hbare, hnull.1]
    rfl
  · rw [evaluate_scriptAround hkeys hfit hts.separate hsource, evaluate_returning hsingle]

/-- The word that can stand in for a value. -/
def sampleNull : Keyword "null" :=
  ⟨⟨"null", by decide⟩, by decide⟩

/-- A call of a method, and the short form of a conditional behind it. -/
def sampleCall : List Token :=
  [⟨.name, "App", 0⟩, op "::", ⟨.name, "env", 0⟩, op "(", ⟨.string, "\x27ID\x27", 0⟩, op ")",
    op "?", op ":", ⟨.number, "1", 0⟩]

/-- The row of the sample whose value is a call. -/
def sampleKey : StringLiteral :=
  ⟨⟨"\x27id\x27", by decide⟩, "id", by decide⟩

/-- The row of the sample that is kept. -/
def sampleRow : StringLiteral × Phrase :=
  (⟨⟨"\x27kept\x27", by decide⟩, "kept", by decide⟩,
    .operand (.atom (.string ⟨⟨"\x27yes\x27", by decide⟩, "yes", by decide⟩)))

/-- The name is no word. -/
lemma ofWord?_app : Expr.ofWord? (Text.lower (Token.mk .name "App" 0).text) = none :=
  ofWord?_eq_none (by decide)

/-- The argument is balanced. -/
lemma run_sampleArgument : Run [] [⟨.string, "\x27ID\x27", 0⟩] :=
  .plain rfl rfl rfl .nil

/-- The call is skipped with its argument, and what stands behind it is discarded. -/
lemma alone_sampleCall : Expr.alone sampleCall = .discarded Expr.unsupported := by
  have hoperand : outcome (Expr.readOperand (sampleCall ++ [op ";"])) =
      (Expr.unsupported, [op "?", op ":", ⟨.number, "1", 0⟩, op ";"]) := by
    simp only [sampleCall, List.cons_append, List.nil_append]
    rw [Expr.outcome_readOperand]
    simp only
    rw [Expr.outcome_readNamed, ofWord?_app]
    simp only
    rw [if_neg (by decide), if_pos (by decide), Expr.readMember_call "App" (by decide) (by decide)]
    exact congrArg (Prod.mk _) (skipGroup_op (by simp) run_sampleArgument (by simp) _)
  have hread : outcome (Expr.read (sampleCall ++ [op ";"])) =
      (.discarded Expr.unsupported, [op ";"]) := by
    rw [Expr.outcome_read, hoperand, Expr.outcome_readChain, if_neg (by decide), if_neg (by decide)]
    rfl
  exact congrArg Prod.fst hread

/-- The call is unresolved, and the row behind it is kept. -/
theorem evaluate_around_call :
    KeysApart [sampleKey, sampleRow.1] ∧ Expr.Delimited .expression sampleCall ∧
      Script.evaluate {} none
          (render (scriptAround returnKeyword [] sampleKey sampleCall [sampleRow])) =
        .ok (.keyed [(.text "id", .unresolved), (.text "kept", .text "yes")]) := by
  have hkeys : KeysApart [sampleKey, sampleRow.1] := by
    refine ⟨by decide, ?_⟩
    simp only [List.forall_mem_cons]
    exact ⟨by decide, by decide, by simp⟩
  have hts : Expr.Delimited .expression sampleCall := by
    have hrest : Expr.Delimited .continuation [op "?", op ":", ⟨.number, "1", 0⟩] :=
      .discarded rfl (run_sign (by decide) (by decide) (run_sign (by decide) (by decide)
        (.plain rfl rfl rfl .nil)))
    exact .method rfl ofWord?_app rfl rfl rfl run_sampleArgument rfl hrest
  have hwrites (ts : List Token) (h : AllStand ts) : Script.Writes (render ts) ts := scan_render h
  have hsource := hwrites (scriptAround returnKeyword [] sampleKey sampleCall [sampleRow])
    (by decide +kernel)
  have hbare := hwrites (scriptAround returnKeyword [] sampleKey [sampleNull.token] [sampleRow])
    (by decide +kernel)
  have hsingle := hwrites (returnTokens returnKeyword sampleCall) (by decide +kernel)
  have hvalue : Script.evaluate {} none (render (returnTokens returnKeyword sampleCall)) =
      .ok .unresolved := by
    rw [evaluate_returning hsingle, alone_sampleCall]
    rfl
  obtain ⟨-, harray⟩ := evaluate_around_delimited [] [sampleRow] sampleKey {} none hkeys
    (by simp [sampleRow, Phrase.WithinLimit, Operand.WithinLimit, Atom.WithinLimit]) hts hsource hbare hsingle
  rw [hvalue] at harray
  exact ⟨hkeys, hts, harray⟩

end

end RouteAudit.Source.Grammar
