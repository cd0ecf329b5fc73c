import RouteAudit.Proofs.Source.Declaration.Place
import RouteAudit.Proofs.Source.Expr.Step

/-!
# Values do not depend on places

The value of a script depends on its tokens, and not on where these stand (`evaluate_congr`).
-/

namespace RouteAudit.Source
open Token

/-- A reader leaves no more tokens than it got. -/
lemma Token.length_outcome_le {α : Type} {ts : List Token} (x : α × Rest ts) :
    (outcome x).2.length ≤ ts.length :=
  x.2.2

namespace Expr

/-- A string is an expression wherever it stands. -/
@[simp]
lemma ofString_unplaced (t : Token) : ofString t.unplaced = ofString t := by
  rw [ofString, stringValue?_unplaced, ofString]

/-- A closing bracket is dropped wherever it stands. -/
lemma dropClose_unplaced (ts : List Token) :
    (dropClose (ts.map unplaced)).1 = (dropClose ts).1.map unplaced := by
  cases ts with
  | nil => rfl
  | cons t ts =>
    rw [List.map_cons, dropClose_cons, isOp_unplaced, dropClose_cons, apply_ite (List.map unplaced),
      List.map_cons]

/-- The member of a class is read alike wherever it stands. -/
lemma readMember_unplaced (name : String) (ts : List Token) :
    outcome (readMember name (ts.map unplaced)) = forget (outcome (readMember name ts)) := by
  match ts with
  | [] => rfl
  | [member] =>
    show outcome (readMember name [member.unplaced]) = _
    by_cases h : member.isKeyword ["class"] = true <;> simp [readMember, h, outcome]
  | member :: call :: ts =>
    show outcome (readMember name (member.unplaced :: call.unplaced :: ts.map unplaced)) = _
    by_cases h : member.isKeyword ["class"] = true
    · simp [readMember, h, outcome]
    · by_cases hc : call.isOp ["("] = true <;> simp [readMember, h, hc, outcome]

mutual

/-- An expression is read alike wherever it stands. -/
lemma read_unplaced (ts : List Token) :
    outcome (read (ts.map unplaced)) = forget (outcome (read ts)) := by
  have hr := length_outcome_le (readOperand ts)
  rw [outcome_read, readOperand_unplaced ts, fst_forget, snd_forget,
    readChain_unplaced _ (outcome (readOperand ts)).2, outcome_read ts]
  termination_by 3 * ts.length + 1

/-- A chain is read alike wherever it stands. -/
lemma readChain_unplaced (left : Expr) (ts : List Token) :
    outcome (readChain left (ts.map unplaced)) = forget (outcome (readChain left ts)) := by
  cases ts with
  | nil => rw [List.map_nil, readChain]; rfl
  | cons t ts =>
    have hr := length_outcome_le (readOperand ts)
    rw [List.map_cons, outcome_readChain, outcome_readChain, readOperand_unplaced ts, fst_forget,
      snd_forget, readChain_unplaced _ (outcome (readOperand ts)).2, ← List.map_cons,
      skipUntil_unplaced, apply_ite forget, apply_ite forget, isOp_unplaced, isOp_unplaced]
    rfl
  termination_by 3 * ts.length + 0

/-- An operand is read alike wherever it stands. -/
lemma readOperand_unplaced (ts : List Token) :
    outcome (readOperand (ts.map unplaced)) = forget (outcome (readOperand ts)) := by
  cases ts with
  | nil => rw [List.map_nil, readOperand]; rfl
  | cons t ts =>
    rw [List.map_cons, outcome_readOperand, outcome_readOperand, readElements_unplaced ts,
      read_unplaced ts, text_unplaced, readNamed_unplaced _ ts, ← List.map_cons,
      skipUntil_unplaced, ofString_unplaced, kind_unplaced, isOp_unplaced, isOp_unplaced]
    simp only [fst_forget, snd_forget, dropClose_unplaced]
    cases t.kind with
    | op =>
      simp only
      rw [apply_ite forget, apply_ite forget]
      rfl
    | _ => rfl
  termination_by 3 * ts.length + 0

/-- What comes behind a name is read alike wherever it stands. -/
lemma readNamed_unplaced (name : String) (ts : List Token) :
    outcome (readNamed name (ts.map unplaced)) = forget (outcome (readNamed name ts)) := by
  cases ts with
  | nil => rw [List.map_nil, outcome_readNamed_nil]; rfl
  | cons t ts =>
    rw [List.map_cons, outcome_readNamed, outcome_readNamed, readElements_unplaced ts,
      readParent_unplaced ts, readMember_unplaced, skipGroup_cons_unplaced, isOp_unplaced,
      isOp_unplaced]
    cases ofWord? (Text.lower name) with
    | some e => rfl
    | none =>
      simp only
      rw [apply_ite forget, apply_ite forget, apply_ite forget, apply_ite forget]
      rfl
  termination_by 3 * ts.length + 0

/-- The parent of a path is read alike wherever it stands. -/
lemma readParent_unplaced (ts : List Token) :
    outcome (readParent (ts.map unplaced)) = forget (outcome (readParent ts)) := by
  have hr := length_outcome_le (read ts)
  rw [outcome_readParent, read_unplaced ts, outcome_readParent ts]
  rcases hx : outcome (read ts) with ⟨path, _ | ⟨t, r⟩⟩
  · rfl
  · rw [hx] at hr
    have hlt : r.length < ts.length := hr
    simp only [forget_mk, List.map_cons]
    rw [read_unplaced r, dropClose_cons, dropClose_cons, isOp_unplaced, isOp_unplaced,
      apply_ite forget]
    simp only [fst_forget, snd_forget, dropClose_unplaced, forget_mk, apply_ite (List.map unplaced),
      List.map_cons]
  termination_by 3 * ts.length + 2

/-- Elements are read alike wherever they stand. -/
lemma readElements_unplaced (ts : List Token) :
    outcome (readElements (ts.map unplaced)) = forget (outcome (readElements ts)) := by
  cases ts with
  | nil => rw [List.map_nil, readElements]; rfl
  | cons t ts =>
    have hskip := length_skipUntil_le [","] ts
    have hr := length_outcome_le (read (t :: ts))
    rw [List.map_cons, outcome_readElements, ← List.map_cons, read_unplaced (t :: ts),
      skipUntil_unplaced, readElements_unplaced ts, readElements_unplaced (skipUntil [","] ts),
      outcome_readElements t ts, closes_unplaced, isOp_unplaced, isOp_unplaced,
      apply_ite forget, apply_ite forget, apply_ite forget]
    congr 3
    rcases hx : outcome (read (t :: ts)) with ⟨first, _ | ⟨arrow, r⟩⟩
    · rfl
    · rw [hx] at hr
      have hle : r.length ≤ ts.length := Nat.le_of_succ_le_succ hr
      have hr' := length_outcome_le (read r)
      simp only [forget_mk, List.map_cons, List.length_map]
      rw [read_unplaced r, snd_forget, readElements_unplaced (outcome (read r)).2,
        isOp_unplaced, apply_ite forget, apply_ite forget]
      congr 1
      by_cases hlt : r.length < ts.length
      · rw [if_pos hlt, if_pos hlt, ← List.map_cons, readElements_unplaced (arrow :: r)]
        rfl
      · rw [if_neg hlt, if_neg hlt]
        rfl
  termination_by 3 * ts.length + 2

end

end Expr

namespace Script

/-- What the first statement of a script makes of its value. -/
lemma run_cons (missing : Fault) (env : Env) (t : Token) (ts : List Token) :
    run missing env (t :: ts) =
      if t.isKeyword ["namespace"] then
        match ts with
        | [] => .error missing
        | name :: ts =>
          if name.kind = .name then run missing { env with scope := .entering name.text } ts
          else run missing env ts
      else if t.isKeyword ["use"] then
        run missing { env with scope := (UseClause.read env.scope ts).1 }
          (UseClause.read env.scope ts).2
      else if t.isKeyword ["function", "class"] then run missing env (skipBody ts)
      else if t.kind = .variable then
        match ts with
        | [] => .error missing
        | sign :: ts =>
          if sign.isOp ["="] then
            match (outcome (Expr.read ts)).1.eval env with
            | .error fault => .error fault
            | .ok v =>
              run missing { env with bindings := env.bindings.insert t.text v }
                (outcome (Expr.read ts)).2
          else run missing env (sign :: ts)
      else if t.isKeyword ["return"] then (outcome (Expr.read ts)).1.eval env
      else run missing env ts := by
  rw [run.eq_def]
  rfl

/-- A variable in front of an equals sign is set, and any other is passed over. -/
lemma run_variable (missing : Fault) (env : Env) {t : Token} (ht : t.kind = .variable)
    (sign : Token) (ts : List Token) :
    run missing env (t :: sign :: ts) =
      if sign.isOp ["="] then
        match (outcome (Expr.read ts)).1.eval env with
        | .error fault => .error fault
        | .ok v =>
          run missing { env with bindings := env.bindings.insert t.text v }
            (outcome (Expr.read ts)).2
      else run missing env (sign :: ts) := by
  have noKeyword (words : List String) : ¬t.isKeyword words = true := by simp [isKeyword, ht]
  rw [run_cons, if_neg (noKeyword _), if_neg (noKeyword _), if_neg (noKeyword _), if_pos ht]

/-- A script returns the same without places. -/
@[simp]
theorem run_unplaced (missing : Fault) (env : Env) (ts : List Token) :
    run missing env (ts.map unplaced) = run missing env ts := by
  fun_induction run missing env ts
  case case1 => rw [List.map_nil, run]
  case case11 hr =>
    rw [List.map_cons, run_cons, Expr.read_unplaced]
    simp_all [outcome]
  case case8 | case9 =>
    rw [List.map_cons, run_cons, List.map_cons]
    simp only [Expr.read_unplaced, fst_forget, snd_forget]
    simp_all [outcome]
  all_goals
    rw [List.map_cons, run_cons]
    simp_all

/-- Whether the tokens of a source are the given ones, wherever they stand. -/
def Writes (source : List Char) (ts : List Token) : Prop :=
  (Token.scan source).map unplaced = ts.map unplaced

/-- The value of a source depends on its tokens alone. -/
lemma evaluate_of_writes {source : List Char} {ts : List Token} (h : Writes source ts)
    (directory : Path) (file : Option Path) :
    evaluate directory file source =
      run (.noReturn file) { file := file.map directory.join } ts := by
  rw [evaluate, ← run_unplaced, h, run_unplaced]

/-- Sources with the same tokens return the same, wherever the tokens stand. -/
theorem evaluate_congr {source source' : List Char} (directory : Path) (file : Option Path)
    (h : (Token.scan source).map unplaced = (Token.scan source').map unplaced) :
    evaluate directory file source = evaluate directory file source' := by
  rw [evaluate, ← run_unplaced, h, run_unplaced, ← evaluate]

end Script

end RouteAudit.Source
