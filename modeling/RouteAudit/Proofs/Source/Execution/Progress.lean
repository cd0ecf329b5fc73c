import RouteAudit.Proofs.Source.Expr.Progress
import RouteAudit.Proofs.Source.Grammar.Program

/-!
# Scripts make progress

A script goes on from statement to statement, and each round takes a token before the next one
(`Round.Wanted`).  Hence every script ends, after a number of calls and rounds that its tokens bound
(`progress`).  One loop is counted apart: a path is followed to its parent directory as often as a
number in the source says, and a few tokens are enough for any number (`levels_unbounded`).
-/

namespace RouteAudit.Source

/-! ## Loops that go up from a path -/

/-- The rounds of the loop that goes up from a path, one for each level. -/
def Value.ascents (path levels : Value) : Nat :=
  match path with
  | .text _ => levels.levelCount
  | _ => 0

/-- The rounds that follow an evaluation, if it has no fault. -/
def ascentsAfter {α : Type} (x : Except Fault α) (rounds : α → Nat) : Nat :=
  match x with
  | .ok a => rounds a
  | .error _ => 0

mutual

/-- The rounds of all loops that go up from a path, when an expression is evaluated. -/
def Expr.ascents (env : Env) : Expr → Nat
  | .constant _ | .variable _ | .directory | .file | .className _ => 0
  | .concat left right =>
    left.ascents env + ascentsAfter (left.eval env) fun _ => right.ascents env
  | .array elements => elements.ascents env
  | .parent path levels =>
    path.ascents env + ascentsAfter (path.eval env) fun p =>
      levels.ascents env + ascentsAfter (levels.eval env) p.ascents
  | .discarded e => e.ascents env

/-- The rounds of all loops that go up from a path, when the elements of an array are evaluated. -/
def Elements.ascents (env : Env) : Elements → Nat
  | .nil => 0
  | .item value rest =>
    value.ascents env + ascentsAfter (value.eval env) fun _ => rest.ascents env
  | .pair key value rest =>
    key.ascents env + ascentsAfter (key.eval env >>= Key.ofValue?) fun _ =>
      value.ascents env + ascentsAfter (value.eval env) fun _ => rest.ascents env

end

end RouteAudit.Source

namespace RouteAudit.Source.Script
open Token RouteAudit.Source.Expr

/-- What a round of the loop of a script comes to, and the rounds that go up from a path in it. -/
inductive Round where
  | last (x : Except Fault Value) (ascents : Nat)
  | again (env : Env) (ts : List Token) (ascents : Nat)

/-- One round of the loop of a script. -/
def round (missing : Fault) (env : Env) : List Token → Plan Round
  | [] => .leave (.last (.error missing) 0)
  | t :: ts =>
    if t.isKeyword ["namespace"] then
      match ts with
      | [] => .leave (.last (.error missing) 0)
      | name :: ts =>
        if name.kind = .name then .leave (.again { env with scope := .entering name.text } ts 0)
        else .leave (.again env ts 0)
    else if t.isKeyword ["use"] then
      .loop (UseClause.rounds ts)
        (.leave (.again { env with scope := (UseClause.read env.scope ts).1 }
          (UseClause.read env.scope ts).2 0))
    else if t.isKeyword ["function", "class"] then
      .loop (bodyRounds ts) (.leave (.again env (skipBody ts) 0))
    else if t.kind = .variable then
      match ts with
      | [] => .leave (.last (.error missing) 0)
      | sign :: ts =>
        if sign.isOp ["="] then
          .call .expression ts fun x =>
            match x.1.eval env with
            | .error fault => .leave (.last (.error fault) (x.1.ascents env))
            | .ok v =>
              .leave (.again { env with bindings := env.bindings.insert t.text v } x.2
                (x.1.ascents env))
        else .leave (.again env (sign :: ts) 0)
    else if t.isKeyword ["return"] then
      .call .expression ts fun x => .leave (.last (x.1.eval env) (x.1.ascents env))
    else .leave (.again env ts 0)

/-- What a script returns after a round. -/
def Round.value (missing : Fault) : Round → Except Fault Value
  | last x _ => x
  | again env ts _ => run missing env ts

/-- Whether a script returns something after a number of calls and rounds, and a number of rounds
that go up from a path. -/
inductive Takes (missing : Fault) :
    Env → List Token → Except Fault Value → Nat → Nat → Prop where
  | last {env ts x n k} :
    (round missing env ts).Takes (.last x k) n →
    Takes missing env ts x (n + 1) k
  | again {env env' ts ts' x m n k l} :
    (round missing env ts).Takes (.again env' ts' k) m →
    Takes missing env' ts' x n l →
    Takes missing env ts x (m + n + 1) (k + l)

/-- What a round should come to after a number of calls and rounds. -/
def Round.Wanted (ts : List Token) : Round → Nat → Prop
  | last _ _, n => n ≤ 10 * ts.length
  | again _ ts' _, n =>
    ts' <:+ ts ∧ ts'.length < ts.length ∧ n + 1 + 10 * ts'.length ≤ 10 * ts.length

/-- A script does what is planned for its rounds. -/
lemma value_round (missing : Fault) (env : Env) (ts : List Token) :
    (round missing env ts).result.value missing = run missing env ts := by
  cases ts with
  | nil => rw [run]; rfl
  | cons t ts =>
    rw [run_cons, round.eq_def]
    simp only
    split
    · cases ts with
      | nil => rfl
      | cons name ts =>
        simp only
        split <;> rfl
    · split
      · rfl
      · split
        · rfl
        · split
          · cases ts with
            | nil => rfl
            | cons sign ts =>
              simp only
              split
              · rw [Plan.result, Task.answer]
                cases (outcome (read ts)).1.eval env <;> rfl
              · rfl
          · split <;> rfl

/-! ## Rounds -/

/-- A last round is wanted where an expression is read from fewer tokens. -/
lemma Round.Wanted.last {ts ts' : List Token} {e : Expr × List Token} {m : Nat}
    (h : Task.expression.Spec ts' e m) (hlt : ts'.length < ts.length) (x : Except Fault Value)
    (k : Nat) : (Round.last x k).Wanted ts (m + 1) := by
  have hcalls := h.calls
  simp only [Task.idle, Task.margin] at hcalls
  rw [Wanted]
  omega

/-- The first token pays for a loop that skips. -/
lemma Round.Wanted.looped {env : Env} {t : Token} {ts ts' : List Token} {n : Nat}
    (h : ts' <:+ ts) (hn : n + 2 * ts'.length ≤ 2 * ts.length + 1) :
    (Round.again env ts' 0).Wanted (t :: ts) n := by
  have hlen := h.length_le
  refine ⟨h.trans (List.suffix_cons t ts), Nat.lt_succ_of_le hlen, ?_⟩
  rw [List.length_cons]
  omega

/-- Another round is wanted where the first token is passed over. -/
lemma Round.Wanted.again {env : Env} {t : Token} {ts ts' : List Token} (h : ts' <:+ ts) :
    (Round.again env ts' 0).Wanted (t :: ts) 0 := by
  have hlen := h.length_le
  exact .looped h (by omega)

/-- The two tokens of an assignment pay for the expression behind them. -/
lemma Round.Wanted.assigned {env : Env} {t sign : Token} {ts : List Token}
    {e : Expr × List Token} {m : Nat} (h : Task.expression.Spec ts e m) (k : Nat) :
    (Round.again env e.2 k).Wanted (t :: sign :: ts) (m + 1) := by
  have hcalls := h.calls
  have hsuffix := h.suffix.trans (List.suffix_cons sign ts)
  refine ⟨hsuffix.trans (List.suffix_cons t _), Nat.lt_succ_of_le hsuffix.length_le, ?_⟩
  simp only [Task.idle, Task.margin, List.length_cons] at *
  omega

/-- A round takes a token, or it is the last one. -/
lemma meets_round (missing : Fault) (env : Env) (ts : List Token) :
    (round missing env ts).Meets (fun _ _ => True) (Round.Wanted ts) 0 := by
  fun_cases round missing env ts with
  | case1 => exact Nat.zero_le _
  -- the line of a namespace
  | case2 => exact Nat.zero_le _
  | case3 t _ name ts => exact .again (List.suffix_cons name ts)
  | case4 t _ name ts => exact .again (List.suffix_cons name ts)
  -- what is skipped by a loop
  | case5 t ts =>
    rw [Plan.Meets, Plan.Meets, Nat.zero_add]
    exact .looped (UseClause.read_suffix _ _) (UseClause.rounds_le _ _)
  | case6 t ts =>
    rw [Plan.Meets, Plan.Meets, Nat.zero_add]
    exact .looped (skipBody_suffix ts) (bodyRounds_le ts)
  -- a variable, and the expression that it may be set to
  | case7 => exact Nat.zero_le _
  | case8 t _ _ _ _ sign ts =>
    refine ⟨trivial, fun x m hx => ?_⟩
    simp only [Nat.zero_add]
    cases x.1.eval env with
    | error fault =>
      refine .last hx ?_ _ _
      exact Nat.lt_succ_of_lt (Nat.lt_succ_self _)
    | ok v => exact .assigned hx _
  | case9 => exact .again List.suffix_rfl
  -- the expression that is returned
  | case10 =>
    refine ⟨trivial, fun x m hx => ?_⟩
    simp only [Nat.zero_add]
    exact .last hx (Nat.lt_succ_self _) _ _
  | case11 => exact .again List.suffix_rfl

/-- A round that is not the last one takes a token. -/
lemma again_of_result {missing : Fault} {env env' : Env} {ts ts' : List Token} {k : Nat}
    (h : (round missing env ts).result = .again env' ts' k) :
    ts' <:+ ts ∧ ts'.length < ts.length := by
  obtain ⟨r, n, htakes, hwanted⟩ := (meets_round missing env ts).exists_takes
    fun task ts _ => task.exists_takes ts
  rw [htakes.result] at h
  subst h
  exact ⟨hwanted.1, hwanted.2.1⟩

/-! ## Whole scripts -/

/-- A run that is taken has the outcome of the script. -/
lemma Takes.result {missing : Fault} {env : Env} {ts : List Token} {x : Except Fault Value}
    {n k : Nat} (h : Takes missing env ts x n k) : x = run missing env ts := by
  induction h with
  | last h => rw [← value_round, h.result, Round.value]
  | @again env env' ts ts' x m n k l h _ ih =>
    rw [ih, ← value_round missing env ts, h.result, Round.value]

/-- A run is taken in one number of rounds and of steps up. -/
lemma Takes.unique {missing : Fault} {env : Env} {ts : List Token} {x y : Except Fault Value}
    {n m k l : Nat} (h : Takes missing env ts x n k) (h' : Takes missing env ts y m l) :
    n = m ∧ k = l := by
  induction h generalizing m l with
  | last h =>
    cases h' with
    | last h' =>
      cases h.result.symm.trans h'.result
      exact ⟨by rw [h.unique h'], rfl⟩
    | again h' _ => cases h.result.symm.trans h'.result
  | again h _ ih =>
    cases h' with
    | last h' => cases h.result.symm.trans h'.result
    | again h' hrest =>
      cases h.result.symm.trans h'.result
      obtain ⟨rfl, rfl⟩ := ih hrest
      exact ⟨by rw [h.unique h'], rfl⟩

/-- Every script ends. -/
lemma exists_takes (missing : Fault) (env : Env) (ts : List Token) :
    ∃ x k, ∃ n ≤ 10 * ts.length + 1, Takes missing env ts x n k := by
  obtain ⟨r, m, hround, hwanted⟩ := (meets_round missing env ts).exists_takes
    fun task ts _ => task.exists_takes ts
  rw [Nat.zero_add] at hwanted
  cases r with
  | last x k => exact ⟨x, k, m + 1, Nat.succ_le_succ hwanted, .last hround⟩
  | again env' ts' k =>
    obtain ⟨-, hlt, hpaid⟩ := hwanted
    obtain ⟨x, l, n, hn, hrest⟩ := exists_takes missing env' ts'
    exact ⟨x, k + l, m + n + 1, by omega, .again hround hrest⟩
  termination_by ts.length

/-- Readers leave a suffix of their tokens, and an expression ends at a terminator or at the end.
The loops of arrays and of scripts take a token in every round but the last.  So each task and each
script takes just one number of calls and rounds, which the number of tokens bounds, and one number
of rounds that go up from a path. -/
theorem progress :
    (∀ (task : Task) (ts : List Token), (task.answer ts).2 <:+ ts) ∧
    (∀ ts : List Token, GoesOn terminators (outcome (read ts)).2) ∧
    (∀ (before before' : Elements → Elements) (ts ts' : List Token),
      ((Task.elements before).plan ts).Makes (.elements before') ts' →
        ts' <:+ ts ∧ ts'.length < ts.length) ∧
    (∀ (missing : Fault) (env env' : Env) (ts ts' : List Token) (k : Nat),
      (round missing env ts).result = .again env' ts' k → ts' <:+ ts ∧ ts'.length < ts.length) ∧
    (∀ (task : Task) (ts : List Token), ∃ n ≤ 10 * ts.length + 4, ∀ x m,
      (task.plan ts).Takes x m ↔ x = task.answer ts ∧ m = n) ∧
    ∀ (missing : Fault) (env : Env) (ts : List Token), ∃ n ≤ 10 * ts.length + 1, ∃ k, ∀ x m l,
      Takes missing env ts x m l ↔ x = run missing env ts ∧ m = n ∧ l = k := by
  refine ⟨Task.answer_suffix, goesOn_read, fun _ _ _ _ => elements_makes,
    fun _ _ _ _ _ _ => again_of_result, fun task ts => ?_, fun missing env ts => ?_⟩
  · obtain ⟨n, htakes, hspec⟩ := task.exists_spec ts
    refine ⟨n, ?_, fun x m => ⟨fun h => ?_, ?_⟩⟩
    · have hidle := task.idle_le
      have hcalls := hspec.calls
      omega
    · exact ⟨(h.result.symm.trans (task.result_plan ts)), h.unique htakes⟩
    · rintro ⟨rfl, rfl⟩
      exact htakes
  · obtain ⟨x, k, n, hn, htakes⟩ := exists_takes missing env ts
    refine ⟨n, hn, k, fun y m l => ⟨fun h => ⟨h.result, h.unique htakes⟩, ?_⟩⟩
    rintro ⟨rfl, rfl, rfl⟩
    exact htakes.result ▸ htakes

/-! ## Going up from a path -/

section
open Grammar
open Text.Numeral (Digit IntegerLiteral)

/-- A power of sixteen in hexadecimal digits. -/
def powerLiteral (z : Nat) : IntegerLiteral :=
  .marked .hexadecimal false
    { first := .hexadecimal 1, rest := List.replicate z (false, .hexadecimal 0) }

/-- Zeros have no value. -/
lemma ofDigits_replicate_zero (z : Nat) : Nat.ofDigits 16 (List.replicate z 0) = 0 := by
  induction z with
  | zero => rfl
  | succ z ih => rw [List.replicate_succ, Nat.ofDigits_cons, ih]

/-- The literal has the power as its value. -/
lemma value_powerLiteral (z : Nat) : (powerLiteral z).value = 16 ^ z := by
  have digits : (powerLiteral z).values = 1 :: List.replicate z 0 := by
    show 1 :: ((List.replicate z (false, Digit.hexadecimal 0)).map Prod.snd).map
      (fun d => d.value.val) = _
    rw [List.map_replicate, List.map_replicate]
    rfl
  have base : (powerLiteral z).base = 16 := rfl
  rw [IntegerLiteral.value, digits, base, List.reverse_cons, List.reverse_replicate,
    Nat.ofDigits_append, ofDigits_replicate_zero, List.length_replicate, Nat.ofDigits_singleton,
    Nat.zero_add, Nat.mul_one]

/-- As many levels as a power of sixteen. -/
def powerLevels (z : Nat) : Levels where
  literal := powerLiteral z
  reads := if_neg (not_or.2 ⟨not_false, not_false⟩)
  pos := by
    rw [value_powerLiteral]
    exact Nat.one_le_two_pow.trans (Nat.pow_le_pow_left (by decide) z)

/-- The directory of a path of one letter, some levels up. -/
def parentPhrase (levels : Levels) : Phrase :=
  .operand (.parent ⟨⟨"dirname", by decide⟩, by decide⟩
    (.operand (.atom (.string sampleLiteral))) (some levels))

/-- As many directories are gone up as the literal says. -/
lemma ascents_parentPhrase (env : Env) (levels : Levels) :
    (parentPhrase levels).expr.ascents env = levels.literal.value := by
  show Expr.ascents env (.parent (.constant (.text "a"))
    (.constant (.integer levels.literal.value))) = _
  simp [Expr.ascents, Expr.eval, ascentsAfter, Value.ascents, Value.levelCount]

/-- A script that goes up from a path does a round for each level. -/
lemma ascents_of_takes {missing : Fault} {env : Env} {levels : Levels} {x : Except Fault Value}
    {n k : Nat}
    (h : Takes missing env (returnKeyword.token :: ((parentPhrase levels).tokens ++ [op ";"])) x n k) :
    k = levels.literal.value := by
  have hresult : (round missing env (returnKeyword.token ::
      ((parentPhrase levels).tokens ++ [op ";"]))).result =
      .last ((parentPhrase levels).expr.eval env) levels.literal.value := by
    have hread := read_phrase (parentPhrase levels) []
    rw [round.eq_def]
    simp only
    rw [if_neg (by decide), if_neg (by decide), if_neg (by decide), if_neg (by decide),
      if_pos (by decide), Plan.result, Task.answer, hread, ← ascents_parentPhrase env levels]
    rfl
  cases h with
  | last h =>
    cases h.result.symm.trans hresult
    rfl
  | again h _ => cases h.result.symm.trans hresult

/-- With the rounds that go up from a path, no number of calls and rounds is enough for all scripts
of as many tokens. -/
theorem levels_unbounded :
    ¬∃ bound : Nat → Nat, ∀ (missing : Fault) (env : Env) (ts : List Token)
      (x : Except Fault Value) (n k : Nat), Takes missing env ts x n k → n + k ≤ bound ts.length := by
  rintro ⟨bound, hbound⟩
  let levels := powerLevels (bound 8)
  obtain ⟨x, k, n, -, htakes⟩ := exists_takes (.noReturn none) {}
    (returnKeyword.token :: ((parentPhrase levels).tokens ++ [op ";"]))
  have hle : n + k ≤ bound 8 := hbound _ _ _ _ _ _ htakes
  rw [ascents_of_takes htakes] at hle
  have hpower : levels.literal.value = 16 ^ bound 8 := value_powerLiteral _
  have hlarge : bound 8 < 16 ^ bound 8 := Nat.lt_pow_self (by decide)
  omega

end

end RouteAudit.Source.Script
