import RouteAudit.Proofs.Source.Declaration.Suffix
import RouteAudit.Proofs.Source.Expr.Delimited
import RouteAudit.Proofs.Source.Expr.Plan
import RouteAudit.Proofs.Source.Token.GroupEnd

/-!
# The readers of expressions make progress

A call need not take a token: at a terminator nothing can be read.  What keeps the readers going is
said for all tasks together (`Task.Spec`): a reader leaves a suffix of its tokens, an expression
stops at a terminator, and a call that takes no token makes just a few further calls and rounds, which
the next token that is taken pays for.  Each plan keeps this if the calls that it makes do (`Task.meets`),
and it calls for something smaller only, so that all calls end and keep it (`Task.exists_takes`).
-/

namespace RouteAudit.Source.Expr
open Token

/-- A task calls for tasks of a lower rank at the same tokens. -/
@[simp]
def Task.rank : Task → Nat
  | .expression => 1
  | .chain _ => 0
  | .operand => 0
  | .named _ => 0
  | .parent => 2
  | .array => 3
  | .elements _ => 2

/-- What gets smaller from a task to the calls that are made for it. -/
def Task.size (task : Task) (ts : List Token) : Nat :=
  4 * ts.length + task.rank

/-- The number of calls and rounds for a task that takes no token. -/
@[simp]
def Task.idle : Task → Nat
  | .expression => 3
  | .chain _ => 0
  | .operand => 1
  | .named _ => 0
  | .parent => 4
  | .array => 1
  | .elements _ => 0

/-- The number of calls and rounds that a task that takes tokens leaves unused. -/
@[simp]
def Task.margin : Task → Nat
  | .expression => 3
  | .chain _ => 6
  | .operand => 5
  | .named _ => 0
  | .parent => 0
  | .array => 0
  | .elements _ => 1

/-- Whether a task goes on to a terminator. -/
def Task.stops : Task → Bool
  | .expression => true
  | .chain _ => true
  | _ => false

/-- What a task has done after a number of calls and rounds, where each token pays for ten of them. -/
structure Task.Spec (task : Task) (ts : List Token) (x : Expr × List Token) (n : Nat) : Prop where
  suffix : x.2 <:+ ts
  goesOn : task.stops = true → GoesOn terminators x.2
  calls : (x.2.length = ts.length ∧ n ≤ task.idle) ∨
    n + task.margin + 10 * x.2.length ≤ 10 * ts.length

/-- Whether a plan, after some calls and rounds, calls for what is allowed only and returns what is
wanted, if all its calls do what they should. -/
def Plan.Meets {α : Type} (allowed : Task → List Token → Prop) (wanted : α → Nat → Prop) :
    Plan α → Nat → Prop
  | .leave x, n => wanted x n
  | .loop rounds next, n => next.Meets allowed wanted (n + rounds)
  | .call task ts next, n =>
    allowed task ts ∧ ∀ x m, task.Spec ts x m → (next x).Meets allowed wanted (n + m + 1)

/-- Whether a call may be made for a task. -/
def Task.Allows (task : Task) (ts : List Token) (task' : Task) (ts' : List Token) : Prop :=
  ts' <:+ ts ∧ task'.size ts' < task.size ts

/-- Whether the plan for a task does what the task should, if the calls for it do. -/
def Task.Meets (task : Task) (ts : List Token) : Prop :=
  (task.plan ts).Meets (task.Allows ts) (task.Spec ts) 0

/-! ## Tokens that are taken at once -/

/-- A token that is no stop and closes nothing is passed. -/
lemma skipUntil_suffix_tail {stops : List String} {t : Token} (hs : t.isOp stops = false)
    (hc : t.closes = false) (ts : List Token) : skipUntil stops (t :: ts) <:+ ts := by
  rw [skipUntil, skipUntilFrom, if_neg (by simp [hs])]
  split
  · rw [skipUntilFrom_succ]
    exact (skipUntil_suffix _ _).trans (skipOpen_suffix _ _)
  · rw [if_neg (by simp [hc])]
    exact skipUntil_suffix _ _

/-- At a stop, or at the end, no expression goes on. -/
lemma goesOn_skipUntil (ts : List Token) : GoesOn terminators (skipUntil terminators ts) := by
  intro t ht
  exact (head_skipUntil terminators ts t ht).elim id terminates_of_closes

/-- Behind a closing bracket a suffix is left. -/
lemma dropClose_suffix (ts : List Token) : (dropClose ts).1 <:+ ts := by
  cases ts with
  | nil => exact List.suffix_rfl
  | cons t ts =>
    rw [dropClose_cons]
    split
    · exact List.suffix_cons t ts
    · exact List.suffix_rfl

/-- The reader of class members leaves a suffix. -/
lemma readMember_suffix (name : String) (ts : List Token) :
    (outcome (readMember name ts)).2 <:+ ts := by
  rw [readMember.eq_def]
  cases ts with
  | nil => exact List.suffix_rfl
  | cons member ts =>
    simp only
    split
    · exact List.suffix_cons member ts
    · cases ts with
      | nil => exact List.nil_suffix
      | cons call ts =>
        simp only
        split
        · exact (skipGroup_suffix (call :: ts)).trans (List.suffix_cons member _)
        · exact List.suffix_cons member _

/-- Each round takes a token. -/
lemma memberRounds_le (name : String) (ts : List Token) :
    memberRounds ts + (outcome (readMember name ts)).2.length ≤ ts.length := by
  rw [memberRounds.eq_def, readMember.eq_def]
  cases ts with
  | nil => exact Nat.le_refl _
  | cons member ts =>
    simp only [List.length_cons]
    split
    · simp [outcome]
    · cases ts with
      | nil => exact Nat.zero_le _
      | cons call ts =>
        have group := groupRounds_add (call :: ts)
        simp only [List.length_cons] at *
        split
        · simp only [outcome]
          omega
        · simp [outcome]

/-- There are four ranks. -/
lemma Task.rank_le (task : Task) : task.rank ≤ 3 := by
  cases task <;> simp [rank]

/-- A task makes at most four calls without taking a token. -/
lemma Task.idle_le (task : Task) : task.idle ≤ 4 := by
  cases task <;> simp [idle]

/-- A task makes at most six calls for the token that it starts with. -/
lemma Task.margin_le (task : Task) : task.margin ≤ 6 := by
  cases task <;> simp [margin]

/-- A reader that does not go on to a terminator may stop in front of anything. -/
lemma goesOn_free {task : Task} (h : task.stops = false) {ts : List Token}
    (hstops : task.stops = true) : GoesOn terminators ts :=
  absurd hstops (Bool.eq_false_iff.1 h)

/-- A reader may return all its tokens. -/
lemma Task.Spec.untaken {task : Task} {ts : List Token} (e : Expr)
    (h : task.stops = true → GoesOn terminators ts) : task.Spec ts (e, ts) 0 :=
  ⟨List.suffix_rfl, h, .inl ⟨rfl, Nat.zero_le _⟩⟩

/-- A reader may take tokens without a call, in no more rounds than a loop that skips. -/
lemma Task.Spec.looped {task : Task} {ts : List Token} {x : Expr × List Token} {n : Nat}
    (h : x.2 <:+ ts) (hlt : x.2.length < ts.length)
    (hs : task.stops = true → GoesOn terminators x.2)
    (hn : n + 2 * x.2.length ≤ 2 * ts.length + 1) : task.Spec ts x n := by
  refine ⟨h, hs, .inr ?_⟩
  have hmargin := task.margin_le
  omega

/-- A reader may take a token and more at once. -/
lemma Task.Spec.taken {task : Task} {t : Token} {ts : List Token} {x : Expr × List Token}
    (h : x.2 <:+ ts) (hs : task.stops = true → GoesOn terminators x.2) :
    task.Spec (t :: ts) x 0 := by
  have hlen := h.length_le
  refine .looped (h.trans (List.suffix_cons t ts)) (Nat.lt_succ_of_le hlen) hs ?_
  rw [List.length_cons]
  omega

/-- A reader may skip to the end of an expression. -/
lemma Task.Spec.skipped {task : Task} {t : Token} {ts : List Token} {e : Expr}
    (hstop : t.isOp terminators = false)
    (hs : task.stops = true → GoesOn terminators (skipUntil terminators (t :: ts))) :
    task.Spec (t :: ts) (e, skipUntil terminators (t :: ts))
      (untilRounds terminators (t :: ts)) := by
  have hclose : t.closes = false := isOp_eq_false_of_subset hstop (by decide)
  have hlen := (skipUntil_suffix_tail hstop hclose ts).length_le
  exact .looped (skipUntil_suffix _ _) (Nat.lt_succ_of_le hlen) hs (untilRounds_le _ _)

/-- Behind a token every call may be made. -/
lemma Task.Allows.behind {task task' : Task} {t : Token} {ts ts' : List Token} (h : ts' <:+ ts) :
    task.Allows (t :: ts) task' ts' := by
  refine ⟨h.trans (List.suffix_cons t ts), ?_⟩
  have hlen := h.length_le
  have hrank := task'.rank_le
  rw [size, size, List.length_cons]
  omega

/-- A task may call one of a smaller rank on the same tokens. -/
lemma Task.Allows.of_rank {task task' : Task} {ts ts' : List Token} (h : ts' <:+ ts)
    (hrank : task'.rank < task.rank) : task.Allows ts task' ts' := by
  refine ⟨h, ?_⟩
  have hlen := h.length_le
  rw [size, size]
  omega

/-! ## The plans -/

/-- The reader of expressions keeps to its specification. -/
lemma meets_expression (ts : List Token) : Task.expression.Meets ts := by
  refine ⟨.of_rank List.suffix_rfl (by decide), fun x m hx => ?_⟩
  have hlen := hx.suffix.length_le
  refine ⟨.of_rank hx.suffix Nat.zero_lt_one, fun y n hy =>
    ⟨hy.suffix.trans hx.suffix, fun _ => hy.goesOn rfl, ?_⟩⟩
  have h₁ := hx.calls
  have h₂ := hy.calls
  simp only [Task.idle, Task.margin] at *
  omega

/-- The reader of chains keeps to its specification. -/
lemma meets_chain (left : Expr) (ts : List Token) : (Task.chain left).Meets ts := by
  cases ts with
  | nil => exact .untaken left fun _ => nofun
  | cons t ts =>
    rw [Task.Meets, Task.plan]
    split
    · next ht => exact .untaken left fun _ u hu => Option.some.inj hu ▸ ht
    · next ht =>
      split
      · refine ⟨.behind List.suffix_rfl, fun x m hx => ?_⟩
        have hlen := hx.suffix.length_le
        refine ⟨.behind hx.suffix, fun y n hy =>
          ⟨(hy.suffix.trans hx.suffix).trans (List.suffix_cons t ts), fun _ => hy.goesOn rfl, ?_⟩⟩
        have h₁ := hx.calls
        have h₂ := hy.calls
        simp only [Task.idle, Task.margin, List.length_cons] at *
        omega
      · have hstop : t.isOp terminators = false := Bool.eq_false_iff.2 ht
        rw [Plan.Meets, Plan.Meets, Nat.zero_add]
        exact .skipped hstop fun _ => goesOn_skipUntil _

/-- Where nothing is understood, tokens are skipped, unless an expression ends there. -/
lemma meets_skipped (allowed : Task → List Token → Prop) (t : Token) (ts : List Token) :
    (skipped t ts).Meets allowed (Task.operand.Spec (t :: ts)) 0 := by
  rw [skipped, Plan.Meets, Plan.Meets, Nat.zero_add]
  cases hstop : t.isOp terminators with
  | true =>
    have hrounds : untilRounds terminators (t :: ts) = 1 := by
      rw [untilRounds, if_pos hstop]
    rw [skipUntil_stop hstop, hrounds]
    exact ⟨List.suffix_rfl, goesOn_free rfl, .inl ⟨rfl, Nat.le_refl _⟩⟩
  | false => exact .skipped hstop (goesOn_free rfl)

/-- A reader may end with a call behind its first token, if the tokens that it has taken by then pay
for all calls up to that one. -/
lemma meets_last {task task' : Task} {t : Token} {ts ts' : List Token} {n : Nat} (h : ts' <:+ ts)
    (hstops : task.stops = false)
    (hpaid : n + (task'.idle + 1 + task.margin) + 10 * ts'.length ≤ 10 * (t :: ts).length) :
    (Plan.call task' ts' .leave).Meets (task.Allows (t :: ts)) (task.Spec (t :: ts)) n := by
  refine ⟨.behind h, fun x m hx => ?_⟩
  refine ⟨(hx.suffix.trans h).trans (List.suffix_cons t ts), goesOn_free hstops, .inr ?_⟩
  have hcalls := hx.calls
  omega

/-- The first token pays for one call by itself. -/
lemma meets_behind {task task' : Task} {ts ts' : List Token} (t : Token) (h : ts' <:+ ts)
    (hstops : task.stops = false) (hpaid : task'.idle + 1 + task.margin ≤ 10) :
    (Plan.call task' ts' .leave).Meets (task.Allows (t :: ts)) (task.Spec (t :: ts)) 0 := by
  refine meets_last h hstops ?_
  have hlen := h.length_le
  rw [List.length_cons]
  omega

/-- The reader of operands keeps to its specification. -/
lemma meets_operand (ts : List Token) : Task.operand.Meets ts := by
  cases ts with
  | nil => exact .untaken _ (goesOn_free rfl)
  | cons t ts =>
    rw [Task.Meets, Task.plan]
    cases t.kind with
    | string => exact .taken List.suffix_rfl (goesOn_free rfl)
    | number => exact .taken List.suffix_rfl (goesOn_free rfl)
    | «variable» => exact .taken List.suffix_rfl (goesOn_free rfl)
    | heredoc => exact .taken List.suffix_rfl (goesOn_free rfl)
    | other => exact meets_skipped _ t ts
    | name => exact meets_behind t List.suffix_rfl rfl (by simp)
    | op =>
      simp only
      split
      · exact meets_behind t List.suffix_rfl rfl (by simp)
      · split
        · refine ⟨.behind List.suffix_rfl, fun x m hx => ?_⟩
          have hclose := dropClose_suffix x.2
          refine ⟨(hclose.trans hx.suffix).trans (List.suffix_cons t ts), goesOn_free rfl, .inr ?_⟩
          have hcalls := hx.calls
          have hlen := hclose.length_le
          simp only [Task.idle, Task.margin, List.length_cons] at *
          omega
        · exact meets_skipped _ t ts

/-- The reader of names keeps to its specification. -/
lemma meets_named (name : String) (ts : List Token) : (Task.named name).Meets ts := by
  cases ts with
  | nil => exact .untaken _ (goesOn_free rfl)
  | cons t ts =>
    rw [Task.Meets, Task.plan]
    cases ofWord? (Text.lower name) with
    | some e => exact .untaken e (goesOn_free rfl)
    | none =>
      simp only
      split
      · split
        · exact meets_behind t List.suffix_rfl rfl (by simp)
        · split
          · exact meets_behind t List.suffix_rfl rfl (by simp)
          · have hrounds := groupRounds_add (t :: ts)
            refine .looped (skipGroup_suffix _) (length_skipGroup_lt t ts) (goesOn_free rfl) ?_
            simp only
            omega
      · split
        · have hrounds := memberRounds_le name ts
          have hsuffix := readMember_suffix name ts
          refine .looped (hsuffix.trans (List.suffix_cons t ts))
            (Nat.lt_succ_of_le hsuffix.length_le) (goesOn_free rfl) ?_
          simp only [List.length_cons]
          omega
        · exact .untaken _ (goesOn_free rfl)

/-- The reader of parent directories keeps to its specification. -/
lemma meets_parent (ts : List Token) : Task.parent.Meets ts := by
  refine ⟨.of_rank List.suffix_rfl (by decide), ?_⟩
  rintro ⟨path, _ | ⟨t, r⟩⟩ m hp
  · refine ⟨List.nil_suffix, goesOn_free rfl, ?_⟩
    have hcalls := hp.calls
    simp only [Task.idle, Task.margin] at *
    omega
  · have hsuffix : t :: r <:+ ts := hp.suffix
    have hcalls := hp.calls
    have hlen := hsuffix.length_le
    simp only
    split
    · have hr : r <:+ ts := (List.suffix_cons t r).trans hsuffix
      refine ⟨.of_rank hr (by decide), fun levels n hl => ?_⟩
      have hclose := dropClose_suffix levels.2
      refine ⟨(hclose.trans hl.suffix).trans hr, goesOn_free rfl, .inr ?_⟩
      have hcalls' := hl.calls
      have hlen' := hclose.length_le
      simp only [Task.idle, Task.margin, List.length_cons] at *
      omega
    · have hclose := dropClose_suffix (t :: r)
      refine ⟨hclose.trans hsuffix, goesOn_free rfl, ?_⟩
      have hlen' := hclose.length_le
      simp only [Task.idle, Task.margin, List.length_cons] at *
      omega

/-- The reader of arrays keeps to its specification. -/
lemma meets_array (ts : List Token) : Task.array.Meets ts := by
  refine ⟨.of_rank List.suffix_rfl (by decide), fun x m hx => ?_⟩
  refine ⟨hx.suffix, goesOn_free rfl, ?_⟩
  have hcalls := hx.calls
  simp only [Task.idle, Task.margin] at *
  omega

/-- The reader of elements keeps to its specification. -/
lemma meets_elements (before : Elements → Elements) (ts : List Token) :
    (Task.elements before).Meets ts := by
  cases ts with
  | nil => exact .untaken _ (goesOn_free rfl)
  | cons t ts =>
    rw [Task.Meets, Task.plan]
    split
    · exact .taken List.suffix_rfl (goesOn_free rfl)
    · split
      · exact meets_behind t List.suffix_rfl rfl (by simp)
      · split
        · have hrounds := untilRounds_le [","] ts
          refine meets_last (skipUntil_suffix _ _) rfl ?_
          simp only [Task.idle, Task.margin, List.length_cons]
          have hlen := length_skipUntil_le [","] ts
          omega
        · refine ⟨.of_rank List.suffix_rfl (by simp), ?_⟩
          rintro ⟨first, _ | ⟨arrow, r⟩⟩ m hf
          · have hcalls := hf.calls
            refine meets_last List.nil_suffix rfl ?_
            simp only [Task.idle, Task.margin, List.length_cons, List.length_nil] at *
            omega
          · have hsuffix : arrow :: r <:+ t :: ts := hf.suffix
            have hlen : r.length ≤ ts.length := Nat.le_of_succ_le_succ hsuffix.length_le
            have hr : r <:+ ts := List.suffix_of_suffix_length_le
              ((List.suffix_cons arrow r).trans hsuffix) (List.suffix_cons t ts) hlen
            have hcalls := hf.calls
            simp only
            split
            · -- the arrow may be the only token taken, and pays for all the calls up to here
              refine ⟨.behind hr, fun value n hv => ?_⟩
              have hcalls' := hv.calls
              refine meets_last (hv.suffix.trans hr) rfl ?_
              simp only [Task.idle, Task.margin, List.length_cons] at *
              omega
            · split
              · next hlt =>
                refine meets_last
                  (List.suffix_of_suffix_length_le hsuffix (List.suffix_cons t ts) hlt) rfl ?_
                simp only [Task.idle, Task.margin, List.length_cons] at *
                omega
              · refine meets_last List.suffix_rfl rfl ?_
                simp only [Task.idle, Task.margin, List.length_cons] at *
                omega

/-- The plan for every task does what the task should, if the calls for it do. -/
theorem Task.meets (task : Task) (ts : List Token) : task.Meets ts := by
  cases task with
  | expression => exact meets_expression ts
  | chain left => exact meets_chain left ts
  | operand => exact meets_operand ts
  | named name => exact meets_named name ts
  | parent => exact meets_parent ts
  | array => exact meets_array ts
  | elements before => exact meets_elements before ts

/-! ## All calls -/

/-- A plan whose calls end returns what is wanted. -/
lemma Plan.Meets.exists_takes {α : Type} {allowed : Task → List Token → Prop}
    {wanted : α → Nat → Prop} {p : Plan α} {k : Nat} (h : p.Meets allowed wanted k)
    (hcalls : ∀ task ts, allowed task ts → ∃ x n, (task.plan ts).Takes x n ∧ task.Spec ts x n) :
    ∃ x n, p.Takes x n ∧ wanted x (k + n) := by
  induction p generalizing k with
  | leave x => exact ⟨x, 0, .leave, h⟩
  | loop rounds next ih =>
    obtain ⟨x, n, hx, hw⟩ := ih h
    exact ⟨x, rounds + n, .loop hx, Nat.add_assoc k rounds n ▸ hw⟩
  | call task ts next ih =>
    obtain ⟨e, m, he, hspec⟩ := hcalls task ts h.1
    obtain ⟨x, n, hx, hw⟩ := ih e (h.2 e m hspec)
    refine ⟨x, m + n + 1, .call he hx, ?_⟩
    rwa [show k + (m + n + 1) = k + m + 1 + n by omega]

/-- Every task ends, and does what it should. -/
theorem Task.exists_takes (task : Task) (ts : List Token) :
    ∃ x n, (task.plan ts).Takes x n ∧ task.Spec ts x n := by
  obtain ⟨x, n, hx, hspec⟩ := (task.meets ts).exists_takes fun task' ts' hallows =>
    have hlt : task'.size ts' < task.size ts := hallows.2
    task'.exists_takes ts'
  exact ⟨x, n, hx, Nat.zero_add n ▸ hspec⟩
  termination_by task.size ts

/-- The readers do what they should. -/
lemma Task.exists_spec (task : Task) (ts : List Token) :
    ∃ n, (task.plan ts).Takes (task.answer ts) n ∧ task.Spec ts (task.answer ts) n := by
  obtain ⟨x, n, hx, hspec⟩ := task.exists_takes ts
  have hresult := hx.result
  rw [task.result_plan] at hresult
  rw [hresult]
  exact ⟨n, hx, hspec⟩

/-- A reader leaves a suffix of its tokens. -/
lemma Task.answer_suffix (task : Task) (ts : List Token) : (task.answer ts).2 <:+ ts := by
  obtain ⟨n, -, hspec⟩ := task.exists_spec ts
  exact hspec.suffix

/-- An expression ends at a terminator, or at the end of the tokens. -/
lemma goesOn_read (ts : List Token) : GoesOn terminators (outcome (read ts)).2 := by
  obtain ⟨n, -, hspec⟩ := Task.expression.exists_spec ts
  exact hspec.goesOn rfl

/-- A plan makes allowed calls only. -/
lemma Plan.Meets.allowed {α : Type} {allowed : Task → List Token → Prop} {wanted : α → Nat → Prop}
    {p : Plan α} {k : Nat} (h : p.Meets allowed wanted k) {task : Task} {ts : List Token}
    (hmakes : p.Makes task ts) : allowed task ts := by
  induction p generalizing k with
  | leave x => exact hmakes.elim
  | loop _ _ ih => exact ih h hmakes
  | call task' ts' next ih =>
    obtain ⟨rfl, rfl⟩ | hmakes := hmakes
    · exact h.1
    · obtain ⟨n, -, hspec⟩ := task'.exists_spec ts'
      exact ih _ (h.2 _ n hspec) hmakes

/-- A round of the loop of an array that is not the last takes a token. -/
lemma elements_makes {before before' : Elements → Elements} {ts ts' : List Token}
    (h : ((Task.elements before).plan ts).Makes (.elements before') ts') :
    ts' <:+ ts ∧ ts'.length < ts.length := by
  obtain ⟨hs, hlt⟩ := ((Task.elements before).meets ts).allowed h
  refine ⟨hs, ?_⟩
  simp only [Task.size, Task.rank] at hlt
  omega

end RouteAudit.Source.Expr
