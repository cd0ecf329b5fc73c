import RouteAudit.Proofs.Source.Token.Balanced

/-!
# Where skipping ends

Skipping goes by the depth of the brackets, a balanced run by the way they nest.  Both agree: any
tokens are a balanced run and something that ends it (`exists_run`), the run is the longest one there
(`EndsRun.longest`), and skipping passes over just the run, unless what ends it is a bracket that is
never closed; then nothing is left (`skips_to_ends`).
-/

namespace RouteAudit.Source.Token

/-- Whether the group that some tokens stand in is not closed by any of them. -/
def Unclosed (ts : List Token) : Prop :=
  ∀ inner c rest, Run [] inner → c.closes = true → ts ≠ inner ++ c :: rest

/-- Whether no run that lacks the given operators goes on with the first of some tokens. -/
inductive EndsRun (stops : List String) : List Token → Prop where
  | nothing :
    EndsRun stops []
  | stop {t ts} :
    t.isOp stops = true →
    EndsRun stops (t :: ts)
  | closing {t ts} :
    t.closes = true →
    EndsRun stops (t :: ts)
  | unclosed {o ts} :
    o.isOp stops = false →
    o.opens = true →
    Unclosed ts →
    EndsRun stops (o :: ts)

/-- The longest balanced run, without the given operators outside of its brackets, at the start of
some tokens. -/
structure LongestRun (stops : List String) (run ts : List Token) : Prop where
  starts : run <+: ts
  balanced : Run stops run
  longest : ∀ other, other <+: ts → Run stops other → other.length ≤ run.length

/-! ## Parts of runs -/

/-- A run does not start with a bracket that closes. -/
lemma Run.closes_head {stops t ts} (h : Run stops (t :: ts)) : t.closes = false := by
  generalize e : t :: ts = us at h
  cases h with
  | nil => cases e
  | plain _ _ hc =>
    cases e
    exact hc
  | group _ ho =>
    cases e
    exact isOp_disjoint ho (by simp)

/-- A bracket that starts a run is closed in it. -/
lemma Run.group_inv {stops o ts} (h : Run stops (o :: ts)) (ho : o.opens = true) :
    ∃ inner c rest, ts = inner ++ c :: rest ∧ Run [] inner ∧ c.closes = true ∧ Run stops rest := by
  generalize e : o :: ts = us at h
  cases h with
  | nil => cases e
  | plain _ hopen =>
    cases e
    exact absurd ho (Bool.eq_false_iff.1 hopen)
  | group _ _ hi hc hr =>
    cases e
    exact ⟨_, _, _, rfl, hi, hc, hr⟩

/-- What follows a run in a run is a run. -/
lemma Run.of_append {stops ts us} (h : Run stops ts) (h' : Run stops (ts ++ us)) :
    Run stops us := by
  induction h with
  | nil => exact h'
  | plain _ ho _ _ ih =>
    apply ih
    exact h'.head.2.resolve_left (Bool.eq_false_iff.1 ho)
  | @group _ o c inner ts _ ho hi hc _ _ ih =>
    apply ih
    rw [List.cons_append, List.append_assoc, List.cons_append] at h'
    obtain ⟨inner', c', rest, heq, hi', hc', hrest⟩ := h'.group_inv ho
    -- the group is skipped exactly, so it can end at one place only
    have hskip := skipGroup_group ho hi hc (ts ++ us)
    rw [heq, skipGroup_group ho hi' hc'] at hskip
    exact hskip ▸ hrest

/-- Where a group is closed, a run stands in front of the bracket that closes it. -/
lemma not_unclosed {ts : List Token} (h : ¬Unclosed ts) :
    ∃ inner c rest, ts = inner ++ c :: rest ∧ Run [] inner ∧ c.closes = true := by
  by_contra hnone
  exact h fun inner c rest hi hc heq => hnone ⟨inner, c, rest, heq, hi, hc⟩

/-- Any tokens are a run and something that ends it. -/
lemma exists_run (stops : List String) (ts : List Token) :
    ∃ run rest, ts = run ++ rest ∧ Run stops run ∧ EndsRun stops rest := by
  cases ts with
  | nil => exact ⟨[], [], rfl, .nil, .nothing⟩
  | cons t ts =>
    cases hs : t.isOp stops with
    | true => exact ⟨[], t :: ts, rfl, .nil, .stop hs⟩
    | false =>
      cases ho : t.opens with
      | false =>
        cases hc : t.closes with
        | true => exact ⟨[], t :: ts, rfl, .nil, .closing hc⟩
        | false =>
          obtain ⟨run, rest, rfl, hrun, hend⟩ := exists_run stops ts
          exact ⟨t :: run, rest, rfl, .plain hs ho hc hrun, hend⟩
      | true =>
        by_cases hu : Unclosed ts
        · exact ⟨[], t :: ts, rfl, .nil, .unclosed hs ho hu⟩
        · obtain ⟨inner, c, behind, heq, hi, hc⟩ := not_unclosed hu
          have hlt : behind.length < ts.length := by
            rw [heq, List.length_append, List.length_cons]
            omega
          obtain ⟨run, rest, hsplit, hrun, hend⟩ := exists_run stops behind
          refine ⟨t :: (inner ++ c :: run), rest, ?_, .group hs ho hi hc hrun, hend⟩
          simp [heq, hsplit]
  termination_by ts.length
  decreasing_by all_goals (rw [List.length_cons]; omega)

/-- What ends a run does not start with one. -/
lemma EndsRun.not_run {stops t ts us} (h : EndsRun stops (t :: (ts ++ us))) :
    ¬Run stops (t :: ts) := by
  intro hrun
  cases h with
  | stop hs => exact Bool.eq_false_iff.1 hrun.head.1 hs
  | closing hc => exact Bool.eq_false_iff.1 hrun.closes_head hc
  | unclosed _ ho hu =>
    obtain ⟨inner, c, rest, rfl, hi, hc, -⟩ := hrun.group_inv ho
    exact hu inner c (rest ++ us) hi hc (by simp)

/-- A run is the longest one up to what ends it. -/
lemma EndsRun.longest {stops run rest} (h : EndsRun stops rest) (hrun : Run stops run) :
    LongestRun stops run (run ++ rest) where
  starts := List.prefix_append run rest
  balanced := hrun
  longest other hother hbalanced := by
    by_contra hlonger
    obtain ⟨more, rfl⟩ : run <+: other :=
      List.prefix_of_prefix_length_le (List.prefix_append run rest) hother (by omega)
    obtain ⟨behind, rfl⟩ := (List.prefix_append_right_inj run).1 hother
    have hmore : Run stops more := hrun.of_append hbalanced
    cases more with
    | nil => simp at hlonger
    | cons t more => exact h.not_run hmore

/-! ## Skipping -/

/-- What follows an opening bracket that is never closed is skipped to the end. -/
lemma skipOpen_unclosed {ts : List Token} (h : Unclosed ts) (depth : Nat) :
    skipOpen (depth + 1) ts = [] := by
  obtain ⟨run, rest, heq, hrun, hend⟩ := exists_run [] ts
  rw [heq, skipOpen_run hrun]
  cases hend with
  | nothing => rfl
  | stop hs => exact absurd hs (by simp)
  | closing hc => exact absurd heq (h run _ _ hrun hc)
  | @unclosed o inner _ ho hu =>
    have hlt : inner.length < ts.length := by
      rw [heq, List.length_append, List.length_cons]
      omega
    rw [skipOpen, if_pos ho]
    exact skipOpen_unclosed hu (depth + 1)
  termination_by ts.length

/-- A group that is not closed is skipped to the end. -/
lemma skipGroup_unclosed {o : Token} {ts : List Token} (ho : o.opens = true) (hu : Unclosed ts) :
    skipGroup (o :: ts) = [] := by
  rw [skipGroup, skipOpen, if_pos ho]
  exact skipOpen_unclosed hu 0

/-- What ends a run is left, unless it is a bracket that is never closed. -/
lemma EndsRun.skipUntil {stops ts} (h : EndsRun stops ts) :
    (skipUntil stops ts = ts ∧ ∀ t ∈ ts.head?, t.isOp stops = true ∨ t.closes = true) ∨
      skipUntil stops ts = [] ∧
        ∃ o inner, ts = o :: inner ∧ o.isOp stops = false ∧ o.opens = true ∧ Unclosed inner := by
  cases h with
  | nothing => exact .inl ⟨rfl, nofun⟩
  | stop hs =>
    refine .inl ⟨skipUntil_stop hs _, ?_⟩
    rintro _ ⟨⟩
    exact .inl hs
  | closing hc =>
    refine .inl ⟨skipUntil_closes hc stops _, ?_⟩
    rintro _ ⟨⟩
    exact .inr hc
  | unclosed hs ho hu =>
    refine .inr ⟨?_, _, _, rfl, hs, ho, hu⟩
    rw [skipUntil_cons_of_opens _ hs ho, skipGroup_unclosed ho hu]
    rfl

/-- The first of the tokens that are left is one that is looked for, or a closing bracket. -/
lemma head_skipUntil (stops : List String) (ts : List Token) :
    ∀ t ∈ (skipUntil stops ts).head?, t.isOp stops = true ∨ t.closes = true := by
  obtain ⟨run, rest, rfl, hrun, hend⟩ := exists_run stops ts
  rw [skipUntil_run hrun]
  obtain ⟨hskip, hhead⟩ | ⟨hskip, -⟩ := hend.skipUntil
  · exact hskip.symm ▸ hhead
  · exact hskip.symm ▸ nofun

/-- The closing bracket of the group that a run stands in is left. -/
lemma suffix_skipUntil {inner : List Token} {c : Token} (hi : Run [] inner) (hc : c.closes = true)
    (stops : List String) (rest : List Token) :
    c :: rest <:+ skipUntil stops (inner ++ c :: rest) := by
  obtain ⟨run, behind, rfl, hrun, hend⟩ := exists_run stops inner
  have hbehind : Run [] behind := hrun.balanced.of_append hi
  rw [List.append_assoc, skipUntil_run hrun]
  cases hend with
  | nothing => exact (skipUntil_closes hc stops rest).symm ▸ List.suffix_rfl
  | stop hs =>
    rw [List.cons_append, skipUntil_stop hs, ← List.cons_append]
    exact List.suffix_append _ _
  | closing h => exact absurd h (Bool.eq_false_iff.1 hbehind.closes_head)
  | unclosed _ ho hu =>
    obtain ⟨inner, c', more, rfl, hi', hc', -⟩ := hbehind.group_inv ho
    exact absurd rfl (hu inner c' more hi' hc')

/-- **Skipping ends where groups end.**  A group is skipped exactly, and one that is never closed to
the end of the tokens.  On the way to some operators the longest run without them is passed over, and
what is left starts with one of them or with a closing bracket, or there is nothing left; but a
bracket that is never closed takes all that follows with it.  The closing bracket of the group around
is left in any case. -/
theorem skips_to_ends :
    (∀ (o : Token) (inner : List Token) (c : Token) (rest : List Token),
      o.opens = true → Run [] inner → c.closes = true →
      skipGroup (o :: (inner ++ c :: rest)) = rest) ∧
    (∀ (o : Token) (ts : List Token), o.opens = true → Unclosed ts → skipGroup (o :: ts) = []) ∧
    (∀ (stops : List String) (ts : List Token), ∃ run, LongestRun stops run ts ∧
      ((skipUntil stops ts = ts.drop run.length ∧
          ∀ t ∈ (skipUntil stops ts).head?, t.isOp stops = true ∨ t.closes = true) ∨
        skipUntil stops ts = [] ∧ ∃ o inner, ts.drop run.length = o :: inner ∧
          o.isOp stops = false ∧ o.opens = true ∧ Unclosed inner)) ∧
    (∀ (stops : List String) (inner : List Token) (c : Token) (rest : List Token),
      Run [] inner → c.closes = true → c :: rest <:+ skipUntil stops (inner ++ c :: rest)) := by
  refine ⟨fun o inner c rest ho hi hc => skipGroup_group ho hi hc rest,
    fun o ts ho hu => skipGroup_unclosed ho hu, fun stops ts => ?_,
    fun stops inner c rest hi hc => suffix_skipUntil hi hc stops rest⟩
  have hhead := head_skipUntil stops ts
  obtain ⟨run, rest, rfl, hrun, hend⟩ := exists_run stops ts
  refine ⟨run, hend.longest hrun, ?_⟩
  rw [List.drop_left, skipUntil_run hrun] at *
  obtain ⟨hskip, -⟩ | hunclosed := hend.skipUntil
  · exact .inl ⟨hskip, hhead⟩
  · exact .inr hunclosed

/-- The tokens of a call whose arguments are not closed. -/
def openCall : List Token :=
  [⟨.name, "f", 0⟩, ⟨.op, "(", 1⟩, ⟨.name, "x", 2⟩, ⟨.op, ";", 3⟩]

/-- Behind a bracket that is never closed more is passed over than a run. -/
theorem skipUntil_openCall :
    ¬∃ run, LongestRun [";"] run openCall ∧ skipUntil [";"] openCall = openCall.drop run.length ∧
      ∀ t ∈ (skipUntil [";"] openCall).head?, t.isOp [";"] = true ∨ t.closes = true := by
  rintro ⟨run, hrun, hskip, -⟩
  have hall : openCall.length ≤ run.length := List.drop_eq_nil_iff.1 hskip.symm
  have hcall : Run [";"] openCall := hrun.starts.eq_of_length_le hall ▸ hrun.balanced
  have harguments := hcall.head.2.resolve_left (by decide)
  obtain ⟨inner, c, rest, heq, -, hc, -⟩ := harguments.group_inv rfl
  have hmem : c ∈ openCall.drop 2 := by
    rw [openCall, List.drop_succ_cons, List.drop_succ_cons, List.drop_zero, heq]
    exact List.mem_append_right _ (List.mem_cons_self ..)
  have hnone : ∀ t ∈ openCall.drop 2, t.closes = false := by decide
  exact Bool.eq_false_iff.1 (hnone c hmem) hc

end RouteAudit.Source.Token
