import Mathlib
import RouteAudit.Source.Token.Group

/-!
# Balanced runs

A run of tokens is balanced when it closes every bracket that it opens.  Brackets are counted
without regard to their shape.  A reader that skips groups passes over a balanced run as if it were
not there: `skipOpen_run` says so inside of a group, and `skipUntil_run` at its outside, where the
run must not hold what the reader looks for.
-/

namespace RouteAudit.Source.Token

/-- A balanced run without the given operators outside of its brackets. -/
inductive Run : (stops : List String) → List Token → Prop where
  | nil {stops} :
    Run stops []
  | plain {stops t ts} :
    t.isOp stops = false →
    t.opens = false →
    t.closes = false →
    Run stops ts →
    Run stops (t :: ts)
  | group {stops o c inner ts} :
    o.isOp stops = false →
    o.opens = true →
    Run [] inner →
    c.closes = true →
    Run stops ts →
    Run stops (o :: (inner ++ c :: ts))

/-- A token is one of some operators if it is an operator with such a text. -/
lemma isOp_iff {t : Token} {ops : List String} :
    t.isOp ops = true ↔ t.kind = .op ∧ t.text ∈ ops := by
  simp [isOp]

/-- A token is none of no operators. -/
@[simp]
lemma isOp_nil (t : Token) : t.isOp [] = false := by
  simp [isOp]

/-- A token that is none of some operators is none of fewer. -/
lemma isOp_eq_false_of_subset {t : Token} {fewer ops : List String} (h : t.isOp ops = false)
    (sub : ∀ op ∈ fewer, op ∈ ops) : t.isOp fewer = false := by
  rw [← Bool.not_eq_true, isOp_iff] at h ⊢
  exact fun hf => h ⟨hf.1, sub _ hf.2⟩

/-- A token that is one of some operators is one of more. -/
lemma isOp_of_subset {t : Token} {ops more : List String} (h : t.isOp ops = true)
    (sub : ∀ op ∈ ops, op ∈ more) : t.isOp more = true := by
  rw [isOp_iff] at h ⊢
  exact ⟨h.1, sub _ h.2⟩

/-- A token that is one of some operators is none of others. -/
lemma isOp_disjoint {t : Token} {ops others : List String} (h : t.isOp ops = true)
    (disjoint : ∀ op ∈ ops, op ∉ others) : t.isOp others = false := by
  rw [← Bool.not_eq_true, isOp_iff]
  rw [isOp_iff] at h
  intro ho
  exact disjoint _ h.2 ho.2

/-- A token that closes does not open. -/
lemma opens_eq_false {t : Token} (h : t.closes = true) : t.opens = false := by
  rw [closes, isOp_iff] at h
  rw [opens, ← Bool.not_eq_true, isOp_iff]
  intro ho
  have hc := h.2
  simp only [List.mem_cons, List.not_mem_nil, or_false] at hc
  rcases hc with hc | hc | hc <;> simp [hc] at ho

/-- The first token of a run is none of the operators, and a run follows unless it opens a group. -/
lemma Run.head {stops t ts} (h : Run stops (t :: ts)) :
    t.isOp stops = false ∧ (t.opens = true ∨ Run stops ts) := by
  generalize e : t :: ts = us at h
  cases h with
  | nil => cases e
  | plain hs _ _ h =>
    cases e
    exact ⟨hs, .inr h⟩
  | group hs ho =>
    cases e
    exact ⟨hs, .inl ho⟩

/-- Runs are joined to a run. -/
lemma Run.append {stops ts us} (h : Run stops ts) (h' : Run stops us) : Run stops (ts ++ us) := by
  induction h with
  | nil => exact h'
  | plain hs ho hc _ ih => exact .plain hs ho hc (ih h')
  | group hs ho hi hc _ _ ih =>
    rw [List.cons_append, List.append_assoc, List.cons_append]
    exact .group hs ho hi hc (ih h')

/-- A run without some operators is one without fewer. -/
lemma Run.weaken {stops fewer ts} (h : Run stops ts) (sub : ∀ op ∈ fewer, op ∈ stops) :
    Run fewer ts := by
  induction h with
  | nil => exact .nil
  | plain hs ho hc _ ih => exact .plain (isOp_eq_false_of_subset hs sub) ho hc (ih sub)
  | group hs ho hi hc _ _ ih => exact .group (isOp_eq_false_of_subset hs sub) ho hi hc (ih sub)

/-- A run is one without any operators that it does not have at all. -/
lemma Run.avoid {stops others ts} (h : Run stops ts) (ho : ∀ t ∈ ts, t.isOp others = false) :
    Run others ts := by
  induction h with
  | nil => exact .nil
  | plain _ hopen hclose _ ih =>
    rw [List.forall_mem_cons] at ho
    exact .plain ho.1 hopen hclose (ih ho.2)
  | group _ hopen hi hclose _ _ ih =>
    rw [List.forall_mem_cons, List.forall_mem_append, List.forall_mem_cons] at ho
    exact .group ho.1 hopen hi hclose (ih ho.2.2.2)

/-- A run is balanced. -/
lemma Run.balanced {stops ts} (h : Run stops ts) : Run [] ts :=
  h.weaken (by simp)

/-- A run inside of open groups closes none of them. -/
lemma skipOpen_run {stops ts} (h : Run stops ts) (depth : Nat) (rest : List Token) :
    skipOpen (depth + 1) (ts ++ rest) = skipOpen (depth + 1) rest := by
  induction h generalizing depth rest with
  | nil => rfl
  | plain _ ho hc _ ih =>
    rw [List.cons_append, skipOpen, if_neg (by simp [ho]), if_neg (by simp [hc])]
    exact ih depth rest
  | @group _ o c inner ts _ ho _ hc _ ihi ih =>
    rw [List.cons_append, List.append_assoc, List.cons_append, skipOpen, if_pos ho,
      ihi (depth + 1) (c :: (ts ++ rest)), skipOpen, if_neg (by simp [opens_eq_false hc]),
      if_pos hc, if_neg (by omega)]
    exact ih depth rest

/-- A group is skipped exactly. -/
lemma skipGroup_group {o c : Token} {inner : List Token} (ho : o.opens = true)
    (hi : Run [] inner) (hc : c.closes = true) (rest : List Token) :
    skipGroup (o :: (inner ++ c :: rest)) = rest := by
  rw [skipGroup, skipOpen, if_pos ho, skipOpen_run hi 0, skipOpen,
    if_neg (by simp [opens_eq_false hc]), if_pos hc, if_pos (by omega)]

/-- A run is passed over on the way to one of the operators that it does not have. -/
lemma skipUntil_run {stops ts} (h : Run stops ts) (rest : List Token) :
    skipUntil stops (ts ++ rest) = skipUntil stops rest := by
  induction h with
  | nil => rfl
  | plain hs ho hc _ ih =>
    rw [List.cons_append, skipUntil, skipUntilFrom, if_neg (by simp [hs]), if_neg (by simp [ho]),
      if_neg (by simp [hc])]
    exact ih
  | group hs ho hi hc _ _ ih =>
    rw [List.cons_append, List.append_assoc, List.cons_append, skipUntil_cons_of_opens _ hs ho,
      skipGroup_group ho hi hc]
    exact ih

/-- A skip ends at a stop. -/
lemma skipUntil_stop {stops : List String} {t : Token} (h : t.isOp stops = true)
    (rest : List Token) : skipUntil stops (t :: rest) = t :: rest := by
  rw [skipUntil, skipUntilFrom, if_pos h]

/-- A closing bracket of an outer group is not passed over. -/
lemma skipUntil_closes {t : Token} (h : t.closes = true) (stops : List String)
    (rest : List Token) : skipUntil stops (t :: rest) = t :: rest := by
  rw [skipUntil, skipUntilFrom, opens_eq_false h, h]
  split <;> rfl

/-- What follows a run and an operator that ends it. -/
lemma skipPast_run {stops ts} {t : Token} (h : Run stops ts) (ht : t.isOp stops = true)
    (rest : List Token) : skipPast stops (ts ++ t :: rest) = rest := by
  rw [skipPast, skipUntil_run h, skipUntil_stop ht, List.drop_one, List.tail_cons]

end RouteAudit.Source.Token
