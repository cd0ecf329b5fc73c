import Mathlib
import RouteAudit.Proofs.Source.Declaration.Place

/-!
# What readers leave

A reader takes tokens from the front of a list and leaves the others as they are.  So what holds of
all tokens of a source holds of those that any of its classes is read from, and a property of the
classes can be proved reader by reader (`Carries.of_mem_readAll`).
-/

namespace RouteAudit.Source

namespace Token

/-- Behind open groups a suffix is left. -/
lemma skipOpen_suffix (depth : Nat) (ts : List Token) : skipOpen depth ts <:+ ts := by
  fun_induction skipOpen depth ts <;> simp_all [List.suffix_cons_iff]

/-- Behind a group a suffix is left. -/
lemma skipGroup_suffix (ts : List Token) : skipGroup ts <:+ ts :=
  skipOpen_suffix 0 ts

/-- At a stop a suffix is left. -/
lemma skipUntil_suffix (stops : List String) (ts : List Token) : skipUntil stops ts <:+ ts := by
  rw [skipUntil]
  generalize 0 = depth
  fun_induction skipUntilFrom stops depth ts <;> simp_all [List.suffix_cons_iff]

/-- Past a stop a suffix is left. -/
lemma skipPast_suffix (stops : List String) (ts : List Token) : skipPast stops ts <:+ ts :=
  (List.drop_suffix 1 _).trans (skipUntil_suffix stops ts)

/-- Behind a body a suffix is left. -/
lemma skipBody_suffix (ts : List Token) : skipBody ts <:+ ts := by
  have left := skipUntil_suffix ["\x7b", ";"] ts
  rw [skipBody]
  split
  · exact List.nil_suffix
  · next t rest heq =>
    rw [heq] at left
    split
    · exact (skipGroup_suffix _).trans left
    · split
      · exact (List.suffix_cons t rest).trans left
      · exact left

end Token

namespace UseClause

/-- The reader of items leaves a suffix. -/
lemma readItems_suffix (start : String) (scope : NameScope) (ts : List Token) :
    (readItems start scope ts).2 <:+ ts := by
  fun_induction readItems start scope ts <;> simp_all [List.suffix_cons_iff]

/-- The reader of use clauses leaves a suffix. -/
lemma read_suffix (scope : NameScope) (ts : List Token) : (read scope ts).2 <:+ ts := by
  cases ts with
  | nil => exact List.suffix_rfl
  | cons t ts =>
    rw [read]
    split
    · exact Token.skipPast_suffix _ _
    · exact readItems_suffix _ _ _

end UseClause

namespace Declaration
open Token

/-- The reader of traits leaves a suffix. -/
lemma readTraits_suffix (scope : NameScope) (ts : List Token) :
    (readTraits scope ts).2 <:+ ts := by
  fun_induction readTraits scope ts with
  | case1 => exact List.suffix_rfl
  | case2 t ts _ names rest heq ih =>
    rw [heq] at ih
    exact ih.trans (List.suffix_cons t ts)
  | case3 t ts => exact List.suffix_cons t ts
  | case4 t ts => exact skipGroup_suffix (t :: ts)
  | case5 t ts _ _ _ ih => exact ih.trans (List.suffix_cons t ts)

/-- The reader of method names leaves a suffix. -/
lemma readMethodName_suffix (ts : List Token) : (readMethodName ts).2 <:+ ts := by
  fun_cases readMethodName ts <;> simp_all [List.suffix_cons_iff]

/-- The reader of defaults leaves a suffix. -/
lemma readDefault_suffix (ts : List Token) : (outcome (readDefault ts)).2 <:+ ts := by
  cases ts with
  | nil => exact List.suffix_rfl
  | cons t ts =>
    rw [outcome_readDefault]
    split
    · exact (skipUntil_suffix _ ts).trans (List.suffix_cons t ts)
    · exact List.suffix_rfl

/-- The reader of properties leaves a suffix. -/
lemma readProperties_suffix (name : String) (ts : List Token) :
    (outcome (readProperties name ts)).2 <:+ ts := by
  have default : (outcome (readDefault ts)).2 <:+ ts := readDefault_suffix ts
  rw [outcome_readProperties]
  generalize outcome (readDefault ts) = read at default
  obtain ⟨value, _ | ⟨t, r⟩⟩ := read
  · exact List.nil_suffix
  · have behind := (List.suffix_cons t r).trans default
    dsimp only
    split
    · cases r with
      | nil => exact List.nil_suffix
      | cons next r =>
        have behind := (List.suffix_cons next r).trans behind
        have length := default.length_le
        dsimp only
        split
        · exact (readProperties_suffix _ r).trans behind
        · exact behind
    · split
      · exact behind
      · exact (skipPast_suffix _ r).trans behind
  termination_by ts.length
  decreasing_by simp only [List.length_cons] at length; omega

/-- The reader of members leaves a suffix. -/
lemma readMembers_suffix (scope : NameScope) (hidden : Bool) (m : Members) (ts : List Token) :
    (readMembers scope hidden m ts).2 <:+ ts := by
  fun_induction readMembers scope hidden m ts with
  | case1 => exact List.suffix_rfl
  | case2 _ _ t ts => exact List.suffix_cons t ts
  | case3 _ _ t ts _ _ _ ih => exact ih.trans (skipGroup_suffix (t :: ts))
  | case4 _ _ t ts _ _ _ _ ih =>
    exact (ih.trans (readTraits_suffix _ _)).trans (List.suffix_cons t ts)
  | case5 _ _ t ts _ _ _ _ _ _ _ ih =>
    have body := (skipBody_suffix _).trans (readMethodName_suffix ts)
    exact (ih.trans body).trans (List.suffix_cons t ts)
  | case6 _ _ t ts _ _ _ _ _ _ ih =>
    exact (ih.trans (skipPast_suffix _ _)).trans (List.suffix_cons t ts)
  | case7 _ _ t ts _ _ _ _ _ _ properties r hr heq ih =>
    have read := readProperties_suffix (Text.dropFirst 1 t.text) ts
    rw [heq] at read
    exact (ih.trans read).trans (List.suffix_cons t ts)
  | case8 _ _ t ts _ _ _ _ _ _ ih => exact ih.trans (List.suffix_cons t ts)

/-- The reader of headers leaves a suffix. -/
lemma readHeader_suffix (scope : NameScope) (kind : ClassKind) (parent : Option String)
    (ts : List Token) : (readHeader scope kind parent ts).2 <:+ ts := by
  fun_induction readHeader scope kind parent ts <;> simp_all [List.suffix_cons_iff]

/-- The reader of one declaration leaves a suffix. -/
lemma readOne_suffix (scope : NameScope) (kind : ClassKind) (isAbstract : Bool) (name : String)
    (ts : List Token) : (readOne scope kind isAbstract name ts).2 <:+ ts :=
  (readMembers_suffix _ _ _ _).trans (readHeader_suffix _ _ _ _)

/-! ## Properties of all tokens -/

variable {q : Token → Prop} {scope : NameScope} {ts us : List Token}

/-- What holds of all tokens holds of a suffix. -/
lemma forall_mem_suffix (h : ∀ t ∈ ts, q t) (left : us <:+ ts) : ∀ t ∈ us, q t :=
  fun t ht => h t (left.subset ht)

/-- A property of members is kept by their reader if it is kept by those of traits, of methods and of
properties. -/
lemma readMembers_keeps {P : Members → Prop}
    (traits : ∀ m ts, (∀ t ∈ ts, q t) → P m →
      P { m with traits := m.traits ++ (readTraits scope ts).1 })
    (methods : ∀ m hidden ts, (∀ t ∈ ts, q t) → P m →
      P { m with methods := m.methods ++ (readMethodName ts).1.toList.map fun name => ⟨name, hidden⟩ })
    (properties : ∀ m properties, P m → P { m with properties := m.properties ++ properties })
    {hidden : Bool} {m : Members} (hm : P m) (h : ∀ t ∈ ts, q t) :
    P (readMembers scope hidden m ts).1 := by
  fun_induction readMembers scope hidden m ts with
  | case1 => exact hm
  | case2 => exact hm
  | case3 _ _ t ts _ _ _ ih => exact ih hm (forall_mem_suffix h (skipGroup_suffix (t :: ts)))
  | case4 _ m t ts _ _ _ _ ih =>
    have behind := List.forall_mem_of_forall_mem_cons h
    exact ih (traits m ts behind hm) (forall_mem_suffix behind (readTraits_suffix scope ts))
  | case5 hidden m t ts _ _ _ _ _ _ _ ih =>
    have behind := List.forall_mem_of_forall_mem_cons h
    have body := (skipBody_suffix _).trans (readMethodName_suffix ts)
    exact ih (methods m hidden ts behind hm) (forall_mem_suffix behind body)
  | case6 _ _ t ts _ _ _ _ _ _ ih =>
    exact ih hm (forall_mem_suffix (List.forall_mem_of_forall_mem_cons h) (skipPast_suffix _ ts))
  | case7 _ m t ts _ _ _ _ _ _ found r hr heq ih =>
    have read := readProperties_suffix (Text.dropFirst 1 t.text) ts
    rw [heq] at read
    exact ih (properties m found hm) (forall_mem_suffix (List.forall_mem_of_forall_mem_cons h) read)
  | case8 _ _ t ts _ _ _ _ _ _ ih => exact ih hm (List.forall_mem_of_forall_mem_cons h)

/-- Tokens with a property `q` carry a property `S` of the scopes that are entered among them, and a
property `C` of the classes that are read from them in such scopes. -/
structure Carries (q : Token → Prop) (S : NameScope → Prop) (C : ClassText → Prop) : Prop where
  entering : ∀ name : Token, name.kind = .name → q name → S (.entering name.text)
  leaving : S (.entering "")
  use : ∀ scope ts, S scope → (∀ t ∈ ts, q t) → S (UseClause.read scope ts).1
  declared : ∀ {scope kind inExpression t ts name} isAbstract, S scope → (∀ t ∈ ts, q t) →
    opening? inExpression t ts = some (kind, name) →
    C (readOne scope kind isAbstract name (ts.drop 1)).1

/-- The classes that are read from tokens have the property that the tokens carry. -/
lemma Carries.of_mem_readAll {S : NameScope → Prop} {C : ClassText → Prop} (carries : Carries q S C)
    (hscope : S scope) {isAbstract inExpression : Bool} (h : ∀ t ∈ ts, q t) :
    ∀ c ∈ readAll scope isAbstract inExpression ts, C c := by
  fun_induction readAll scope isAbstract inExpression ts with
  | case1 => exact List.forall_mem_nil _
  | case2 => exact List.forall_mem_nil _
  | case3 _ _ _ _ _ name ts hname ih =>
    obtain ⟨hq, behind⟩ := List.forall_mem_cons.1 (List.forall_mem_of_forall_mem_cons h)
    exact ih (carries.entering name hname hq) behind
  | case4 _ _ _ _ _ name ts _ ih =>
    exact ih carries.leaving (List.forall_mem_of_forall_mem_cons h)
  | case5 scope _ _ t ts _ _ _ ih =>
    have behind := List.forall_mem_of_forall_mem_cons h
    exact ih (carries.use scope ts hscope behind)
      (forall_mem_suffix behind (UseClause.read_suffix scope ts))
  | case6 _ _ _ _ _ _ _ _ ih => exact ih hscope (List.forall_mem_of_forall_mem_cons h)
  | case7 scope isAbstract _ _ ts _ _ _ kind name hopening _ ih =>
    have behind := List.forall_mem_of_forall_mem_cons h
    have left := (readOne_suffix scope kind isAbstract name _).trans (List.drop_suffix 1 ts)
    refine List.forall_mem_cons.2 ⟨carries.declared isAbstract hscope behind hopening, ?_⟩
    exact ih hscope (forall_mem_suffix behind left)
  | case8 _ _ _ t ts _ _ _ _ _ _ ih =>
    exact ih hscope (forall_mem_suffix (List.forall_mem_of_forall_mem_cons h) (skipBody_suffix ts))
  | case9 _ _ _ t ts _ _ _ _ _ _ _ ih =>
    exact ih hscope (forall_mem_suffix h (skipGroup_suffix (t :: ts)))
  | case10 _ _ _ t ts _ _ _ _ _ _ ih => exact ih hscope (List.forall_mem_of_forall_mem_cons h)

end Declaration

end RouteAudit.Source
