import RouteAudit.Proofs.Source.ClassName
import RouteAudit.Proofs.Source.Declaration.Suffix

/-!
# What declarations mention

The names of the classes that a source declares, and of the parents and the traits that it mentions,
are proper, whatever the source is, and only a class has a parent
(`Declaration.sound_of_mem_parse`).
-/

namespace RouteAudit.Source
open Token

variable {scope : NameScope} {ts us : List Token}

/-- All names among some tokens consist of segments. -/
def AllSpelled (ts : List Token) : Prop :=
  ∀ t ∈ ts, t.Spelled

/-- The end of spelled tokens is spelled. -/
lemma AllSpelled.suffix (h : AllSpelled ts) (left : us <:+ ts) : AllSpelled us :=
  Declaration.forall_mem_suffix h left

/-- The first of spelled tokens is spelled. -/
lemma AllSpelled.head {t : Token} (h : AllSpelled (t :: ts)) : t.Spelled :=
  h t List.mem_cons_self

/-- Spelled tokens are spelled behind the first. -/
lemma AllSpelled.tail {t : Token} (h : AllSpelled (t :: ts)) : AllSpelled ts :=
  h.suffix (List.suffix_cons t ts)

/-! ## Use clauses -/

namespace UseClause

/-- Items that are imported keep a scope proper. -/
lemma proper_readItems (start : String) (hscope : scope.Proper) (h : AllSpelled ts) :
    (readItems start scope ts).1.Proper := by
  have added {scope : NameScope} (hscope : scope.Proper) (start : String) {t : Token}
      (ht : t.Spelled) (hname : t.kind = .name) (short? : Option String) :
      (scope.addImport (start ++ t.text) short?).Proper := by
    obtain ⟨hne, hsegments⟩ := ht hname
    obtain ⟨c, hc, other⟩ := NameScope.exists_character hne hsegments
    refine hscope.addImport ⟨c, ?_, other⟩ short?
    rw [String.toList_append]
    exact List.mem_append_right _ hc
  fun_induction readItems start scope ts with
  | case1 => exact hscope
  | case2 => exact hscope
  | case3 _ _ _ _ _ _ ih => exact ih hscope h.tail
  | case4 _ _ _ _ _ _ _ ih => exact ih hscope h.tail
  | case5 start _ _ _ _ hname => exact added hscope start h.head (not_not.1 hname) none
  | case6 _ _ _ _ _ _ _ _ _ ih => exact ih hscope h.tail.tail
  | case7 start _ _ _ _ hname => exact added hscope start h.head (not_not.1 hname) none
  | case8 start _ _ _ _ hname _ _ _ short ts ih =>
    exact ih (added hscope start h.head (not_not.1 hname) short.text) h.tail.tail.tail
  | case9 start _ _ _ _ hname _ _ _ _ ih =>
    exact ih (added hscope start h.head (not_not.1 hname) none) h.tail

/-- A use clause keeps a scope proper. -/
lemma proper_read (hscope : scope.Proper) (h : AllSpelled ts) : (read scope ts).1.Proper := by
  cases ts with
  | nil => exact hscope
  | cons t ts =>
    rw [read]
    split
    · exact hscope
    · exact proper_readItems "" hscope h

end UseClause

namespace Declaration

/-! ## The readers -/

/-- The traits of a class have proper names. -/
lemma proper_readTraits (hscope : scope.Proper) (h : AllSpelled ts) :
    ∀ name ∈ (readTraits scope ts).1, ClassName.Proper name := by
  fun_induction readTraits scope ts with
  | case2 t ts hname names rest heq ih =>
    obtain ⟨hne, hsegments⟩ := h.head hname
    rw [heq] at ih
    exact List.forall_mem_cons.2 ⟨hscope.resolve hne hsegments, ih h.tail⟩
  | case5 t ts _ _ _ ih => exact ih h.tail
  | _ => exact List.forall_mem_nil _

/-- All traits of a class have proper names. -/
lemma proper_readMembers (hscope : scope.Proper) {hidden : Bool} {m : Members}
    (hm : ∀ name ∈ m.traits, ClassName.Proper name) (h : AllSpelled ts) :
    ∀ name ∈ (readMembers scope hidden m ts).1.traits, ClassName.Proper name :=
  readMembers_keeps (P := fun m => ∀ name ∈ m.traits, ClassName.Proper name)
    (fun _ _ h hm => List.forall_mem_append.2 ⟨hm, proper_readTraits hscope h⟩)
    (fun _ _ _ _ hm => hm) (fun _ _ hm => hm) hm h

/-- The parent of a class has a proper name. -/
lemma proper_readHeader (hscope : scope.Proper) (kind : ClassKind) {parent : Option String}
    (hparent : ∀ name ∈ parent, ClassName.Proper name) (h : AllSpelled ts) :
    ∀ name ∈ (readHeader scope kind parent ts).1, ClassName.Proper name := by
  fun_induction readHeader scope kind parent ts with
  | case1 => exact hparent
  | case2 => exact hparent
  | case3 => exact hparent
  | case4 parent t _ _ ref ts parent' ih =>
    refine ih ?_ h.tail.tail
    by_cases hname : ref.kind = .name
    · obtain ⟨hne, hsegments⟩ := h.tail.head hname
      have resolved : parent' = some (scope.resolve ref.text) := if_pos hname
      rw [resolved]
      rintro _ ⟨⟩
      exact hscope.resolve hne hsegments
    · have kept : parent' = parent := if_neg hname
      rwa [kept]
  | case5 _ _ _ _ _ ih => exact ih hparent h.tail

/-- Only a class has a parent. -/
lemma readHeader_of_ne {kind : ClassKind} (hkind : kind ≠ .class) (parent : Option String)
    (ts : List Token) : (readHeader scope kind parent ts).1 = parent := by
  fun_induction readHeader scope kind parent ts <;> simp_all

/-! ## Declarations -/

/-- What is declared has a proper name. -/
lemma proper_opening (hscope : scope.Proper) {inExpression : Bool} {t : Token} (h : AllSpelled ts)
    {kind : ClassKind} {name : String} (opening : opening? inExpression t ts = some (kind, name)) :
    ClassName.Proper (scope.qualify name) := by
  rw [opening?.eq_def] at opening
  split at opening
  · next first rest _ =>
    obtain ⟨simple, heq⟩ := Option.ite_none_right_eq_some.1 opening
    cases heq
    rw [Bool.and_eq_true, isSimpleName, Bool.and_eq_true, beq_iff_eq, Bool.not_eq_true'] at simple
    obtain ⟨-, hkind, noSeparator⟩ := simple
    obtain ⟨hne, hsegments⟩ := h.head hkind
    refine (NameScope.proper_of_start hne hsegments fun hstart => ?_).join hscope.space
    obtain ⟨rest, heq⟩ := Text.startsWith_iff.1 hstart
    rw [String.contains_char_eq, heq, String.toList_append] at noSeparator
    simp at noSeparator
  · cases opening

/-- A declaration has a proper name and mentions proper names, and only a class has a parent. -/
structure Sound (d : Declaration) : Prop where
  name : ClassName.Proper d.name
  parent : ∀ name, d.parent = some name → ClassName.Proper name
  traits : ∀ name ∈ d.traits, ClassName.Proper name
  root : d.kind ≠ .class → d.parent = none

/-- A declaration that is read is sound. -/
lemma sound_readOne (hscope : scope.Proper) (kind : ClassKind) (isAbstract : Bool) {name : String}
    (hname : ClassName.Proper (scope.qualify name)) (path : Option Path) (h : AllSpelled ts) :
    ((readOne scope kind isAbstract name ts).1.declaration path).Sound where
  name := hname
  parent := proper_readHeader hscope kind (fun _ hmem => nomatch hmem) h
  traits := proper_readMembers hscope (List.forall_mem_nil _)
    (h.suffix (readHeader_suffix scope kind none ts))
  root hkind := readHeader_of_ne hkind none ts

/-- What holds of the tokens of a source makes the classes in it sound. -/
lemma carries_sound (path : Option Path) :
    Carries Token.Spelled NameScope.Proper fun c => (c.declaration path).Sound where
  entering _ hname spelled := NameScope.proper_entering (spelled hname).1 (spelled hname).2
  leaving := NameScope.proper_global
  use _ _ hscope h := UseClause.proper_read hscope h
  declared {_ kind _ _ ts _} isAbstract hscope h hopening :=
    sound_readOne hscope kind isAbstract (proper_opening hscope h hopening) path
      (AllSpelled.suffix h (List.drop_suffix 1 ts))

/-- **What a source declares has a proper name and mentions only such, and only a class has a
parent.** -/
theorem sound_of_mem_parse {path : Option Path} {source : List Char} {d : Declaration}
    (h : d ∈ parse path source) : d.Sound := by
  obtain ⟨c, hc, rfl⟩ := List.mem_map.1 h
  exact (carries_sound path).of_mem_readAll NameScope.proper_empty
    (fun _ ht => spelled_of_mem_scan ht) c hc

end Declaration

end RouteAudit.Source
