import RouteAudit.Proofs.Source.ClassName
import RouteAudit.Proofs.Source.Declaration.Suffix
import RouteAudit.Proofs.Text.Lettered

/-!
# What the names in declarations are written with

A name in a source has word characters and backslashes only.  So no class and no method that a
source declares has a blank, a hyphen or a slash in its name, whatever the source is
(`Declaration.lettered_of_mem_parse`).
-/

namespace RouteAudit.Source
open Text (Lettered isSign isWord isNameStart)

variable {scope : NameScope} {ts us : List Token}

/-! ## Names in tokens -/

/-- A character of a word is no sign. -/
lemma isSign_of_isWord {c : Char} (h : isWord c = true) : isSign c = false := by
  by_cases ascii : c.toNat < 0x80
  · exact Text.of_ascii (p := fun c => isWord c = true → isSign c = false) (by decide +kernel) ascii
      h
  · have zero : '0'.toNat = 0x30 := rfl
    rw [isSign, decide_eq_false_iff_not]
    omega

/-- A character that starts a name is no sign. -/
lemma isSign_of_isNameStart {c : Char} (h : isNameStart c = true) : isSign c = false :=
  isSign_of_isWord (Text.isWord_of_isNameStart h)

namespace Lexer

/-- What goes on with a name to its end has no sign. -/
lemma lettered_of_nameTail {cs : List Char} (h : nameTail cs = cs.length) :
    ∀ c ∈ cs, isSign c = false := by
  fun_induction nameTail cs with
  | case1 => exact List.forall_mem_nil _
  | case2 => cases h
  | case3 c cs hc ih =>
    have tail : nameTail cs = cs.length := by simp only [List.length_cons] at h; omega
    rw [List.forall_mem_cons, List.forall_mem_cons]
    exact ⟨by decide, isSign_of_isNameStart hc, ih tail⟩
  | case4 => cases h
  | case5 c cs _ _ hc ih =>
    have tail : nameTail cs = cs.length := by simp only [List.length_cons] at h; omega
    exact List.forall_mem_cons.2 ⟨isSign_of_isWord hc, ih tail⟩
  | case6 => cases h

/-- A name has no sign. -/
lemma lettered_of_nameLength? {cs : List Char} (h : nameLength? cs = some cs.length) :
    ∀ c ∈ cs, isSign c = false := by
  obtain ⟨front, c, rest, rfl, hfront, hc, tail⟩ := exists_of_isName h
  refine List.forall_mem_append.2 ⟨?_, List.forall_mem_cons.2 ⟨isSign_of_isNameStart hc, ?_⟩⟩
  · rcases hfront with rfl | rfl
    · exact List.forall_mem_nil _
    · exact List.forall_mem_singleton.2 (by decide)
  · exact lettered_of_nameTail tail

end Lexer

/-- If a token is a name, it has no signs. -/
def Token.IsLettered (t : Token) : Prop :=
  t.kind = .name → Lettered t.text

/-- The names of a source are lettered. -/
lemma Token.isLettered_of_mem_scan {source : List Char} {t : Token} (ht : t ∈ scan source) :
    t.IsLettered :=
  fun hkind => Lexer.lettered_of_nameLength? (nameLength?_of_mem_scan ht hkind)

/-- No name among some tokens has signs. -/
def AllLettered (ts : List Token) : Prop :=
  ∀ t ∈ ts, t.IsLettered

/-- The end of lettered tokens is lettered. -/
lemma AllLettered.suffix (h : AllLettered ts) (left : us <:+ ts) : AllLettered us :=
  Declaration.forall_mem_suffix h left

/-- The first of lettered tokens is lettered. -/
lemma AllLettered.head {t : Token} (h : AllLettered (t :: ts)) : t.IsLettered :=
  h t List.mem_cons_self

/-- Lettered tokens are lettered behind the first. -/
lemma AllLettered.tail {t : Token} (h : AllLettered (t :: ts)) : AllLettered ts :=
  h.suffix (List.suffix_cons t ts)

/-! ## Names of classes -/

namespace NameScope

/-- A lettered name makes a lettered namespace. -/
lemma lettered_entering {name : String} (h : Lettered name) : Lettered (entering name).space := by
  refine (Text.lettered_trim fun c sign => ?_).2 h
  rw [beq_eq_false_iff_ne]
  rintro rfl
  exact absurd sign (by decide)

/-- A lettered name is lettered in a lettered namespace. -/
lemma lettered_qualify (hspace : Lettered scope.space) {name : String} (h : Lettered name) :
    Lettered (scope.qualify name) := by
  have separator : Lettered "\\" := List.forall_mem_singleton.2 (by decide)
  rw [qualify, ClassName.join]
  split
  · exact h
  · exact Text.lettered_append.2 ⟨Text.lettered_append.2 ⟨hspace, separator⟩, h⟩

end NameScope

/-! ## The readers -/

namespace UseClause

/-- Imports leave the namespace as it is. -/
lemma space_readItems (start : String) (scope : NameScope) (ts : List Token) :
    (readItems start scope ts).1.space = scope.space := by
  fun_induction readItems start scope ts <;> simp_all [NameScope.addImport]

/-- A use clause stays in the namespace. -/
lemma space_read (scope : NameScope) (ts : List Token) :
    (read scope ts).1.space = scope.space := by
  cases ts with
  | nil => rfl
  | cons t ts =>
    rw [read]
    split
    · rfl
    · exact space_readItems "" scope (t :: ts)

end UseClause

namespace Declaration
open Token

/-- The name of a declaration is lettered. -/
lemma lettered_opening (hspace : Lettered scope.space) {inExpression : Bool} {t : Token}
    (h : AllLettered ts) {kind : ClassKind} {name : String}
    (opening : opening? inExpression t ts = some (kind, name)) :
    Lettered (scope.qualify name) := by
  rw [opening?.eq_def] at opening
  split at opening
  · obtain ⟨simple, heq⟩ := Option.ite_none_right_eq_some.1 opening
    cases heq
    rw [Bool.and_eq_true, isSimpleName, Bool.and_eq_true, beq_iff_eq] at simple
    exact NameScope.lettered_qualify hspace (h.head simple.2.1)
  · cases opening

/-- The name of a method is lettered. -/
lemma lettered_readMethodName (h : AllLettered ts) :
    ∀ name ∈ (readMethodName ts).1, Lettered name := by
  have named {t : Token} (ht : t.IsLettered) : ∀ name ∈ nameOf? t, Lettered name := by
    rw [nameOf?]
    split
    · next hname =>
      rintro _ ⟨⟩
      exact ht hname
    · exact fun _ h => absurd h (Option.not_mem_none _)
  fun_cases readMethodName ts with
  | case1 => exact fun _ h => absurd h (Option.not_mem_none _)
  | case2 => exact fun _ h => absurd h (Option.not_mem_none _)
  | case3 => exact named h.tail.head
  | case4 => exact named h.head

/-- The methods of a class are lettered. -/
lemma lettered_readMembers {hidden : Bool} {m : Members}
    (hm : ∀ method ∈ m.methods, Lettered method.name) (h : AllLettered ts) :
    ∀ method ∈ (readMembers scope hidden m ts).1.methods, Lettered method.name := by
  refine readMembers_keeps (P := fun m => ∀ method ∈ m.methods, Lettered method.name)
    (fun _ _ _ hm => hm) (fun m hidden ts h hm => List.forall_mem_append.2 ⟨hm, ?_⟩)
    (fun _ _ hm => hm) hm h
  rw [List.forall_mem_map]
  exact fun name hname => lettered_readMethodName h name (Option.mem_toList.1 hname)

/-- A declaration whose name and whose methods have no signs in their names. -/
structure IsLettered (d : Declaration) : Prop where
  name : Lettered d.name
  methods : ∀ m ∈ d.methods, Lettered m

/-- A declaration that is read is lettered. -/
lemma lettered_readOne (kind : ClassKind) (isAbstract : Bool) {name : String}
    (hname : Lettered (scope.qualify name)) (path : Option Path) (h : AllLettered ts) :
    ((readOne scope kind isAbstract name ts).1.declaration path).IsLettered where
  name := hname
  methods m hm := by
    obtain ⟨method, hmethod, rfl⟩ := List.mem_map.1 hm
    have body := h.suffix (readHeader_suffix scope kind none ts)
    exact lettered_readMembers (List.forall_mem_nil _) body method (List.mem_filter.1 hmethod).1

/-- From lettered tokens, lettered declarations are read. -/
lemma carries_lettered (path : Option Path) :
    Carries Token.IsLettered (fun scope => Lettered scope.space)
      fun c => (c.declaration path).IsLettered where
  entering _ hname lettered := NameScope.lettered_entering (lettered hname)
  leaving := NameScope.lettered_entering Text.lettered_empty
  use scope ts hspace _ := by rwa [UseClause.space_read]
  declared {_ kind _ _ ts _} isAbstract hspace h hopening :=
    lettered_readOne kind isAbstract (lettered_opening hspace h hopening) path
      (AllLettered.suffix h (List.drop_suffix 1 ts))

/-- **What a source declares has no signs in its name and in the names of its methods.** -/
theorem lettered_of_mem_parse {path : Option Path} {source : List Char} {d : Declaration}
    (h : d ∈ parse path source) : d.IsLettered := by
  obtain ⟨c, hc, rfl⟩ := List.mem_map.1 h
  exact (carries_lettered path).of_mem_readAll Text.lettered_empty
    (fun _ ht => isLettered_of_mem_scan ht) c hc

end Declaration

end RouteAudit.Source
