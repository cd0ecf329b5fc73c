import RouteAudit.Proofs.Assoc
import RouteAudit.Proofs.Source.Token.Separator
import RouteAudit.Proofs.Text.Cut
import RouteAudit.Proofs.Text.Lowercase

/-!
# Proper names

A class name is proper if it neither starts nor ends with a backslash, and is not empty.  Such a
name is known by its lower case (`Proper.key`).  In a token that is a name a segment starts behind
each backslash, so every name that is mentioned in a source stands for a proper one
(`NameScope.Proper.resolve`).
-/

namespace RouteAudit.Source
open Text

namespace ClassName

/-- A name that has no backslash at its ends. -/
structure Proper (name : String) : Prop where
  first : ∃ c ∈ name.toList.head?, c ≠ separator
  last : ∃ c ∈ name.toList.getLast?, c ≠ separator

variable {name front back space : String}

/-- A proper name has no backslash at its ends. -/
lemma Proper.bare (h : Proper name) : bare name = name := by
  obtain ⟨⟨c, hc, start⟩, ⟨d, hd, last⟩⟩ := h
  refine trim_of_wanted (fun c' hc' => ?_) fun d' hd' => ?_
  · rw [Option.mem_unique hc' hc]
    exact beq_false_of_ne start
  · rw [Option.mem_unique hd' hd]
    exact beq_false_of_ne last

/-- A proper name is known by its lower case. -/
lemma Proper.key (h : Proper name) : key name = lower name := by
  rw [ClassName.key, h.bare]

/-- What stands behind a proper name decides whether the whole is proper. -/
lemma Proper.append (h : Proper front) (hback : ∃ c ∈ back.toList.getLast?, c ≠ separator) :
    Proper (front ++ "\\" ++ back) := by
  obtain ⟨c, hc, start⟩ := h.first
  obtain ⟨d, hd, last⟩ := hback
  refine ⟨⟨c, ?_, start⟩, d, ?_, last⟩
  · simp [String.toList_append, Option.mem_def.1 hc]
  · rw [Option.mem_def, String.toList_append, List.getLast?_append, hd, Option.some_or]

/-- A proper name in a namespace is proper. -/
lemma Proper.join (h : Proper name) (hspace : space = "" ∨ Proper space) :
    Proper (join space name) := by
  rw [ClassName.join]
  split
  · exact h
  · next hne =>
    rcases hspace with rfl | hspace
    · exact absurd rfl hne
    · exact hspace.append h.last

/-- A name that is not made of backslashes is proper without those at its ends. -/
lemma proper_bare (h : ∃ c ∈ name.toList, c ≠ separator) : Proper (ClassName.bare name) := by
  have wanted {cs : List Char} (h : ∃ c ∈ cs, c ≠ separator) :
      ∃ c ∈ (cs.dropWhile (· == separator)).head?, c ≠ separator := by
    induction cs with
    | nil => simp at h
    | cons c cs ih =>
      by_cases hc : c = separator
      · rw [List.exists_mem_cons_iff, or_iff_right (not_not.2 hc)] at h
        rw [List.dropWhile_cons_of_pos (by simpa using hc)]
        exact ih h
      · rw [List.dropWhile_cons_of_neg (by simpa using hc)]
        exact ⟨c, rfl, hc⟩
  obtain ⟨c, hc, start⟩ := wanted h
  have back : ∃ d ∈ (name.toList.dropWhile (· == separator)).reverse, d ≠ separator :=
    ⟨c, List.mem_reverse.2 (List.mem_of_mem_head? hc), start⟩
  obtain ⟨d, hd, last⟩ := wanted back
  rw [ClassName.bare, trim, trimList]
  refine ⟨⟨c, ?_, start⟩, d, ?_, last⟩
  · -- the first character is not trimmed at the end
    have whole := congrArg List.getLast? (List.takeWhile_append_dropWhile
      (p := (· == separator)) (l := (name.toList.dropWhile (· == separator)).reverse))
    have hne : (name.toList.dropWhile (· == separator)).reverse.dropWhile (· == separator) ≠ [] :=
      List.ne_nil_of_mem (List.mem_of_mem_head? hd)
    rw [List.getLast?_append_of_ne_nil _ hne, List.getLast?_reverse] at whole
    rwa [String.toList_ofList, List.head?_reverse, whole]
  · rwa [String.toList_ofList, List.getLast?_reverse]

end ClassName

/-! ## Names in tokens -/

/-- A segment starts behind each backslash of a text. -/
def Segmented (cs : List Char) : Prop :=
  ∀ front rest, cs = front ++ '\\' :: rest → ∃ c ∈ rest.head?, isNameStart c = true

namespace Segmented

variable {c : Char} {cs front rest : List Char}

/-- One more character keeps the segments, where a backslash has the start of a name behind it. -/
lemma cons (hc : c = '\\' → ∃ d ∈ cs.head?, isNameStart d = true) (h : Segmented cs) :
    Segmented (c :: cs) := by
  intro front rest hcs
  cases front with
  | nil =>
    obtain ⟨rfl, rfl⟩ := List.cons.inj hcs
    exact hc rfl
  | cons _ front => exact h front rest (List.cons.inj hcs).2

/-- The end of a segmented text is segmented. -/
lemma of_append (h : Segmented (front ++ rest)) : Segmented rest := by
  rintro before behind rfl
  exact h (front ++ before) behind (List.append_assoc _ _ _).symm

/-- A text does not end with a backslash. -/
lemma last (h : Segmented cs) (hne : cs ≠ []) : ∃ c ∈ cs.getLast?, c ≠ ClassName.separator := by
  refine ⟨cs.getLast hne, List.getLast?_eq_some_getLast hne, fun hlast => ?_⟩
  have hcs := (List.dropLast_append_getLast hne).symm
  rw [hlast] at hcs
  obtain ⟨c, hc, -⟩ := h _ [] hcs
  cases hc

/-- What stands behind a backslash is a proper name. -/
lemma proper_behind (h : Segmented (front ++ '\\' :: rest)) :
    ClassName.Proper (String.ofList rest) := by
  obtain ⟨c, hc, start⟩ := h front rest rfl
  have hcons : Segmented (['\\'] ++ rest) := of_append h
  have hrest : Segmented rest := of_append hcons
  rw [Option.mem_def] at hc
  refine ⟨⟨c, by rwa [String.toList_ofList], ?_⟩, ?_⟩
  · exact Lexer.ne_of_isNameStart start (by decide)
  · rw [String.toList_ofList]
    exact hrest.last (List.ne_nil_of_mem (List.mem_of_mem_head? hc))

end Segmented

namespace Lexer

/-- A text that goes on with a name to its end is segmented. -/
lemma segmented_of_nameTail {cs : List Char} (h : nameTail cs = cs.length) : Segmented cs := by
  fun_induction nameTail cs with
  | case1 => exact fun front rest hcs => by simp at hcs
  | case2 => cases h
  | case3 c cs hc ih =>
    have tail : nameTail cs = cs.length := by simp only [List.length_cons] at h; omega
    have noBackslash : c ≠ '\\' := ne_of_isNameStart hc (by decide)
    exact .cons (fun _ => ⟨c, rfl, hc⟩) (.cons (absurd · noBackslash) (ih tail))
  | case4 => cases h
  | case5 c cs he hne hc ih =>
    have tail : nameTail cs = cs.length := by simp only [List.length_cons] at h; omega
    exact .cons (absurd · (ne_backslash he hne)) (ih tail)
  | case6 => cases h

/-- A text that is a name is segmented. -/
lemma segmented_of_nameLength? {cs : List Char} (h : nameLength? cs = some cs.length) :
    Segmented cs := by
  obtain ⟨front, c, rest, rfl, hfront, hc, tail⟩ := exists_of_isName h
  have noBackslash : c ≠ '\\' := ne_of_isNameStart hc (by decide)
  have segment : Segmented (c :: rest) :=
    .cons (absurd · noBackslash) (segmented_of_nameTail tail)
  rcases hfront with rfl | rfl
  · exact segment
  · exact .cons (fun _ => ⟨c, rfl, hc⟩) segment

end Lexer

/-- The text of a token that is a name is one. -/
lemma Token.nameLength?_of_mem_scan {source : List Char} {t : Token} (ht : t ∈ scan source)
    (hkind : t.kind = .name) : Lexer.nameLength? t.text.toList = some t.text.toList.length := by
  have hnext := (scans_scanFrom 0 source).next_text t ht
  rcases Lexer.class_of_next hnext with ⟨h, -⟩ | ⟨h, -⟩ | ⟨h, -⟩ | ⟨-, h⟩ | ⟨h, -⟩ | ⟨h, -⟩ |
    ⟨h, -⟩
  case inr.inr.inr.inl => exact h
  all_goals
    rw [hkind] at h
    cases h

/-- If a token is a name, it consists of segments. -/
def Token.Spelled (t : Token) : Prop :=
  t.kind = .name → t.text ≠ "" ∧ Segmented t.text.toList

/-- The names of a source are spelled in segments. -/
lemma Token.spelled_of_mem_scan {source : List Char} {t : Token} (ht : t ∈ scan source) :
    t.Spelled := by
  intro hkind
  have h := nameLength?_of_mem_scan ht hkind
  refine ⟨fun hempty => ?_, Lexer.segmented_of_nameLength? h⟩
  rw [hempty] at h
  cases h

/-! ## Names in a scope -/

namespace NameScope

/-- A scope that makes proper names: its namespace is global or proper, and so are its imports. -/
structure Proper (scope : NameScope) : Prop where
  space : scope.space = "" ∨ ClassName.Proper scope.space
  imports : ∀ entry ∈ scope.imports, ClassName.Proper entry.2

variable {scope : NameScope} {name : String}

/-- The scope at the start of a source is proper. -/
lemma proper_empty : Proper {} :=
  ⟨.inl rfl, List.forall_mem_nil _⟩

/-- The scope of the global namespace is proper. -/
lemma proper_global : (entering "").Proper :=
  ⟨.inl rfl, List.forall_mem_nil _⟩

/-- A name has characters that are no backslashes. -/
lemma exists_character (hne : name ≠ "") (hname : Segmented name.toList) :
    ∃ c ∈ name.toList, c ≠ ClassName.separator := by
  obtain ⟨c, hc, other⟩ := hname.last (by simpa using hne)
  exact ⟨c, List.mem_of_mem_getLast? hc, other⟩

/-- The scope of a namespace with a segmented name is proper. -/
lemma proper_entering (hne : name ≠ "") (hname : Segmented name.toList) :
    (entering name).Proper :=
  ⟨.inr (ClassName.proper_bare (exists_character hne hname)), List.forall_mem_nil _⟩

/-- A proper scope is proper with one more import. -/
lemma Proper.addImport (h : scope.Proper) (hname : ∃ c ∈ name.toList, c ≠ ClassName.separator)
    (short? : Option String) : (scope.addImport name short?).Proper where
  space := h.space
  imports entry hentry := by
    rcases Assoc.mem_insert hentry with hold | rfl
    · exact h.imports entry hold
    · exact ClassName.proper_bare hname

/-- A name that does not start with a backslash is proper. -/
lemma proper_of_start (hne : name ≠ "") (hname : Segmented name.toList)
    (hstart : ¬startsWith name "\\" = true) : ClassName.Proper name := by
  have hne : name.toList ≠ [] := by simpa using hne
  obtain ⟨c, cs, hcs⟩ := List.exists_cons_of_ne_nil hne
  refine ⟨⟨c, by rw [hcs]; rfl, ?_⟩, hname.last hne⟩
  rintro rfl
  rw [startsWith, hcs] at hstart
  exact hstart rfl

/-- Behind the mark of a relative name stands a proper name. -/
lemma proper_relative (hname : Segmented name.toList)
    (hmark : startsWith (lower name) relativeMark = true) :
    ClassName.Proper (dropFirst relativeMark.length name) := by
  obtain ⟨rest, hlower⟩ := startsWith_iff.1 hmark
  have hlower : lowerFrom false name.toList = "namespace".toList ++ '\\' :: rest.toList := by
    have := congrArg String.toList hlower
    rwa [lower, String.toList_ofList, String.toList_append] at this
  -- the mark is as long as what it is the lower case of
  obtain ⟨front, back, hsplit, length⟩ := backslash_of_lowerFrom (by decide) hlower
  have mark : relativeMark.length = front.length + 1 := congrArg (· + 1) length.symm
  have drop : dropFirst relativeMark.length name = String.ofList back := by
    rw [dropFirst, hsplit, mark, List.drop_length_add_append]
    rfl
  rw [hsplit] at hname
  rw [drop]
  exact hname.proper_behind

/-- **A name that is mentioned stands for a proper one.** -/
theorem Proper.resolve (h : scope.Proper) (hne : name ≠ "") (hname : Segmented name.toList) :
    ClassName.Proper (scope.resolve name) := by
  rw [NameScope.resolve]
  split
  · next hstart =>
    obtain ⟨rest, rfl⟩ := startsWith_iff.1 hstart
    have hrest : Segmented ([] ++ '\\' :: rest.toList) := by
      rwa [String.toList_append] at hname
    have proper := hrest.proper_behind
    rw [String.ofList_toList] at proper
    have drop : dropFirst 1 ("\\" ++ rest) = rest := dropFirst_append "\\" rest
    rwa [drop]
  · next hstart =>
    have whole := proper_of_start hne hname hstart
    split
    · next hmark => exact (proper_relative hname hmark).join h.space
    · dsimp only
      split
      · next imported found =>
        have proper := h.imports _ (Assoc.mem_of_get? found)
        split
        · exact proper
        · next hrest =>
          -- only what is behind a separator is left of a name
          cases hcut : cut? ClassName.separator name with
          | none =>
            rw [hcut] at hrest
            exact absurd rfl hrest
          | some parts =>
            obtain ⟨first, rest⟩ := parts
            rw [hcut] at hrest
            rw [eq_of_cut? hcut, String.toList_append] at hname
            exact proper.append (hname.of_append.last (by simpa using hrest))
      · exact whole.join h.space

end NameScope

end RouteAudit.Source
