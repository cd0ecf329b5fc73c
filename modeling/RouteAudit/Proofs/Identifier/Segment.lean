import RouteAudit.Proofs.Identifier
import RouteAudit.Proofs.Text.Lettered

/-!
# Identifiers as segments of routes

The identifiers of controllers and actions stand between the slashes of routes.  An identifier has
slashes only if the name has, it has no hyphen at its ends, and it is empty only if the name is made
of hyphens (`ofName_eq_empty`).  A method that is called just like the start of all actions is none,
so no identifier of an action is empty (`namesAction`).  A class may be called just like the end of
all controllers, and then its identifier is empty (`namesController`).
-/

namespace RouteAudit.Identifier

open Text

/-- A text without slashes, and without hyphens at its ends. -/
structure IsSegment (s : String) : Prop where
  whole : '/' ∉ s.toList
  first : s.toList.head? ≠ some '-'
  last : s.toList.getLast? ≠ some '-'

/-- Signs are in an identifier only if they are in the name, but for hyphens. -/
lemma mem_of_mem_ofName {name : String} {c : Char} (sign : isSign c = true) (hc : c ≠ '-')
    (h : c ∈ (ofName name).toList) : c ∈ name.toList := by
  have kept : (c == '-') = false := beq_eq_false_iff_ne.2 hc
  rw [ofName] at h
  have hmem := (mem_trim c kept).1 h
  rw [lower, String.toList_ofList, mem_lowerFrom_iff sign, String.toList_ofList] at hmem
  exact (mem_hyphenate hmem).resolve_left hc

/-- A sign of the identifier of a controller is in the name of its class. -/
lemma mem_of_mem_ofController {className : String} {c : Char} (sign : isSign c = true)
    (hc : c ≠ '-') (h : c ∈ (ofController className).toList) : c ∈ className.toList := by
  have hname := mem_of_mem_ofName sign hc h
  have hshort : c ∈ (Source.ClassName.short className).toList := by
    split at hname
    · rw [dropLast, String.toList_ofList] at hname
      exact List.mem_of_mem_take hname
    · exact hname
  exact mem_of_mem_afterLast hshort

/-- A sign of the identifier of an action is in the name of its method. -/
lemma mem_of_mem_ofAction {method : String} {c : Char} (sign : isSign c = true) (hc : c ≠ '-')
    (h : c ∈ (ofAction method).toList) : c ∈ method.toList := by
  have hname := mem_of_mem_ofName sign hc h
  split at hname
  · rw [dropFirst, String.toList_ofList] at hname
    exact List.mem_of_mem_drop hname
  · exact hname

/-- What is trimmed starts with something that is wanted. -/
lemma head?_trimList (cs : List Char) : (trimList (· == '-') cs).head? ≠ some '-' := by
  intro h
  have front : trimList (· == '-') cs <+: cs.dropWhile (· == '-') :=
    List.rdropWhile_prefix (· == '-') _
  obtain ⟨back, whole⟩ := front
  have first := List.head?_dropWhile_not (· == '-') cs
  rw [← whole, List.head?_append, h] at first
  simp at first

/-- A name without a slash gives a segment. -/
lemma isSegment_ofName {name : String} (h : '/' ∉ name.toList) : IsSegment (ofName name) where
  whole slash := h (mem_of_mem_ofName (by decide) (by decide) slash)
  first := by
    rw [toList_ofName]
    exact head?_trimList _
  last := by
    rw [toList_ofName]
    exact getLast?_trimLast _

/-- An identifier is empty if the name is made of hyphens. -/
lemma ofName_eq_empty {name : String} : ofName name = "" ↔ ∀ c ∈ name.toList, c = '-' := by
  have hyphens : name.toList.dropWhile (· == '-') = [] ↔ ∀ c ∈ name.toList, c = '-' := by
    simp only [List.dropWhile_eq_nil_iff, beq_iff_eq]
  rw [← hyphens, ← String.toList_inj, toList_ofName, written_dropWhile]
  constructor
  · intro h
    cases hrest : name.toList.dropWhile (· == '-') with
    | nil => rfl
    | cons c cs =>
      have hc : c ≠ '-' := by
        have first := List.head?_dropWhile_not (· == '-') name.toList
        rw [hrest] at first
        simpa using first
      obtain ⟨d, image, afterCased, written, hd, -⟩ := exists_written hc cs
      rw [hrest, written] at h
      -- the first letter is not trimmed
      have all := List.rdropWhile_eq_nil_iff.1 h d List.mem_cons_self
      exact absurd (beq_iff_eq.1 all) hd
  · intro h
    rw [h]
    rfl

/-- A name without hyphens has an identifier that is not empty. -/
lemma ofName_ne_empty {name : String} (hne : name ≠ "") (h : '-' ∉ name.toList) :
    ofName name ≠ "" := by
  obtain ⟨c, hc⟩ := List.exists_mem_of_ne_nil name.toList (by simpa using hne)
  intro hempty
  obtain rfl := ofName_eq_empty.1 hempty c hc
  exact h hc

/-- A class name makes a segment of routes, which is empty only if the class is called just what the
names of controllers end with. -/
def NamesController (className : String) : Prop :=
  IsSegment (ofController className) ∧
    (ofController className = "" ↔ Source.ClassName.short className = controllerSuffix)

/-- The name of a method makes a segment of routes that is not empty. -/
def NamesAction (method : String) : Prop :=
  IsSegment (ofAction method) ∧ ofAction method ≠ ""

/-- A class whose name ends in the suffix, without slashes and hyphens, names a controller. -/
lemma namesController {className : String}
    (hend : endsWith (Source.ClassName.short className) controllerSuffix = true)
    (slash : '/' ∉ (Source.ClassName.short className).toList)
    (hyphen : '-' ∉ (Source.ClassName.short className).toList) : NamesController className := by
  obtain ⟨name, hname⟩ := endsWith_iff.1 hend
  have cut : ofController className = ofName name := by
    rw [ofController]
    simp only [hend, if_true]
    rw [hname, dropLast_append]
  rw [hname, String.toList_append, List.mem_append, not_or] at slash hyphen
  rw [NamesController, cut, hname, String.append_eq_right_iff]
  refine ⟨isSegment_ofName slash.1, fun hempty => ?_, fun hempty => ?_⟩
  · by_contra hne
    exact ofName_ne_empty hne hyphen.1 hempty
  · rw [hempty]
    rfl

/-- A method without slashes and hyphens that is an action names one. -/
lemma namesAction {method : String} (h : isAction method = true) (slash : '/' ∉ method.toList)
    (hyphen : '-' ∉ method.toList) : NamesAction method := by
  rw [isAction, Bool.and_eq_true, Bool.and_eq_true, bne_iff_ne] at h
  obtain ⟨⟨start, hne⟩, -⟩ := h
  obtain ⟨name, rfl⟩ := startsWith_iff.1 start
  rw [NamesAction, ofAction, if_pos start, dropFirst_append]
  rw [String.toList_append, List.mem_append, not_or] at slash hyphen
  refine ⟨isSegment_ofName slash.2, ofName_ne_empty ?_ hyphen.2⟩
  rintro rfl
  exact hne String.append_empty

end RouteAudit.Identifier
