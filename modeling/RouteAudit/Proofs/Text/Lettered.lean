import RouteAudit.Proofs.Text.Character
import RouteAudit.Proofs.Text.Cut
import RouteAudit.Proofs.Text.LetterCase

/-!
# Texts without signs

The characters before the digits are blanks, line ends and signs, among them the hyphen and the
slash.  Lower case neither makes nor removes any of them (`mem_lowerFrom_iff`), so a text has some
exactly when its lower case has.
-/

namespace RouteAudit.Text

/-- Whether a character is a blank, a line end or one of the signs before the digits. -/
def isSign (c : Char) : Bool :=
  c.toNat < '0'.toNat

/-- A text without blanks, line ends and the signs before the digits. -/
def Lettered (s : String) : Prop :=
  ∀ c ∈ s.toList, isSign c = false

/-! ## Lower case -/

/-- A sign has no small form but itself, and no other character has one as its small form. -/
lemma isSign_toLower {c : Char} (hc : c.toNat < 0x80) :
    (isSign c = true → c.toLower = c) ∧ (isSign c = false → isSign c.toLower = false) :=
  of_ascii (p := fun c => (isSign c = true → c.toLower = c) ∧
    (isSign c = false → isSign c.toLower = false)) (by decide +kernel) hc

/-- No letter of the tables is lowered to a sign. -/
lemma isSign_shift {n : Nat} {entry : Span × Int} (hmem : entry ∈ lowercaseShifts)
    (hn : entry.1.has n = true) : isSign (Char.ofNat (n + entry.2).toNat) = false := by
  -- all code points are valid, so none of them stands for the null character
  have range : ∀ entry ∈ lowercaseShifts, (0x30 : Int) ≤ entry.1.first + entry.2 ∧
      ((entry.1.last + entry.2 : Int) < 0xD800 ∨
        (0xDFFF : Int) < entry.1.first + entry.2 ∧ (entry.1.last + entry.2 : Int) < 0x110000) := by
    decide +kernel
  obtain ⟨first, last, -⟩ := Span.has_iff.1 hn
  have here := range entry hmem
  have valid : (n + entry.2).toNat.isValidChar := by
    rw [Nat.isValidChar]
    omega
  rw [isSign, Char.toNat_ofNat, if_pos valid, decide_eq_false_iff_not]
  have zero : '0'.toNat = 0x30 := rfl
  omega

/-- The lower case of a sign is the sign, and that of any other character has no sign. -/
lemma lowerChar_sign (c : Char) :
    (isSign c = true → lowerChar c = [c]) ∧
      (isSign c = false → ∀ d ∈ lowerChar c, isSign d = false) := by
  rw [lowerChar]
  split
  · next ascii =>
    obtain ⟨sign, other⟩ := isSign_toLower ascii
    rw [List.forall_mem_singleton, List.singleton_inj]
    exact ⟨sign, other⟩
  · next ascii =>
    refine ⟨fun sign => ?_, fun other => ?_⟩
    · rw [isSign, decide_eq_true_eq] at sign
      have zero : '0'.toNat = 0x30 := rfl
      omega
    · split
      · rw [List.forall_mem_cons, List.forall_mem_singleton]
        exact ⟨by decide +kernel, by decide +kernel⟩
      · split
        · next found =>
          have hasIt := List.find?_some found
          have notSign := isSign_shift (List.mem_of_find?_eq_some found) hasIt
          exact List.forall_mem_singleton.2 notSign
        · exact List.forall_mem_singleton.2 other

/-- A text has the same signs as its lower case. -/
lemma mem_lowerFrom_iff {d : Char} (hd : isSign d = true) {afterCased : Bool} {cs : List Char} :
    d ∈ lowerFrom afterCased cs ↔ d ∈ cs := by
  induction cs generalizing afterCased with
  | nil => exact Iff.rfl
  | cons c cs ih =>
    rw [lowerFrom, List.mem_append, ih, List.mem_cons]
    refine or_congr_left ?_
    split
    · next sigma =>
      have notSigma : d ≠ 'Σ' ∧ d ≠ 'ς' ∧ d ≠ 'σ' := by
        refine ⟨?_, ?_, ?_⟩ <;> · rintro rfl; exact absurd hd (by decide)
      subst sigma
      split <;> simp [notSigma]
    · obtain ⟨sign, other⟩ := lowerChar_sign c
      cases hc : isSign c with
      | true => rw [sign hc, List.mem_singleton]
      | false =>
        refine iff_of_false (fun hmem => ?_) ?_
        · rw [other hc d hmem] at hd
          cases hd
        · rintro rfl
          rw [hc] at hd
          cases hd

/-- A text is lettered if no sign is in it. -/
lemma lettered_iff {s : String} : Lettered s ↔ ∀ c, isSign c = true → c ∉ s.toList := by
  constructor
  · intro h c sign hc
    rw [h c hc] at sign
    cases sign
  · intro h c hc
    exact eq_false_of_ne_true fun sign => h c sign hc

/-- **A text has no signs exactly when its lower case has none.** -/
lemma lettered_lower {s : String} : Lettered (lower s) ↔ Lettered s := by
  rw [lettered_iff, lettered_iff, lower, String.toList_ofList]
  exact forall_congr' fun c => forall_congr' fun sign => not_congr (mem_lowerFrom_iff sign)

/-! ## Parts of texts -/

/-- The empty text is lettered. -/
lemma lettered_empty : Lettered "" :=
  List.forall_mem_nil _

/-- A joined text is lettered if both parts are. -/
lemma lettered_append {s t : String} : Lettered (s ++ t) ↔ Lettered s ∧ Lettered t := by
  rw [Lettered, String.toList_append, List.forall_mem_append]
  exact Iff.rfl

/-- Where no sign is trimmed, all signs stay. -/
lemma lettered_trim {drop : Char → Bool} (hdrop : ∀ c, isSign c = true → drop c = false)
    {s : String} : Lettered (trim drop s) ↔ Lettered s := by
  rw [lettered_iff, lettered_iff]
  exact forall_congr' fun c => forall_congr' fun sign => not_congr (mem_trim c (hdrop c sign))

end RouteAudit.Text
