import RouteAudit.Proofs.Text.Character
import RouteAudit.Proofs.Text.Span
import RouteAudit.Text.Lowercase

/-!
# Lower case, character by character

Nearly every character is lowered to a single one, and no other character becomes a backslash.  So
where the lower case of a text starts with a word and a backslash, the text has a backslash in the
same place (`backslash_of_lowerFrom`).
-/

namespace RouteAudit.Text

/-- Only a backslash becomes one. -/
lemma toLower_eq_backslash {c : Char} (hc : c.toNat < 0x80) (h : c.toLower = '\\') : c = '\\' :=
  of_ascii (p := fun c => c.toLower = '\\' → c = '\\') (by decide +kernel) hc h

/-- No letter beyond ASCII has a backslash as its lower case. -/
lemma shift_ne_backslash {n : Nat} {entry : Span × Int}
    (h : lowercaseShifts.find? (·.1.has n) = some entry) :
    Char.ofNat (n + entry.2).toNat ≠ '\\' := by
  have behind : ∀ entry ∈ lowercaseShifts, (92 : Int) < entry.1.first + entry.2 := by
    decide +kernel
  have here := behind entry (List.mem_of_find?_eq_some h)
  have hasIt := List.find?_some h
  obtain ⟨first, -⟩ := Span.has_iff.1 hasIt
  intro same
  have value := congrArg Char.toNat same
  rw [Char.toNat_ofNat] at value
  split at value
  · have : '\\'.toNat = 92 := rfl
    omega
  · cases value

/-- A character is lowered to a single one, unless an i comes of it. -/
lemma lowerChar_cases (c : Char) :
    (∃ t, lowerChar c = [t] ∧ (t = '\\' → c = '\\')) ∨ ∃ ts, lowerChar c = 'i' :: ts := by
  rw [lowerChar]
  split
  · next ascii => exact .inl ⟨c.toLower, rfl, toLower_eq_backslash ascii⟩
  · split
    · exact .inr ⟨_, rfl⟩
    · split
      · next found => exact .inl ⟨_, rfl, fun same => absurd same (shift_ne_backslash found)⟩
      · exact .inl ⟨c, rfl, id⟩

/-- The first small character comes from the first character. -/
lemma lowerFrom_eq_cons {afterCased : Bool} {cs ts : List Char} {t : Char} (ht : t ≠ 'i')
    (h : lowerFrom afterCased cs = t :: ts) :
    ∃ c rest afterCased', cs = c :: rest ∧ lowerFrom afterCased' rest = ts ∧
      (t = '\\' → c = '\\') := by
  cases cs with
  | nil => cases h
  | cons c rest =>
    refine ⟨c, rest, if isCaseIgnorable c then afterCased else isCased c, rfl, ?_⟩
    rw [lowerFrom] at h
    split at h
    · -- a sigma of either form is no backslash
      obtain ⟨rfl, rest⟩ := List.cons.inj h
      refine ⟨rest, fun same => ?_⟩
      split at same <;> exact absurd same (by decide)
    · rcases lowerChar_cases c with ⟨image, single, same⟩ | ⟨more, double⟩
      · rw [single] at h
        obtain ⟨rfl, rest⟩ := List.cons.inj h
        exact ⟨rest, same⟩
      · rw [double] at h
        exact absurd (List.cons.inj h).1.symm ht

/-- A backslash in the lower case of a text stands in the same place of the text, if no i comes
before. -/
lemma backslash_of_lowerFrom {word rest : List Char} (noI : 'i' ∉ word) {afterCased : Bool}
    {cs : List Char} (h : lowerFrom afterCased cs = word ++ '\\' :: rest) :
    ∃ front back, cs = front ++ '\\' :: back ∧ front.length = word.length := by
  induction word generalizing cs afterCased with
  | nil =>
    obtain ⟨c, back, -, rfl, -, same⟩ := lowerFrom_eq_cons (by decide) h
    exact ⟨[], back, by rw [same rfl, List.nil_append], rfl⟩
  | cons t word ih =>
    rw [List.mem_cons, not_or] at noI
    obtain ⟨c, cs, _, rfl, hrest, -⟩ := lowerFrom_eq_cons (Ne.symm noI.1) h
    obtain ⟨front, back, rfl, length⟩ := ih noI.2 hrest
    exact ⟨c :: front, back, rfl, by rw [List.length_cons, List.length_cons, length]⟩

end RouteAudit.Text
