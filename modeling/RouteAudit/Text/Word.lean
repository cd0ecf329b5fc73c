import RouteAudit.Text.Alphanumeric

/-!
# Characters of names

A name starts with an ASCII letter or an underscore and goes on with word characters, which are the
alphanumeric characters of any script and the underscore.
-/

namespace RouteAudit.Text

/-- Whether a character may continue a name. -/
def isWord (c : Char) : Bool :=
  isAlphanumeric c || c == '_'

/-- Whether a character may start a name. -/
def isNameStart (c : Char) : Bool :=
  c.isAlpha || c == '_'

/-- A character that starts a name may also continue one. -/
theorem isWord_of_isNameStart {c : Char} (h : isNameStart c = true) : isWord c = true := by
  unfold isNameStart at h
  unfold isWord isAlphanumeric
  rcases Bool.or_eq_true _ _ ▸ h with ha | hu
  · have hlt : c.toNat < 0x80 := by
      change (decide (c.val ≥ 65 ∧ c.val ≤ 90) || (decide (c.val ≥ 97) && decide (c.val ≤ 122))) =
        true at ha
      simp only [Bool.or_eq_true, Bool.and_eq_true, decide_eq_true_eq, ge_iff_le,
        UInt32.le_iff_toNat_le] at ha
      have hv : c.toNat = c.val.toNat := rfl
      rcases ha with ⟨_, h2⟩ | ⟨_, h2⟩ <;> · simp at h2; omega
    simp [hlt, Char.isAlphanum, ha]
  · simp [hu]

end RouteAudit.Text
