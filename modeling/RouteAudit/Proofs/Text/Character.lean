import Mathlib
import RouteAudit.Text.Word

/-!
# ASCII characters

The numbers of the ASCII letters and digits are below 128, and so are those of the characters with
which a name starts.  What holds of these characters can be tested number by number (`of_ascii`).
-/

namespace RouteAudit.Text

/-- What holds of the ASCII characters by their numbers holds of each. -/
lemma of_ascii {p : Char → Prop} (h : ∀ n < 0x80, p (Char.ofNat n)) {c : Char}
    (hc : c.toNat < 0x80) : p c := by
  rw [← Char.ofNat_toNat c]
  exact h c.toNat hc

/-- An ASCII letter or digit is ASCII. -/
lemma lt_of_isAlphanum {c : Char} (h : c.isAlphanum = true) : c.toNat < 0x80 := by
  simp only [Char.isAlphanum, Char.isAlpha, Char.isUpper, Char.isLower, Char.isDigit,
    Bool.or_eq_true, Bool.and_eq_true, decide_eq_true_eq, ge_iff_le, UInt32.le_iff_toNat_le] at h
  have value : c.toNat = c.val.toNat := rfl
  rcases h with (⟨-, h⟩ | ⟨-, h⟩) | ⟨-, h⟩ <;> · simp at h; omega

/-- A character that starts a name is ASCII. -/
lemma lt_of_isNameStart {c : Char} (h : isNameStart c = true) : c.toNat < 0x80 := by
  rw [isNameStart, Bool.or_eq_true, beq_iff_eq] at h
  rcases h with letter | rfl
  · exact lt_of_isAlphanum (by rw [Char.isAlphanum, letter, Bool.true_or])
  · decide

end RouteAudit.Text
