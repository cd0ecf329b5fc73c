import Mathlib
import RouteAudit.Source.Value

/-!
# Decimal numbers

The decimal form of a number is read back as that number in the key of an array.  A text can be the
decimal form of a number if and only if it consists of digits without leading zeros.
-/

namespace RouteAudit.Text

/-- Whether a text consists of ASCII digits. -/
def AllDigits (cs : List Char) : Prop :=
  ∀ c ∈ cs, c.isDigit = true

/-- A digit is one of ten. -/
lemma toNat_of_isDigit {c : Char} (h : c.isDigit = true) :
    '0'.toNat ≤ c.toNat ∧ c.toNat - '0'.toNat < 10 := by
  have hv : c.toNat = c.val.toNat := rfl
  simp only [Char.isDigit, Bool.and_eq_true, decide_eq_true_eq, ge_iff_le,
    UInt32.le_iff_toNat_le] at h
  simp at h ⊢
  omega

/-- A digit is the one of its value. -/
lemma digitChar_of_isDigit {c : Char} (h : c.isDigit = true) :
    Nat.digitChar (c.toNat - '0'.toNat) = c := by
  obtain ⟨hle, hlt⟩ := toNat_of_isDigit h
  have all : ∀ d < 10, Nat.digitChar d = Char.ofNat ('0'.toNat + d) := by decide
  rw [all _ hlt, Nat.add_sub_cancel' hle, Char.ofNat_toNat]

/-- The digits of a number are digits. -/
lemma allDigits_toDigits (n : Nat) : AllDigits (Nat.toDigits 10 n) :=
  fun _ h => Nat.isDigit_of_mem_toDigits (by decide) (by decide) h

/-- Only zero starts with a zero. -/
lemma head?_toDigits {n : Nat} (h : (Nat.toDigits 10 n).head? = some '0') : n = 0 := by
  induction n using Nat.strongRecOn with
  | ind n ih =>
    rw [Nat.toDigits_eq_if (by decide)] at h
    split at h
    · simpa using h
    · obtain ⟨c, front, hfront⟩ := List.exists_cons_of_ne_nil (Nat.toDigits_ne_nil (n := n / 10))
      have hdiv : n / 10 = 0 := by
        apply ih (n / 10) (by omega)
        rw [hfront] at h ⊢
        exact h
      omega

/-- Digits without leading zeros are the decimal form of a number. -/
lemma toDigits_ofDigitChars {cs : List Char} (hne : cs ≠ []) (hd : AllDigits cs)
    (hz : cs.head? ≠ some '0') : Nat.toDigits 10 (Nat.ofDigitChars 10 cs 0) = cs := by
  induction cs using List.reverseRecOn with
  | nil => exact absurd rfl hne
  | append_singleton front c ih =>
    have hc : c.isDigit = true := hd c (by simp)
    obtain ⟨-, hlt⟩ := toNat_of_isDigit hc
    cases front with
    | nil =>
      rw [List.nil_append, Nat.ofDigitChars_cons, Nat.ofDigitChars_nil, Nat.mul_zero, Nat.zero_add,
        Nat.toDigits_of_lt_base hlt, digitChar_of_isDigit hc]
    | cons c' front =>
      have hfront :=
        ih (by simp) (fun d hd' => hd d (List.mem_append_left _ hd')) (by simpa using hz)
      -- the front is not zero, since it does not start with one
      have hpos : 0 < Nat.ofDigitChars 10 (c' :: front) 0 := by
        rw [Nat.pos_iff_ne_zero]
        intro h0
        rw [h0, Nat.toDigits_zero] at hfront
        rw [← hfront] at hz
        exact hz rfl
      rw [Nat.ofDigitChars_append, Nat.ofDigitChars_cons, Nat.ofDigitChars_nil,
        ← Nat.toDigits_append_toDigits (by decide) hpos hlt, hfront, Nat.toDigits_of_lt_base hlt,
        digitChar_of_isDigit hc]

namespace Numeral

/-- The number that some digits stand for. -/
lemma ofDigits_map (cs : List Char) :
    ofDigits 10 (cs.map fun c => c.toNat - '0'.toNat) = Nat.ofDigitChars 10 cs 0 := by
  rw [ofDigits, List.foldl_map, Nat.ofDigitChars]
  congr
  funext n c
  rw [Nat.mul_comm]

/-- An underscore is left out. -/
lemma plain_underscore (cs : List Char) : plain ('_' :: cs) = plain cs :=
  rfl

/-- An ASCII character other than an underscore stays. -/
lemma plain_cons {c : Char} (hc : c.toNat < 0x80 ∧ c ≠ '_') (cs : List Char) :
    plain (c :: cs) = c :: plain cs := by
  obtain ⟨ascii, hne⟩ := hc
  have keep : (c != '_') = true := by simpa using hne
  rw [plain, List.filter_cons, if_pos keep, List.map_cons, plain]
  congr 1
  by_cases hd : c.isDigit = true
  · rw [digitValue?, if_pos hd]
    show Char.ofNat ('0'.toNat + (c.toNat - '0'.toNat)) = c
    rw [Nat.add_sub_cancel' (toNat_of_isDigit hd).1, Char.ofNat_toNat]
  · have beyond : ∀ z ∈ digitZeros, 0x80 ≤ z := by decide
    have noDigit : (digitZeros.find? fun z => z ≤ c.toNat && c.toNat < z + 10) = none := by
      rw [List.find?_eq_none]
      intro z hz
      have hle := beyond z hz
      simp only [Bool.and_eq_true, decide_eq_true_eq]
      omega
    rw [digitValue?, if_neg hd, noDigit]
    exact if_pos ascii

end Numeral

end RouteAudit.Text

namespace RouteAudit.Source.Key
open Text

/-- Digits have their own values. -/
lemma filterMap_digitValue? {cs : List Char} (h : AllDigits cs) :
    cs.filterMap digitValue? = cs.map fun c => c.toNat - '0'.toNat := by
  induction cs with
  | nil => rfl
  | cons c cs ih =>
    have hc : digitValue? c = some (c.toNat - '0'.toNat) := if_pos (h c (by simp))
    rw [List.filterMap_cons_some hc, List.map_cons, ih fun d hd => h d (List.mem_cons_of_mem _ hd)]

/-- The texts that stand for an index are the decimal forms of numbers. -/
lemma isIndexText_iff {cs : List Char} : isIndexText cs = true ↔ ∃ n, cs = Nat.toDigits 10 n := by
  constructor
  · intro h
    rw [isIndexText, Bool.or_eq_true, Bool.and_eq_true, Bool.and_eq_true, List.all_eq_true] at h
    rcases h with h | ⟨⟨hd, hne⟩, hz⟩
    · exact ⟨0, by simpa using h⟩
    · exact ⟨_, (toDigits_ofDigitChars (by simpa using hne) hd (by simpa using hz)).symm⟩
  · rintro ⟨n, rfl⟩
    by_cases hz : (Nat.toDigits 10 n).head? = some '0'
    · rw [head?_toDigits hz]
      rfl
    · have hd : (Nat.toDigits 10 n).all Char.isDigit = true :=
        List.all_eq_true.2 (allDigits_toDigits n)
      simp [isIndexText, hd, hz]

/-- The decimal form of a number within the limit is the key of that index. -/
lemma ofValue?_repr {n : Nat} (h : n < 10 ^ digitLimit) :
    ofValue? (.text (Nat.repr n)) = .ok (some (.index n)) := by
  have hlen := (Nat.length_toDigits_le_iff (b := 10) (by decide) (by decide)).2 h
  rw [ofValue?, Nat.toList_repr, if_pos (isIndexText_iff.2 ⟨n, rfl⟩), if_neg (by omega),
    filterMap_digitValue? (allDigits_toDigits n), Numeral.ofDigits_map,
    Nat.ofDigitChars_ten_toDigits]

/-- A text that is the decimal form of no number is a key by itself. -/
lemma ofValue?_text {s : String} (h : ∀ n, s ≠ Nat.repr n) :
    ofValue? (.text s) = .ok (some (.text s)) := by
  rw [ofValue?, if_neg]
  intro hs
  obtain ⟨n, hn⟩ := isIndexText_iff.1 hs
  exact h n (by rw [← String.toList_inj, hn, Nat.toList_repr])

end RouteAudit.Source.Key
