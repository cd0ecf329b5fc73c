import Mathlib
import RouteAudit.Diagnostic

/-!
# The order of reports

Reports are ordered by file, line and route, and reports with the same of all three keep the order
in which they were found (`sort_stable`).  Of references to one index these three tell all that is
reported, so the order in which the references were found has no part in it (`sort_check_perm`).
-/

namespace RouteAudit.Diagnostic

/-- What reports are ordered by. -/
def key (d : Diagnostic) : String × Int × String :=
  (d.file, d.line, d.route)

/-- The reports `ys` are the reports `xs` in order, and those with one key are as they were. -/
structure StableSort (xs ys : List Diagnostic) : Prop where
  perm : ys.Perm xs
  sorted : ys.Pairwise fun a b => a.before b
  stable : ∀ k, ys.filter (·.key = k) = xs.filter (·.key = k)

/-- Diagnostics are ordered by file, then by line, then by route. -/
lemma before_iff {a b : Diagnostic} :
    a.before b ↔ a.file < b.file ∨ a.file = b.file ∧
      (a.line < b.line ∨ a.line = b.line ∧ a.route ≤ b.route) := by
  rw [before]
  by_cases hf : a.file = b.file
  · by_cases hl : a.line = b.line
    · simp [hf, hl]
    · simp [hf, hl]
  · simp [hf]

/-- The order of diagnostics is transitive. -/
lemma before_trans (a b c : Diagnostic) (hab : a.before b) (hbc : b.before c) : a.before c := by
  rw [before_iff] at *
  rcases hab with hab | ⟨hab, hab'⟩ <;> rcases hbc with hbc | ⟨hbc, hbc'⟩
  · exact .inl (String.lt_trans hab hbc)
  · exact .inl (hbc ▸ hab)
  · exact .inl (hab ▸ hbc)
  · refine .inr ⟨hab.trans hbc, ?_⟩
    rcases hab' with hl | ⟨hl, hr⟩ <;> rcases hbc' with hl' | ⟨hl', hr'⟩
    · exact .inl (Int.lt_trans hl hl')
    · exact .inl (hl' ▸ hl)
    · exact .inl (hl ▸ hl')
    · exact .inr ⟨hl.trans hl', String.le_trans hr hr'⟩

/-- Of two diagnostics one comes before the other. -/
lemma before_total (a b : Diagnostic) : a.before b || b.before a := by
  rw [Bool.or_eq_true, before_iff, before_iff]
  by_cases hf : a.file = b.file
  · rcases Int.lt_trichotomy a.line b.line with hl | hl | hl
    · exact .inl (.inr ⟨hf, .inl hl⟩)
    · rcases String.le_total a.route b.route with hr | hr
      · exact .inl (.inr ⟨hf, .inr ⟨hl, hr⟩⟩)
      · exact .inr (.inr ⟨hf.symm, .inr ⟨hl.symm, hr⟩⟩)
    · exact .inr (.inr ⟨hf.symm, .inl hl⟩)
  · rcases String.le_total a.file b.file with h | h
    · exact .inl (.inl (Std.lt_of_le_of_ne h hf))
    · exact .inr (.inl (Std.lt_of_le_of_ne h (Ne.symm hf)))

/-- Diagnostics with the same key may stand in either order. -/
lemma before_of_key {a b : Diagnostic} (h : a.key = b.key) : a.before b := by
  obtain ⟨hf, hl, hr⟩ : a.file = b.file ∧ a.line = b.line ∧ a.route = b.route := by
    simpa [key] using h
  exact before_iff.2 (.inr ⟨hf, .inr ⟨hl, hr ▸ String.le_refl _⟩⟩)

/-- Two reports of which each may stand before the other have one key. -/
lemma key_of_before {a b : Diagnostic} (hab : a.before b) (hba : b.before a) : a.key = b.key := by
  rw [before_iff] at hab hba
  have file : a.file = b.file := by
    rcases hab with hab | ⟨hab, -⟩
    · rcases hba with hba | ⟨hba, -⟩
      · exact absurd hba (String.lt_asymm hab)
      · exact hba.symm
    · exact hab
  have irrefl : ¬a.file < b.file ∧ ¬b.file < a.file := by
    rw [file]
    exact ⟨String.lt_irrefl _, String.lt_irrefl _⟩
  obtain ⟨-, hab⟩ := hab.resolve_left irrefl.1
  obtain ⟨-, hba⟩ := hba.resolve_left irrefl.2
  have line : a.line = b.line := by
    omega
  have route : a.route = b.route := by
    rw [line] at hab hba
    obtain ⟨-, hab⟩ := hab.resolve_left (Int.lt_irrefl _)
    obtain ⟨-, hba⟩ := hba.resolve_left (Int.lt_irrefl _)
    exact String.le_antisymm hab hba
  rw [key, key, file, line, route]

/-- Reports that are known by their keys are sorted in one way. -/
lemma sort_perm {xs ys : List Diagnostic} (perm : xs.Perm ys)
    (known : ∀ a ∈ xs, ∀ b ∈ xs, a.key = b.key → a = b) : sort xs = sort ys := by
  have sorted (zs : List Diagnostic) : (sort zs).Pairwise fun a b => a.before b :=
    List.pairwise_mergeSort before_trans before_total zs
  have toXs : (sort xs).Perm xs := List.mergeSort_perm xs before
  have toYs : (sort ys).Perm ys := List.mergeSort_perm ys before
  refine List.Perm.eq_of_pairwise ?_ (sorted xs) (sorted ys) (toXs.trans (perm.trans toYs.symm))
  intro a b ha hb hab hba
  have hb : b ∈ xs := perm.mem_iff.2 (toYs.mem_iff.1 hb)
  exact known a (toXs.mem_iff.1 ha) b hb (key_of_before hab hba)

/-- Reports are sorted, and those with one key stay in their order. -/
theorem sort_stable (xs : List Diagnostic) : StableSort xs (sort xs) where
  perm := List.mergeSort_perm xs before
  sorted := List.pairwise_mergeSort before_trans before_total xs
  stable k := by
    have inOrder : (xs.filter (·.key = k)).Pairwise fun a b => a.before b := by
      refine List.pairwise_of_forall_mem_list fun a ha b hb => before_of_key ?_
      rw [List.mem_filter, decide_eq_true_eq] at ha hb
      exact ha.2.trans hb.2.symm
    have kept : (xs.filter (·.key = k)).Sublist (sort xs) :=
      List.sublist_mergeSort before_trans before_total inOrder List.filter_sublist
    have found := kept.filter (·.key = k)
    rw [List.filter_filter] at found
    simp only [Bool.and_self] at found
    exact (found.eq_of_length ((List.mergeSort_perm xs before).filter _).length_eq.symm).symm

/-- References are checked one by one. -/
lemma check_append (index : RouteIndex) (xs ys : List Reference) :
    check index (xs ++ ys) = check index xs ++ check index ys := by
  rw [check, List.filter_append, List.map_append, check, check]

/-- A report tells the reference that it is about, and with it the whole report. -/
lemma eq_of_key {index : RouteIndex} {references : List Reference} {a b : Diagnostic}
    (ha : a ∈ check index references) (hb : b ∈ check index references) (h : a.key = b.key) :
    a = b := by
  obtain ⟨r, -, rfl⟩ := List.mem_map.1 ha
  obtain ⟨r', -, rfl⟩ := List.mem_map.1 hb
  have parts : (r.file, r.line, r.route) = (r'.file, r'.line, r'.route) := h
  have same : r = r' := by
    cases r
    cases r'
    simp_all
  rw [same]

/-- In whatever order references are found, they are reported alike. -/
theorem sort_check_perm (index : RouteIndex) {xs ys : List Reference} (perm : xs.Perm ys) :
    sort (check index xs) = sort (check index ys) :=
  sort_perm ((perm.filter _).map _) fun _ ha _ hb => eq_of_key ha hb

end RouteAudit.Diagnostic
