import Mathlib
import RouteAudit.Text.Trim

/-!
# Cutting texts

A text that starts with another is that text with a rest behind it, and the pieces of a text between
separators are those before and those behind any one of them.
-/

namespace RouteAudit.Text

/-- A text without a separator is one piece. -/
lemma splitList_of_notMem {sep : Char} {cs : List Char} (h : sep ∉ cs) :
    splitList sep cs = [cs] := by
  induction cs with
  | nil => rfl
  | cons c cs ih =>
    rw [List.mem_cons, not_or] at h
    obtain ⟨hc, hcs⟩ := h
    rw [splitList, if_neg (Ne.symm hc), ih hcs]

/-- There is always a piece. -/
lemma splitList_ne_nil (sep : Char) (cs : List Char) : splitList sep cs ≠ [] := by
  cases cs with
  | nil => exact List.cons_ne_nil _ _
  | cons c cs =>
    rw [splitList]
    split
    · exact List.cons_ne_nil _ _
    · split <;> exact List.cons_ne_nil _ _

/-- A separator divides the pieces. -/
lemma splitList_append (sep : Char) (front back : List Char) :
    splitList sep (front ++ sep :: back) = splitList sep front ++ splitList sep back := by
  induction front with
  | nil => simp [splitList]
  | cons c front ih =>
    rw [List.cons_append, splitList, splitList, ih]
    split
    · rfl
    · cases h : splitList sep front with
      | nil => exact absurd h (splitList_ne_nil sep front)
      | cons piece pieces => rfl

/-- A text without a separator is one piece. -/
lemma split_of_notMem {sep : Char} {s : String} (h : sep ∉ s.toList) : split sep s = [s] := by
  rw [split, splitList_of_notMem h, List.map_singleton, String.ofList_toList]

/-- The pieces of a text are those before and those behind a separator. -/
lemma split_append (sep : Char) (front back : String) :
    split sep (front ++ String.singleton sep ++ back) = split sep front ++ split sep back := by
  have chars : (front ++ String.singleton sep ++ back).toList =
      front.toList ++ sep :: back.toList := by
    simp
  rw [split, chars, splitList_append, List.map_append]
  rfl

/-- A text starts with another if it goes on from it. -/
lemma startsWith_iff {s start : String} :
    startsWith s start = true ↔ ∃ rest, s = start ++ rest := by
  rw [startsWith, List.isPrefixOf_iff_prefix]
  constructor
  · rintro ⟨rest, h⟩
    refine ⟨String.ofList rest, ?_⟩
    rw [← String.toList_inj, String.toList_append, String.toList_ofList, h]
  · rintro ⟨rest, rfl⟩
    exact ⟨rest.toList, String.toList_append.symm⟩

/-- A text ends with another if it comes to it. -/
lemma endsWith_iff {s tail : String} : endsWith s tail = true ↔ ∃ front, s = front ++ tail := by
  rw [endsWith, List.isSuffixOf_iff_suffix]
  constructor
  · rintro ⟨front, h⟩
    refine ⟨String.ofList front, ?_⟩
    rw [← String.toList_inj, String.toList_append, String.toList_ofList, h]
  · rintro ⟨front, rfl⟩
    exact ⟨front.toList, String.toList_append.symm⟩

/-- Without its start the rest is left. -/
lemma dropFirst_append (start rest : String) : dropFirst start.length (start ++ rest) = rest := by
  rw [dropFirst, String.toList_append, ← String.length_toList, List.drop_left, String.ofList_toList]

/-- Nothing is left of a text that is no longer. -/
lemma dropFirst_of_length_le {n : Nat} {s : String} (h : s.length ≤ n) : dropFirst n s = "" := by
  rw [dropFirst, List.drop_of_length_le (by rwa [String.length_toList]), String.ofList_nil]

/-- Without its end the front is left. -/
lemma dropLast_append (front tail : String) : dropLast tail.length (front ++ tail) = front := by
  rw [dropLast, String.toList_append, String.length_append, Nat.add_sub_cancel,
    ← String.length_toList, List.take_left, String.ofList_toList]

/-- Characters are replaced one by one. -/
lemma toList_replaceChar (old new : Char) (s : String) :
    (replaceChar old new s).toList = s.toList.map fun c => if c = old then new else c :=
  String.toList_ofList

/-- Joined texts are replaced part by part. -/
lemma replaceChar_append (old new : Char) (s t : String) :
    replaceChar old new (s ++ t) = replaceChar old new s ++ replaceChar old new t := by
  rw [replaceChar, String.toList_append, List.map_append, String.ofList_append]
  rfl

/-- A character that is not there is not replaced. -/
lemma replaceChar_of_notMem {old : Char} {s : String} (h : old ∉ s.toList) (new : Char) :
    replaceChar old new s = s := by
  have kept (c : Char) (hc : c ∈ s.toList) : (if c = old then new else c) = id c := by
    rw [if_neg, id]
    rintro rfl
    exact h hc
  rw [replaceChar, List.map_congr_left kept, List.map_id, String.ofList_toList]

/-! ## Cutting at the first separator -/

/-- A character of a text without separators is none. -/
lemma bne_of_notMem {sep : Char} {cs : List Char} (h : sep ∉ cs) :
    ∀ c ∈ cs, (c != sep) = true := by
  intro c hc
  rw [bne_iff_ne]
  rintro rfl
  exact h hc

/-- A text is cut at the first separator. -/
lemma cut?_append {sep : Char} {front : String} (h : sep ∉ front.toList) (back : String) :
    cut? sep (front ++ String.singleton sep ++ back) = some (front, back) := by
  have other := bne_of_notMem h
  have chars : (front ++ String.singleton sep ++ back).toList =
      front.toList ++ sep :: back.toList := by
    simp
  rw [cut?, chars, List.dropWhile_append_of_pos other, List.takeWhile_append_of_pos other]
  simp

/-- A text that is cut is its two sides with the separator between. -/
lemma eq_of_cut? {sep : Char} {s front back : String} (h : cut? sep s = some (front, back)) :
    s = front ++ String.singleton sep ++ back := by
  rw [cut?] at h
  split at h
  · cases h
  · next c cs hdrop =>
    cases h
    have hc : (c != sep) = false := by
      have := List.head?_dropWhile_not (· != sep) s.toList
      rw [hdrop] at this
      exact this
    rw [← String.toList_inj]
    have whole := List.takeWhile_append_dropWhile (p := (· != sep)) (l := s.toList)
    rw [hdrop, bne_eq_false_iff_eq.1 hc] at whole
    simpa using whole.symm

/-- A text is cut at its first separator. -/
lemma cut?_iff {sep : Char} {s front back : String} : cut? sep s = some (front, back) ↔
    s = front ++ String.singleton sep ++ back ∧ sep ∉ front.toList := by
  constructor
  · intro h
    refine ⟨eq_of_cut? h, fun hmem => ?_⟩
    rw [cut?] at h
    split at h
    · cases h
    · cases h
      rw [String.toList_ofList] at hmem
      have hne : (sep != sep) = true := List.mem_takeWhile_imp (p := (· != sep)) hmem
      exact bne_iff_ne.1 hne rfl
  · rintro ⟨rfl, h⟩
    exact cut?_append h back

/-- A text is not cut just if there is no separator. -/
lemma cut?_eq_none {sep : Char} {s : String} : cut? sep s = none ↔ sep ∉ s.toList := by
  constructor
  · intro h hmem
    obtain ⟨front, back, hs, hfront⟩ := List.eq_append_cons_of_mem hmem
    have whole : s = String.ofList front ++ String.singleton sep ++ String.ofList back := by
      rw [← String.toList_inj]
      simp [hs]
    rw [whole, cut?_append (by rwa [String.toList_ofList])] at h
    cases h
  · intro h
    rw [cut?, List.dropWhile_eq_nil_iff.2 (bne_of_notMem h)]

/-- If something stands behind a separator, something stands behind the first. -/
lemma exists_cut? (sep : Char) (front : String) {back : String} (h : back ≠ "") :
    ∃ start rest, cut? sep (front ++ String.singleton sep ++ back) = some (start, rest) ∧
      rest ≠ "" := by
  by_cases hsep : sep ∈ front.toList
  · obtain ⟨start, rest, hfront, hstart⟩ := List.eq_append_cons_of_mem hsep
    refine ⟨String.ofList start, String.ofList rest ++ String.singleton sep ++ back, ?_, by simp⟩
    have chars : front ++ String.singleton sep ++ back =
        String.ofList start ++ String.singleton sep ++
          (String.ofList rest ++ String.singleton sep ++ back) := by
      rw [← String.toList_inj]
      simp [hfront]
    rw [chars]
    exact cut?_append (by rwa [String.toList_ofList]) _
  · exact ⟨front, back, cut?_append hsep back, h⟩

/-! ## Cutting at the last separator -/

/-- Without a separator the whole text is the last piece. -/
lemma afterLast_of_notMem {sep : Char} {s : String} (h : sep ∉ s.toList) : afterLast sep s = s := by
  have other := bne_of_notMem (mt List.mem_reverse.1 h)
  rw [afterLast, List.takeWhile_eq_self_iff.2 other, List.reverse_reverse, String.ofList_toList]

/-- Behind the last separator is the last piece. -/
lemma afterLast_append {sep : Char} {back : String} (h : sep ∉ back.toList) (front : String) :
    afterLast sep (front ++ String.singleton sep ++ back) = back := by
  have other := bne_of_notMem (mt List.mem_reverse.1 h)
  have chars : (front ++ String.singleton sep ++ back).toList.reverse =
      back.toList.reverse ++ sep :: front.toList.reverse := by
    simp
  rw [afterLast, chars, List.takeWhile_append_of_pos other]
  simp

/-- Where a text ends without a separator, the part after the last one ends in the same way. -/
lemma endsWith_afterLast {sep : Char} {s tail : String} (h : sep ∉ tail.toList)
    (hend : endsWith s tail = true) : endsWith (afterLast sep s) tail = true := by
  obtain ⟨front, rfl⟩ := endsWith_iff.1 hend
  have other := bne_of_notMem (mt List.mem_reverse.1 h)
  refine endsWith_iff.2 ⟨afterLast sep front, ?_⟩
  rw [afterLast, String.toList_append, List.reverse_append, List.takeWhile_append_of_pos other,
    List.reverse_append, List.reverse_reverse, String.ofList_append, String.ofList_toList]
  rfl

/-- Only characters of a text stand after its last separator. -/
lemma mem_of_mem_afterLast {sep : Char} {s : String} {c : Char} (h : c ∈ (afterLast sep s).toList) :
    c ∈ s.toList := by
  rw [afterLast, String.toList_ofList, List.mem_reverse] at h
  exact List.mem_reverse.1 ((List.takeWhile_prefix _).subset h)

/-! ## Trimming -/

/-- A text whose ends are wanted is not trimmed. -/
lemma trimList_of_wanted {drop : Char → Bool} {cs : List Char}
    (start : ∀ c ∈ cs.head?, drop c = false) (last : ∀ c ∈ cs.getLast?, drop c = false) :
    trimList drop cs = cs := by
  have dropped {cs : List Char} (h : ∀ c ∈ cs.head?, drop c = false) : cs.dropWhile drop = cs := by
    cases cs with
    | nil => rfl
    | cons c cs => rw [List.dropWhile_cons, h c rfl, if_neg Bool.false_ne_true]
  rw [trimList, dropped start, dropped (by rwa [List.head?_reverse]), List.reverse_reverse]

/-- Nothing is trimmed where both ends are wanted. -/
lemma trim_of_wanted {drop : Char → Bool} {s : String}
    (start : ∀ c ∈ s.toList.head?, drop c = false)
    (last : ∀ c ∈ s.toList.getLast?, drop c = false) : trim drop s = s := by
  rw [trim, trimList_of_wanted start last, String.ofList_toList]

/-- A text is trimmed to nothing if all of it is unwanted. -/
lemma trim_eq_empty {drop : Char → Bool} {s : String} :
    trim drop s = "" ↔ ∀ c ∈ s.toList, drop c = true := by
  have hstart : (s.toList.dropWhile drop = []) ↔ ∀ c ∈ s.toList, drop c = true :=
    List.dropWhile_eq_nil_iff
  rw [trim, String.ofList_eq_empty_iff, trimList, List.reverse_eq_nil_iff, ← hstart]
  constructor
  · intro h
    by_contra hne
    -- the first character that is left is wanted
    have hfirst := List.head_dropWhile_not drop hne
    have hall := List.dropWhile_eq_nil_iff.1 h _ (List.mem_reverse.2 (List.head_mem hne))
    rw [hfirst] at hall
    cases hall
  · intro h
    rw [h]
    rfl

/-- What is wanted is not trimmed. -/
lemma mem_trim {drop : Char → Bool} {s : String} (c : Char) (hc : drop c = false) :
    c ∈ (trim drop s).toList ↔ c ∈ s.toList := by
  have kept {cs : List Char} : c ∈ cs.dropWhile drop ↔ c ∈ cs := by
    induction cs with
    | nil => exact Iff.rfl
    | cons d cs ih =>
      rw [List.dropWhile_cons]
      split
      · next hd =>
        rw [ih, List.mem_cons, or_iff_right]
        rintro rfl
        rw [hc] at hd
        cases hd
      · exact Iff.rfl
  rw [trim, String.toList_ofList, trimList, List.mem_reverse, kept, List.mem_reverse, kept]

/-- What is trimmed at the start of a text may be left out before. -/
lemma trim_trimStart_append (drop : Char → Bool) (s t : String) :
    trim drop (trimStart drop s ++ t) = trim drop (s ++ t) := by
  have dropped (cs ds : List Char) :
      (cs.dropWhile drop ++ ds).dropWhile drop = (cs ++ ds).dropWhile drop := by
    induction cs with
    | nil => rfl
    | cons c cs ih =>
      by_cases hc : drop c = true
      · rw [List.dropWhile_cons_of_pos hc, ih, List.cons_append, List.dropWhile_cons_of_pos hc]
      · rw [List.dropWhile_cons_of_neg hc]
  rw [trim, trim, trimList, trimList, String.toList_append, String.toList_append, trimStart,
    String.toList_ofList, dropped]

end RouteAudit.Text
