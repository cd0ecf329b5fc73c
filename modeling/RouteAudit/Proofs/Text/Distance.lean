import Mathlib
import RouteAudit.Text.Distance

/-!
# The least number of edits

An edit inserts, deletes or replaces one character.  The rows of the edit distance hold the least
costs of matching the starts of one text with the starts of the other (`Row`), and the last entry
of the last row is the least number of edits that lead from one text to the other
(`isLeast_distance`).  Edits can be undone and done one after another, so this number is a distance.
-/

namespace RouteAudit.Text

/-- One edit of a text: at its front a character is inserted, deleted or replaced, or the edit is
made further behind. -/
inductive Edit : List Char → List Char → Prop where
  | insert (c : Char) (s : List Char) : Edit s (c :: s)
  | delete (c : Char) (s : List Char) : Edit (c :: s) s
  | replace (c d : Char) (s : List Char) : Edit (c :: s) (d :: s)
  | behind (c : Char) {s t : List Char} : Edit s t → Edit (c :: s) (c :: t)

/-- A number of edits, one after another. -/
inductive Edits : Nat → List Char → List Char → Prop where
  | none (s : List Char) : Edits 0 s s
  | next {n : Nat} {s t u : List Char} : Edit s t → Edits n t u → Edits (n + 1) s u

/-- The least number of edits that turn one text into another. -/
noncomputable def leastEdits (s t : String) : Nat :=
  sInf {n | Edits n s.toList t.toList}

variable {s t u : List Char} {m n : Nat}

namespace Edit

/-- An edit can be taken back. -/
lemma symm (h : Edit s t) : Edit t s := by
  induction h with
  | insert c s => exact .delete c s
  | delete c s => exact .insert c s
  | replace c d s => exact .replace d c s
  | behind c _ ih => exact .behind c ih

/-- An edit can be made in front of a text. -/
lemma append_right (h : Edit s t) (u : List Char) : Edit (s ++ u) (t ++ u) := by
  induction h with
  | insert c s => exact .insert c (s ++ u)
  | delete c s => exact .delete c (s ++ u)
  | replace c d s => exact .replace c d (s ++ u)
  | behind c _ ih => exact .behind c ih

/-- An edit can be made behind a text. -/
lemma append_left (h : Edit s t) (u : List Char) : Edit (u ++ s) (u ++ t) := by
  induction u with
  | nil => exact h
  | cons c u ih => exact .behind c ih

/-- An edit can be made in a reversed text. -/
lemma reverse (h : Edit s t) : Edit s.reverse t.reverse := by
  induction h with
  | insert c s =>
    have last := (Edit.insert c []).append_left s.reverse
    rwa [List.append_nil, ← List.reverse_cons] at last
  | delete c s =>
    have last := (Edit.delete c []).append_left s.reverse
    rwa [List.append_nil, ← List.reverse_cons] at last
  | replace c d s =>
    have last := (Edit.replace c d []).append_left s.reverse
    rwa [← List.reverse_cons, ← List.reverse_cons] at last
  | behind c _ ih =>
    rw [List.reverse_cons, List.reverse_cons]
    exact ih.append_right [c]

/-- No edit changes the length by more than one. -/
lemma length_le (h : Edit s t) : t.length ≤ s.length + 1 := by
  induction h with
  | insert c s => exact Nat.le_refl _
  | delete c s => exact Nat.le_add_right_of_le (Nat.le_succ _)
  | replace c d s => exact Nat.le_succ _
  | behind c _ ih => exact Nat.succ_le_succ ih

end Edit

namespace Edits

/-- Edits can be made behind a character. -/
lemma behind (c : Char) (h : Edits n s t) : Edits n (c :: s) (c :: t) := by
  induction h with
  | none s => exact .none (c :: s)
  | next first _ ih => exact .next (.behind c first) ih

/-- Edits can follow on edits. -/
lemma trans (first : Edits m s t) (further : Edits n t u) : Edits (m + n) s u := by
  induction first with
  | none s =>
    rw [Nat.zero_add]
    exact further
  | next edit _ ih =>
    rw [Nat.succ_add_eq_add_succ]
    exact .next edit (ih further)

/-- Edits can be taken back. -/
lemma symm (h : Edits n s t) : Edits n t s := by
  induction h with
  | none s => exact .none s
  | next first _ ih => exact ih.trans (.next first.symm (.none _))

/-- Edits can be made in a reversed text. -/
lemma reverse (h : Edits n s t) : Edits n s.reverse t.reverse := by
  induction h with
  | none s => exact .none s.reverse
  | next first _ ih => exact .next first.reverse ih

/-- Without an edit a text stays as it is. -/
lemma eq_of_zero (h : Edits 0 s t) : s = t := by
  cases h
  rfl

/-- An edit makes a text at most one longer. -/
lemma length_le (h : Edits n s t) : t.length ≤ s.length + n := by
  induction h with
  | none s => exact Nat.le_refl _
  | next first _ ih =>
    have here := first.length_le
    omega

end Edits

/-- Two texts are matched from the front: characters of both are put side by side, or one is left
over.  The number counts the characters left over and the pairs of different ones. -/
inductive Matches : Nat → List Char → List Char → Prop where
  | nil : Matches 0 [] []
  | pair (c d : Char) {n : Nat} {s t : List Char} :
    Matches n s t → Matches (n + if c = d then 0 else 1) (c :: s) (d :: t)
  | left (c : Char) {n : Nat} {s t : List Char} : Matches n s t → Matches (n + 1) (c :: s) t
  | right (d : Char) {n : Nat} {s t : List Char} : Matches n s t → Matches (n + 1) s (d :: t)

namespace Matches

/-- A text is matched with itself. -/
lemma refl (s : List Char) : Matches 0 s s := by
  induction s with
  | nil => exact .nil
  | cons c s ih =>
    have self := Matches.pair c c ih
    rwa [if_pos rfl] at self

/-- A match goes both ways. -/
lemma symm (h : Matches n s t) : Matches n t s := by
  induction h with
  | nil => exact .nil
  | pair c d _ ih =>
    rw [if_congr (eq_comm (a := c)) rfl rfl]
    exact .pair d c ih
  | left c _ ih => exact .right c ih
  | right d _ ih => exact .left d ih

/-- A match comes to as many edits. -/
lemma edits (h : Matches n s t) : Edits n s t := by
  induction h with
  | nil => exact .none []
  | pair c d _ ih =>
    split
    · next same =>
      subst same
      exact ih.behind c
    · exact .next (.replace c d _) (ih.behind d)
  | left c _ ih => exact .next (.delete c _) ih
  | right d _ ih => exact .next (.insert d _) (ih.behind d)

/-- An edit before a matching makes it dearer by one at most. -/
lemma of_edit (first : Edit s t) (h : Matches n t u) : ∃ k ≤ n + 1, Matches k s u := by
  induction h generalizing s with
  | nil =>
    cases first with
    | delete c => exact ⟨1, Nat.le_refl _, .left c .nil⟩
  | @right d n t u h ih =>
    obtain ⟨k, hk, cheap⟩ := ih first
    exact ⟨k + 1, Nat.succ_le_succ hk, .right d cheap⟩
  | @left c n t u h ih =>
    cases first with
    | insert => exact ⟨n, by omega, h⟩
    | delete e => exact ⟨n + 1 + 1, Nat.le_refl _, .left e (.left c h)⟩
    | replace e => exact ⟨n + 1, Nat.le_succ _, .left e h⟩
    | behind _ first =>
      obtain ⟨k, hk, cheap⟩ := ih first
      exact ⟨k + 1, Nat.succ_le_succ hk, .left c cheap⟩
  | @pair c d n t u h ih =>
    cases first with
    | insert => exact ⟨n + 1, by omega, .right d h⟩
    | delete e => exact ⟨_, Nat.le_refl _, .left e (.pair c d h)⟩
    | replace e =>
      refine ⟨_, ?_, .pair e d h⟩
      split <;> omega
    | behind _ first =>
      obtain ⟨k, hk, cheap⟩ := ih first
      exact ⟨_, by omega, .pair c d cheap⟩

/-- Edits come to a match of at most as many. -/
lemma exists_of_edits (h : Edits n s t) : ∃ k ≤ n, Matches k s t := by
  induction h with
  | none s => exact ⟨0, Nat.le_refl _, refl s⟩
  | next first _ ih =>
    obtain ⟨k, hk, cheap⟩ := ih
    obtain ⟨k', hk', cheaper⟩ := of_edit first cheap
    exact ⟨k', by omega, cheaper⟩

/-- A text is matched with nothing by as many edits as it has characters. -/
lemma of_nil (h : Matches n [] t) : n = t.length := by
  generalize e : ([] : List Char) = s at h
  induction h with
  | nil => rfl
  | pair => cases e
  | left => cases e
  | right d _ ih => rw [ih e, List.length_cons]

end Matches

/-- The least number of edits is the least cost of a matching. -/
lemma isLeast_edits_iff : IsLeast {k | Edits k s t} n ↔ IsLeast {k | Matches k s t} n := by
  constructor
  · rintro ⟨edits, least⟩
    obtain ⟨k, hk, cheap⟩ := Matches.exists_of_edits edits
    obtain rfl : k = n := Nat.le_antisymm hk (least cheap.edits)
    exact ⟨cheap, fun k h => least h.edits⟩
  · rintro ⟨cheap, least⟩
    refine ⟨cheap.edits, fun k h => ?_⟩
    obtain ⟨k', hk', cheaper⟩ := Matches.exists_of_edits h
    exact (least cheaper).trans hk'

/-- The number is the least cost of matching two texts. -/
def Cheapest (s t : List Char) (n : Nat) : Prop :=
  IsLeast {k | Matches k s t} n

namespace Cheapest

/-- The cheapest match goes both ways. -/
lemma symm (h : Cheapest s t n) : Cheapest t s n :=
  ⟨h.1.symm, fun _ other => h.2 other.symm⟩

/-- A text is matched with nothing in one way only. -/
lemma nil (t : List Char) : Cheapest [] t t.length := by
  constructor
  · induction t with
    | nil => exact .nil
    | cons d t ih => exact .right d ih
  · intro k other
    exact other.of_nil.ge

/-- The first characters of two texts are paired or one of them is left over, whatever costs
least. -/
lemma cons {c d : Char} {k l : Nat} (hleft : Cheapest (c :: s) t k) (hup : Cheapest s (d :: t) l)
    (hdiagonal : Cheapest s t n) :
    Cheapest (c :: s) (d :: t) (min (min (l + 1) (k + 1)) (n + if c = d then 0 else 1)) := by
  constructor
  · rcases min_choice (min (l + 1) (k + 1)) (n + if c = d then 0 else 1) with h | h
    · rw [h]
      rcases min_choice (l + 1) (k + 1) with h | h
      · rw [h]
        exact .left c hup.1
      · rw [h]
        exact .right d hleft.1
    · rw [h]
      exact .pair c d hdiagonal.1
  · intro j other
    cases other with
    | pair _ _ rest =>
      have := hdiagonal.2 rest
      omega
    | left _ rest =>
      have := hup.2 rest
      omega
    | right _ rest =>
      have := hleft.2 rest
      omega

end Cheapest

/-- The row of a text: the least costs of matching it with `s` and with the texts that come of `s`
by putting the given characters in front, one after another. -/
inductive Row (t : List Char) : List Char → List Char → List Nat → Prop where
  | last {s : List Char} {n : Nat} : Cheapest s t n → Row t s [] [n]
  | more {s : List Char} {a : Char} {as : List Char} {n : Nat} {row : List Nat} :
    Cheapest s t n → Row t (a :: s) as row → Row t s (a :: as) (n :: row)

namespace Row

/-- The row of no characters counts. -/
lemma first (s as : List Char) : Row [] s as (List.range' s.length (as.length + 1)) := by
  induction as generalizing s with
  | nil => exact .last (Cheapest.nil s).symm
  | cons a as ih => exact .more (Cheapest.nil s).symm (ih (a :: s))

/-- One step of the computation: the row with one more character read. -/
lemma next {c : Char} {as : List Char} {row : List Nat} {left : Nat} (h : Row t s as row)
    (hleft : Cheapest s (c :: t) left) : Row (c :: t) s as (left :: nextRow c left as row) := by
  induction as generalizing s row left with
  | nil =>
    cases h with
    | last => exact .last hleft
  | cons a as ih =>
    cases h with
    | more hdiagonal rest =>
      cases rest with
      | last hup =>
        exact .more hleft (ih (.last hup) (hup.cons hleft hdiagonal))
      | more hup rest =>
        exact .more hleft (ih (.more hup rest) (hup.cons hleft hdiagonal))

/-- The run of the computation: the row when all characters are read. -/
lemma run {as : List Char} {row : List Nat} (h : Row t [] as row) (cs : List Char) :
    Row (cs.reverse ++ t) [] as (lastRow as t.length row cs) := by
  induction cs generalizing t row with
  | nil => exact h
  | cons c cs ih =>
    rw [List.reverse_cons, List.append_assoc]
    exact ih (h.next (Cheapest.nil (c :: t)))

/-- The last number of a row is the cost of the whole texts. -/
lemma getLastD {as : List Char} {row : List Nat} (h : Row t s as row) :
    Cheapest (as.reverse ++ s) t (row.getLastD 0) := by
  induction h with
  | last h => exact h
  | @more s a as n row _ rest ih =>
    rw [List.reverse_cons, List.append_assoc]
    cases rest <;> exact ih

end Row

/-- The numbers of the last row are the cheapest costs. -/
lemma cheapest_distanceAlong (as bs : List Char) :
    Cheapest as.reverse bs.reverse (distanceAlong as bs) := by
  have start := Row.first [] as
  rw [List.length_nil, ← List.range_eq_range'] at start
  have whole := (start.run bs).getLastD
  rwa [List.append_nil, List.append_nil] at whole

/-- The edit distance is the least number of edits. -/
lemma isLeast_distance (s t : String) :
    IsLeast {n | Edits n s.toList t.toList} (distance s t) := by
  have along : Cheapest s.toList.reverse t.toList.reverse (distance s t) := by
    rw [distance]
    split
    · exact (cheapest_distanceAlong _ _).symm
    · exact cheapest_distanceAlong _ _
  obtain ⟨edits, least⟩ := isLeast_edits_iff.2 along
  constructor
  · have forward := edits.reverse
    rwa [List.reverse_reverse, List.reverse_reverse] at forward
  · intro n other
    exact least other.reverse

/-- The distance is the least number of edits. -/
lemma leastEdits_eq (s t : String) : leastEdits s t = distance s t :=
  (isLeast_distance s t).csInf_eq

/-- The distance goes both ways. -/
lemma distance_comm (s t : String) : distance s t = distance t s :=
  Nat.le_antisymm ((isLeast_distance s t).2 (isLeast_distance t s).1.symm)
    ((isLeast_distance t s).2 (isLeast_distance s t).1.symm)

/-- The distance is zero just from a text to itself. -/
lemma distance_eq_zero {s t : String} : distance s t = 0 ↔ s = t := by
  constructor
  · intro h
    have edits := (isLeast_distance s t).1
    rw [h] at edits
    exact String.toList_inj.1 edits.eq_of_zero
  · rintro rfl
    exact Nat.le_zero.1 ((isLeast_distance s s).2 (.none s.toList))

/-- The way over another text is no shorter. -/
lemma distance_triangle (s t u : String) : distance s u ≤ distance s t + distance t u :=
  (isLeast_distance s u).2 ((isLeast_distance s t).1.trans (isLeast_distance t u).1)

/-- Texts whose lengths differ by much are far from each other. -/
lemma length_le_distance (s t : String) : t.length ≤ s.length + distance s t := by
  have edits := (isLeast_distance s t).1.length_le
  rwa [String.length_toList, String.length_toList] at edits

/-- The edit distance is the least number of insertions, deletions and replacements that lead from
one text to the other, and so it is symmetric, zero between equal texts only, and never longer than
the way over a third text. -/
theorem distance_counts_edits (s t : String) :
    IsLeast {n | Edits n s.toList t.toList} (distance s t) ∧
      distance s t = distance t s ∧
      (distance s t = 0 ↔ s = t) ∧
      ∀ u, distance s u ≤ distance s t + distance t u :=
  ⟨isLeast_distance s t, distance_comm s t, distance_eq_zero, distance_triangle s t⟩

end RouteAudit.Text
