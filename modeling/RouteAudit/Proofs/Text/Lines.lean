import RouteAudit.Proofs.Text.Cut

/-!
# Lines

A text that is written line by line is taken apart into pieces between line feeds again.  There is a
piece for each line, an empty one at the end, and one more for each line feed that stands within a
line.  So the lines are got back exactly if there is none within them (`exists_lines`).
-/

namespace RouteAudit.Text

/-- The number of line feeds in a text. -/
def lineFeeds (s : String) : Nat :=
  s.toList.count '\n'

/-- The line feeds of joined texts add up. -/
lemma lineFeeds_append (s t : String) : lineFeeds (s ++ t) = lineFeeds s + lineFeeds t := by
  rw [lineFeeds, String.toList_append, List.count_append]
  rfl

/-- A text has no line feeds if none is in it. -/
lemma lineFeeds_eq_zero {s : String} : lineFeeds s = 0 ↔ '\n' ∉ s.toList :=
  List.count_eq_zero

/-- Each line with a line feed behind it. -/
def writeLines (lines : List String) : String :=
  String.join (lines.map (· ++ "\n"))

/-- Lines are written one after the other. -/
lemma writeLines_append (lines more : List String) :
    writeLines (lines ++ more) = writeLines lines ++ writeLines more := by
  rw [writeLines, List.map_append, String.join_append]
  rfl

/-- There is one more piece than there are separators. -/
lemma length_splitList (sep : Char) (cs : List Char) :
    (splitList sep cs).length = cs.count sep + 1 := by
  induction cs with
  | nil => rfl
  | cons c cs ih =>
    rw [splitList, List.count_cons]
    split
    · next hc => rw [List.length_cons, ih, hc, beq_self_eq_true, if_pos rfl]
    · next hc =>
      rw [beq_false_of_ne hc, if_neg Bool.false_ne_true, Nat.add_zero]
      cases hpieces : splitList sep cs with
      | nil => exact absurd hpieces (splitList_ne_nil sep cs)
      | cons piece pieces => rw [← ih, hpieces, List.length_cons, List.length_cons]

/-- There is one line more than line feeds. -/
lemma length_split (s : String) : (split '\n' s).length = lineFeeds s + 1 := by
  rw [split, List.length_map, length_splitList, lineFeeds]

/-- What is written is split line by line. -/
lemma split_writeLines (line : String) (lines : List String) :
    split '\n' (writeLines (line :: lines)) = split '\n' line ++ split '\n' (writeLines lines) := by
  have first : writeLines (line :: lines) = line ++ String.singleton '\n' ++ writeLines lines := by
    rw [writeLines, List.map_cons, String.join_cons]
    rfl
  rw [first, split_append]

/-- **What is written line by line has the lines back exactly if no line feed stands within them.**
In any case the text ends with a line feed. -/
theorem exists_lines (lines : List String) :
    ∃ pieces, split '\n' (writeLines lines) = pieces ++ [""] ∧
      pieces.length = lines.length + (lines.map lineFeeds).sum ∧
      (pieces = lines ↔ (lines.map lineFeeds).sum = 0) := by
  induction lines with
  | nil => exact ⟨[], rfl, rfl, iff_of_true rfl rfl⟩
  | cons line lines ih =>
    obtain ⟨pieces, hsplit, hlength, hsame⟩ := ih
    have length : (split '\n' line ++ pieces).length =
        (line :: lines).length + ((line :: lines).map lineFeeds).sum := by
      rw [List.length_append, length_split, hlength, List.length_cons, List.map_cons, List.sum_cons]
      omega
    refine ⟨split '\n' line ++ pieces, ?_, length, fun same => ?_, fun zero => ?_⟩
    · rw [split_writeLines, hsplit, List.append_assoc]
    · rw [same] at length
      omega
    · rw [List.map_cons, List.sum_cons, Nat.add_eq_zero_iff] at zero
      rw [split_of_notMem (lineFeeds_eq_zero.1 zero.1), hsame.2 zero.2, List.singleton_append]

end RouteAudit.Text
