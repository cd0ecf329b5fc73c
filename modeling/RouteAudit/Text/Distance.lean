/-!
# Edit distance

The least number of characters to insert, delete or replace to turn one text into another.  It is
computed row by row: the row of a start of one text holds its distances to all starts of the other.
-/

namespace RouteAudit.Text

/-- The rest of the row after `left`, from the row before. -/
def nextRow (c : Char) (left : Nat) : List Char → List Nat → List Nat
  | a :: as, diagonal :: up :: above =>
    let here := min (min (left + 1) (up + 1)) (diagonal + if a = c then 0 else 1)
    here :: nextRow c here as (up :: above)
  | _, _ => []

/-- The row of a text, whose first characters are read one after another; `count` of them were read
before and gave `row`. -/
def lastRow (as : List Char) (count : Nat) (row : List Nat) : List Char → List Nat
  | [] => row
  | c :: cs => lastRow as (count + 1) ((count + 1) :: nextRow c (count + 1) as row) cs

/-- The edit distance, by rows as long as the first text. -/
def distanceAlong (as bs : List Char) : Nat :=
  (lastRow as 0 (List.range (as.length + 1)) bs).getLastD 0

/-- The edit distance of two texts. -/
def distance (s t : String) : Nat :=
  if t.length < s.length then distanceAlong t.toList s.toList
  else distanceAlong s.toList t.toList

end RouteAudit.Text
