import Mathlib
import RouteAudit.Text.Span

/-!
# Spans that miss each other

Two spans have no code point in common if one ends in front of the other, or if their steps keep
them apart.  Of two tables of spans this is decided block by block (`Span.missTable`), since most
blocks of a table lie far from a given span.
-/

namespace RouteAudit.Text

namespace Span

/-- What it is to be a number of a span. -/
lemma has_iff {s : Span} {n : Nat} :
    s.has n = true ↔ s.first ≤ n ∧ n ≤ s.last ∧ (n - s.first) % s.step = 0 := by
  simp [has, and_assoc]

/-- The distance of the code points of a span; a single one is at no distance. -/
def stride (s : Span) : Nat :=
  if s.first = s.last then 0 else s.step

/-- Whether a span ends in front of another one, or starts behind it. -/
def apart (s t : Span) : Bool :=
  Nat.blt s.last t.first || Nat.blt t.last s.first

/-- Whether two spans are apart, or interleave. -/
def misses (s t : Span) : Bool :=
  s.apart t || ((s.first : Int) - t.first) % (Nat.gcd s.stride t.stride : Nat) != 0

/-- What it is for spans to be apart. -/
lemma apart_iff {s t : Span} : s.apart t = true ↔ s.last < t.first ∨ t.last < s.first := by
  rw [apart, Bool.or_eq_true, Nat.blt_eq, Nat.blt_eq]

/-- A number of a span is some strides behind its first. -/
lemma exists_of_has {s : Span} {n : Nat} (h : s.has n = true) :
    ∃ k, n = s.first + s.stride * k := by
  obtain ⟨low, high, rest⟩ := has_iff.1 h
  rw [stride]
  split
  · exact ⟨0, by omega⟩
  · refine ⟨(n - s.first) / s.step, ?_⟩
    have whole := Nat.div_add_mod (n - s.first) s.step
    omega

/-- Spans that miss each other have no code point in common. -/
lemma not_has_of_misses {s t : Span} {n : Nat} (h : s.misses t = true) (hs : s.has n = true) :
    t.has n = false := by
  by_contra ht
  rw [Bool.not_eq_false] at ht
  obtain ⟨slow, shigh, -⟩ := has_iff.1 hs
  obtain ⟨tlow, thigh, -⟩ := has_iff.1 ht
  rw [misses, Bool.or_eq_true, apart_iff, bne_iff_ne] at h
  rcases h with (h | h) | h
  · omega
  · omega
  · obtain ⟨i, hi⟩ := exists_of_has hs
    obtain ⟨j, hj⟩ := exists_of_has ht
    have distance : (s.first : Int) - t.first = t.stride * j - s.stride * i := by
      have := hi.symm.trans hj
      push_cast [← @Nat.cast_inj Int] at this
      omega
    refine h (Int.emod_eq_zero_of_dvd ?_)
    rw [distance]
    exact dvd_sub ((Int.natCast_dvd_natCast.2 (Nat.gcd_dvd_right _ _)).mul_right _)
      ((Int.natCast_dvd_natCast.2 (Nat.gcd_dvd_left _ _)).mul_right _)

/-! ## Tables in blocks -/

/-- A table in blocks of eight spans, of which there are at least so many. -/
def blocks : Nat → List Span → List (List Span)
  | 0, table => [table]
  | n + 1, table => table.take 8 :: blocks n (table.drop 8)

/-- The code points from the first span of a block to its last one. -/
def hull (block : List Span) : Span :=
  ⟨(block.head?.map first).getD 0, (block.getLast?.map last).getD 0, 1⟩

/-- Whether the spans of a block lie where its first and its last one say. -/
def inOrder (block : List Span) : Bool :=
  block.all fun t => Nat.ble (hull block).first t.first && Nat.ble t.last (hull block).last

/-- Whether a span misses all spans of a block.  They need not be looked at one by one if it is apart
from all of them together. -/
def missesBlock (s : Span) (block : List Span) : Bool :=
  s.apart (hull block) || block.all s.misses

/-- Whether spans miss all spans of a table, which is taken in blocks. -/
def missTable (n : Nat) (spans table : List Span) : Bool :=
  (blocks n table).all fun block => inOrder block && spans.all (·.missesBlock block)

/-- The blocks of a table make up the table. -/
lemma flatten_blocks (n : Nat) (table : List Span) : (blocks n table).flatten = table := by
  induction n generalizing table with
  | zero => rw [blocks, List.flatten_singleton]
  | succ n ih => rw [blocks, List.flatten_cons, ih, List.take_append_drop]

/-- A span that misses a block misses all spans in it. -/
lemma misses_of_missesBlock {s t : Span} {block : List Span} (order : inOrder block = true)
    (h : s.missesBlock block = true) (ht : t ∈ block) : s.misses t = true := by
  have inside := List.all_eq_true.1 order t ht
  rw [Bool.and_eq_true, Nat.ble_eq, Nat.ble_eq] at inside
  rw [missesBlock, Bool.or_eq_true, List.all_eq_true, apart_iff] at h
  rcases h with whole | each
  · have apartFromIt : s.apart t = true := by
      rw [apart_iff]
      omega
    rw [misses, apartFromIt, Bool.true_or]
  · exact each t ht

variable {n : Nat} {spans table : List Span}

/-- A span of a list that misses a table misses all spans in it. -/
lemma misses_of_missTable (h : missTable n spans table = true) {s t : Span} (hs : s ∈ spans)
    (ht : t ∈ table) : s.misses t = true := by
  rw [← flatten_blocks n table] at ht
  obtain ⟨block, hblock, hmem⟩ := List.mem_flatten.1 ht
  have both := List.all_eq_true.1 h block hblock
  rw [Bool.and_eq_true, List.all_eq_true] at both
  exact misses_of_missesBlock both.1 (both.2 s hs) hmem

/-- What lies on a span that misses a table does not lie on the table. -/
lemma any_has_eq_false (h : missTable n spans table = true) {s : Span} (hs : s ∈ spans) {m : Nat}
    (hm : s.has m = true) : table.any (·.has m) = false := by
  rw [List.any_eq_false]
  intro t ht
  rw [not_has_of_misses (misses_of_missTable h hs ht) hm]
  exact Bool.false_ne_true

/-- A character of a list that misses a table is not in the table. -/
lemma anyHas_eq_false (h : missTable n spans table = true) {c : Char}
    (hc : anyHas spans c = true) : anyHas table c = false := by
  obtain ⟨s, hs, hasIt⟩ := List.any_eq_true.1 hc
  exact any_has_eq_false h hs hasIt

end Span

end RouteAudit.Text
