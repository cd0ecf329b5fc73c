import RouteAudit.Proofs.Source.Token.Layout

/-!
# The spans of tokens

A source is layout, a token, layout, a token, and so on up to its end (`Tiles`): no character is
lost, and none is made up.  What is read behind a token does not depend on what stands before, so
the tokens behind it are those of the rest of the source (`scan_tiles`).
-/

namespace RouteAudit.Source

namespace Lexer

/-- A comment is not empty. -/
lemma Comment.ne_nil {cs : List Char} (h : Comment cs) : cs ≠ [] := by
  cases h with
  | line h => simp
  | block h => exact List.cons_ne_nil _ _

/-- Layout behind layout is layout. -/
lemma Layout.append {tags : List (List Char)} {cs ds : List Char} (h : Layout tags cs)
    (h' : Layout tags ds) : Layout tags (cs ++ ds) := by
  induction h with
  | nil => exact h'
  | blank hb _ ih => exact .blank hb ih
  | comment hfront _ ih =>
    rw [List.append_assoc]
    exact .comment hfront ih
  | tag ht _ ih =>
    rw [List.append_assoc]
    exact .tag ht ih

end Lexer

namespace Token
open Lexer

/-- The number of characters up to and with the token. -/
def stop (t : Token) : Nat :=
  t.offset + t.text.length

/-- The token in a source that has some more characters in front. -/
def shift (n : Nat) (t : Token) : Token :=
  { t with offset := n + t.offset }

/-! ## How a text is read -/

/-- The way in which tokens are read from a text of which the first character stands at `offset`. -/
inductive Scans : Nat → List Char → List Token → Prop where
  | nil {offset} :
    Scans offset [] []
  | line {offset cs} :
    LineComment cs →
    Scans offset cs []
  | drop {offset front rest ts} :
    Layout tags front →
    (∀ offset, scanFrom offset (front ++ rest) = scanFrom (offset + front.length) rest) →
    Scans (offset + front.length) rest ts →
    Scans offset (front ++ rest) ts
  | token {offset kind front rest ts} :
    front ≠ [] →
    next (front ++ rest) = (.token kind, front.length) →
    Scans (offset + front.length) rest ts →
    Scans offset (front ++ rest) (⟨kind, String.ofList front, offset⟩ :: ts)

/-- A comment that the text ends in is left out. -/
lemma scanFrom_lastLine {cs : List Char} (h : LineComment cs) (offset : Nat) :
    scanFrom offset cs = [] := by
  have hscan : scanFrom offset (cs ++ []) = scanFrom (offset + cs.length) [] :=
    scanFrom_lineComment h (by simp) offset
  rwa [List.append_nil] at hscan

/-- What comes first in a text that is not empty. -/
lemma scan_cases {cs : List Char} (hne : cs ≠ []) :
    LineComment cs ∨
    (∃ front rest, cs = front ++ rest ∧ front ≠ [] ∧ Layout tags front ∧
      ∀ offset, scanFrom offset (front ++ rest) = scanFrom (offset + front.length) rest) ∨
    ∃ kind front rest, cs = front ++ rest ∧ front ≠ [] ∧
      next (front ++ rest) = (.token kind, front.length) := by
  cases hnext : next cs with | mk lexeme n =>
  by_cases htoken : ∃ kind, lexeme = .token kind
  · obtain ⟨kind, rfl⟩ := htoken
    obtain ⟨hle, htake⟩ := next_take hne hnext
    have hlength : (cs.take n).length = n := List.length_take_of_le hle
    refine .inr (.inr ⟨kind, cs.take n, cs.drop n, (List.take_append_drop n cs).symm, ?_, ?_⟩)
    · intro hnil
      rw [hnil, List.length_nil] at hlength
      subst hlength
      cases htake
    · rw [List.take_append_drop, hlength, hnext]
  · rw [not_exists] at htoken
    rcases layout_of_next hnext htoken with ⟨-, h⟩ | ⟨rfl, h⟩ | ⟨-, h⟩
    · rcases comment_of_commentLength? h with hline | ⟨front, rest, rfl, hfront⟩
      · exact .inl hline
      · have hlayout : Layout tags (front ++ []) := .comment hfront .nil
        rw [List.append_nil] at hlayout
        exact .inr (.inl ⟨front, rest, rfl, hfront.ne_nil, hlayout,
          fun offset => scanFrom_comment hfront offset rest⟩)
    · obtain ⟨t, ht, rest, rfl, rfl⟩ := tag_of_tagLength? h
      have hlayout := Layout.tag ht .nil
      rw [List.append_nil] at hlayout
      have hne : ∀ t ∈ tags, t ≠ [] := by decide
      exact .inr (.inl ⟨t, rest, rfl, hne t ht, hlayout, scanFrom_layout (hne t ht) hnext nofun⟩)
    · obtain ⟨c, rest, rfl⟩ := List.exists_cons_of_ne_nil hne
      have hc : Text.isBlank c = true := by
        by_contra hc
        rw [blankLength?, if_neg hc] at h
        cases h
      exact .inr (.inl ⟨[c], rest, rfl, List.cons_ne_nil _ _, .blank hc .nil,
        fun offset => scanFrom_blank hc offset rest⟩)

/-- The tokens of a text are those that are scanned. -/
theorem scans_scanFrom (offset : Nat) (cs : List Char) : Scans offset cs (scanFrom offset cs) := by
  by_cases hne : cs = []
  · rw [hne]
    exact .nil
  · rcases scan_cases hne with hline | ⟨front, rest, hcs, hfront, hlayout, hscan⟩ |
      ⟨kind, front, rest, hcs, hfront, hnext⟩
    · rw [scanFrom_lastLine hline]
      exact .line hline
    · have hlt : rest.length < cs.length := by
        rw [hcs, List.length_append]
        exact Nat.lt_add_of_pos_left (List.length_pos_of_ne_nil hfront)
      rw [hcs, hscan]
      exact .drop hlayout hscan (scans_scanFrom _ rest)
    · have hlt : rest.length < cs.length := by
        rw [hcs, List.length_append]
        exact Nat.lt_add_of_pos_left (List.length_pos_of_ne_nil hfront)
      rw [hcs, scanFrom_token hfront hnext]
      exact .token hfront hnext (scans_scanFrom _ rest)
  termination_by cs.length

/-- There is one way only. -/
lemma Scans.eq {offset : Nat} {cs : List Char} {ts : List Token} (h : Scans offset cs ts) :
    scanFrom offset cs = ts := by
  induction h with
  | nil => rfl
  | line hline => exact scanFrom_lastLine hline _
  | drop _ hscan _ ih => rw [hscan, ih]
  | token hne hnext _ ih => rw [scanFrom_token hne hnext, ih]

/-- Where a text stands changes the places of its tokens only. -/
lemma scanFrom_add (n offset : Nat) (cs : List Char) :
    scanFrom (n + offset) cs = (scanFrom offset cs).map (shift n) := by
  have h := scans_scanFrom offset cs
  generalize scanFrom offset cs = ts at h
  induction h with
  | nil => rfl
  | line hline => exact scanFrom_lastLine hline _
  | drop _ hscan _ ih => rw [hscan, Nat.add_assoc, ih]
  | token hne hnext _ ih =>
    rw [scanFrom_token hne hnext, Nat.add_assoc, ih]
    rfl

/-- A token that comes first, and the tokens of the rest. -/
lemma scan_token {kind : TokenKind} {cs rest : List Char} (hne : cs ≠ [])
    (h : next (cs ++ rest) = (.token kind, cs.length)) :
    scan (cs ++ rest) = ⟨kind, String.ofList cs, 0⟩ :: (scan rest).map (shift cs.length) := by
  have hbehind := scanFrom_add cs.length 0 rest
  rw [Nat.add_comm] at hbehind
  exact (scanFrom_token hne h 0).trans (congrArg _ hbehind)

/-! ## Tokens and what is between them -/

/-- A text of which the first character stands at `offset` consists of tokens, of layout in front of
each, and of layout up to the end, where a comment needs no line end. -/
inductive Tiles : Nat → List Char → List Token → Prop where
  | last {offset gap} :
    Layout tags gap →
    Tiles offset gap []
  | lastLine {offset gap line} :
    Layout tags gap →
    LineComment line →
    Tiles offset (gap ++ line) []
  | token {offset gap t rest ts} :
    Layout tags gap →
    t.offset = offset + gap.length →
    t.text ≠ "" →
    Tiles t.stop rest ts →
    Tiles offset (gap ++ (t.text.toList ++ rest)) (t :: ts)

/-- Layout may come in front of all. -/
lemma Tiles.prepend {front cs : List Char} {offset : Nat} {ts : List Token}
    (hfront : Layout tags front) (h : Tiles (offset + front.length) cs ts) :
    Tiles offset (front ++ cs) ts := by
  cases h with
  | last hgap => exact .last (hfront.append hgap)
  | lastLine hgap hline =>
    rw [← List.append_assoc]
    exact .lastLine (hfront.append hgap) hline
  | token hgap hoffset hne h =>
    rw [← List.append_assoc]
    refine .token (hfront.append hgap) ?_ hne h
    rw [hoffset, List.length_append, Nat.add_assoc]

/-- Tokens that are scanned tile the text. -/
lemma Scans.tiles {offset : Nat} {cs : List Char} {ts : List Token} (h : Scans offset cs ts) :
    Tiles offset cs ts := by
  induction h with
  | nil => exact .last .nil
  | line hline => exact .lastLine .nil hline
  | drop hlayout _ _ ih => exact ih.prepend hlayout
  | @token offset kind front rest ts hne _ _ ih =>
    have hstop : stop ⟨kind, String.ofList front, offset⟩ = offset + front.length := by
      rw [stop, String.length_ofList]
    have htiles := Tiles.token (t := ⟨kind, String.ofList front, offset⟩) .nil rfl
      (by simpa using hne) (hstop ▸ ih)
    rwa [String.toList_ofList] at htiles

/-- The tokens stand in the text. -/
lemma Tiles.bounds {offset : Nat} {cs : List Char} {ts : List Token} (h : Tiles offset cs ts) :
    ∀ t ∈ ts, offset ≤ t.offset ∧ t.offset < t.stop ∧ t.stop ≤ offset + cs.length := by
  induction h with
  | last => exact List.forall_mem_nil _
  | lastLine => exact List.forall_mem_nil _
  | @token offset gap t rest ts _ hoffset hne _ ih =>
    have hstop : t.stop = offset + gap.length + t.text.length := by
      rw [stop, hoffset]
    have hpos : 0 < t.text.length := by
      rw [← String.length_toList]
      exact List.length_pos_of_ne_nil (by simpa using hne)
    simp only [List.length_append, String.length_toList]
    refine List.forall_mem_cons.2 ⟨by omega, fun u hu => ?_⟩
    obtain ⟨hle, hlt, hend⟩ := ih u hu
    omega

/-- Each token ends before the next one starts. -/
lemma Tiles.pairwise {offset : Nat} {cs : List Char} {ts : List Token} (h : Tiles offset cs ts) :
    ts.Pairwise fun a b => a.offset < b.offset ∧ a.stop ≤ b.offset := by
  induction h with
  | last => exact .nil
  | lastLine => exact .nil
  | @token _ _ t _ ts hgap hoffset hne h ih =>
    refine List.pairwise_cons.2 ⟨fun u hu => ?_, ih⟩
    have hlt := ((Tiles.token hgap hoffset hne h).bounds t List.mem_cons_self).2.1
    have hle := (h.bounds u hu).1
    exact ⟨by omega, hle⟩

/-- A place behind the front of a text is a place in its rest. -/
lemma drop_behind {offset place : Nat} {front : List Char} (h : offset + front.length ≤ place)
    (rest : List Char) :
    (front ++ rest).drop (place - offset) = rest.drop (place - (offset + front.length)) := by
  obtain ⟨n, rfl⟩ := Nat.exists_eq_add_of_le h
  rw [Nat.add_sub_cancel_left, Nat.add_assoc, Nat.add_sub_cancel_left, List.drop_length_add_append]

/-- A token has the characters that stand in its place. -/
lemma Tiles.text {offset : Nat} {cs : List Char} {ts : List Token} (h : Tiles offset cs ts) :
    ∀ t ∈ ts, (cs.drop (t.offset - offset)).take t.text.length = t.text.toList := by
  induction h with
  | last => exact List.forall_mem_nil _
  | lastLine => exact List.forall_mem_nil _
  | @token offset gap t rest ts _ hoffset _ h ih =>
    have hlength := String.length_toList (s := t.text)
    refine List.forall_mem_cons.2 ⟨?_, fun u hu => ?_⟩
    · rw [hoffset, Nat.add_sub_cancel_left, List.drop_left, ← hlength, List.take_left]
    · have hstop : t.stop = offset + (gap ++ t.text.toList).length := by
        rw [stop, hoffset, List.length_append, hlength, Nat.add_assoc]
      have hle := (h.bounds u hu).1
      rw [hstop] at hle ih
      rw [← List.append_assoc, drop_behind hle]
      exact ih u hu

/-- Behind a token the rest of the text is read. -/
lemma Scans.behind {offset : Nat} {cs : List Char} {ts : List Token} (h : Scans offset cs ts) :
    ∀ t ∈ ts, ts.filter (t.stop ≤ ·.offset) = scanFrom t.stop (cs.drop (t.stop - offset)) := by
  induction h with
  | nil => exact List.forall_mem_nil _
  | line => exact List.forall_mem_nil _
  | drop _ _ h ih =>
    intro t ht
    obtain ⟨hle, hlt, -⟩ := h.tiles.bounds t ht
    rw [drop_behind (by omega)]
    exact ih t ht
  | @token offset kind front rest ts hne hnext h ih =>
    have hpos := List.length_pos_of_ne_nil hne
    have hstop : stop ⟨kind, String.ofList front, offset⟩ = offset + front.length := by
      rw [stop, String.length_ofList]
    refine List.forall_mem_cons.2 ⟨?_, fun t ht => ?_⟩
    · rw [hstop, drop_behind le_rfl, Nat.sub_self, List.drop_zero, h.eq]
      have hall : ∀ u ∈ ts, decide (offset + front.length ≤ u.offset) = true :=
        fun u hu => decide_eq_true (h.tiles.bounds u hu).1
      rw [List.filter_cons_of_neg, List.filter_eq_self.2 hall]
      simpa using hne
    · obtain ⟨hle, hlt, -⟩ := h.tiles.bounds t ht
      have hbefore : ¬ t.stop ≤ offset := by omega
      rw [drop_behind (by omega), ← ih t ht, List.filter_cons_of_neg (by simpa using hbefore)]

/-- The tokens of a source lie in it one behind the other, with layout between.  Each is what stands
in its place, and behind it the rest of the source is read as a source. -/
theorem scan_tiles (source : List Char) :
    Tiles 0 source (scan source) ∧
    (scan source).Pairwise (fun a b => a.offset < b.offset ∧ a.stop ≤ b.offset) ∧
    ∀ t ∈ scan source,
      (source.drop t.offset).take t.text.length = t.text.toList ∧
      (scan source).filter (t.stop ≤ ·.offset) =
        (scan (source.drop t.stop)).map (shift t.stop) := by
  have hscans : Scans 0 source (scan source) := scans_scanFrom 0 source
  have htiles := hscans.tiles
  refine ⟨htiles, htiles.pairwise, fun t ht => ⟨htiles.text t ht, ?_⟩⟩
  rw [hscans.behind t ht]
  exact scanFrom_add t.stop 0 _

/-- A comment that does not end is no comment: its first two characters are tokens, and behind the
second one the rest is read. -/
theorem scan_tiles_unclosed :
    let source := "<?php f /* g # h".toList
    ⟨.op, "*", 9⟩ ∈ scan source ∧ Tiles 0 source (scan source) ∧
      (source.drop 9).take 1 = ['*'] ∧
      (scan source).filter (10 ≤ ·.offset) = (scan (source.drop 10)).map (shift 10) := by
  intro source
  have hstar : ⟨.op, "*", 9⟩ ∈ scan source := by decide +kernel
  obtain ⟨htiles, -, hall⟩ := scan_tiles source
  obtain ⟨htext, hbehind⟩ := hall _ hstar
  exact ⟨hstar, htiles, htext, hbehind⟩

end Token

end RouteAudit.Source
