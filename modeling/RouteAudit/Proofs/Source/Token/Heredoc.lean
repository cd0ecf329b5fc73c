import RouteAudit.Proofs.Source.Token.Extent

/-!
# Heredocs

A heredoc consists of its opening line, which names a label, and of the text up to the first line
that starts with the label.  Both are said here without regard to how they are read.  So a heredoc
keeps its extent when something else follows that does not go on the closing label
(`heredocLength?_append`), and it is read from its own characters (`heredocLength?_take`).
-/

namespace RouteAudit.Source.Lexer
open Text

/-! ## Labels -/

/-- A label is a segment of a name. -/
def IsLabel (word : List Char) : Prop :=
  ∃ c cs, word = c :: cs ∧ isNameStart c = true ∧ ∀ d ∈ cs, isWord d = true

/-- The opening line of a heredoc behind the angle brackets. -/
inductive Opening (word : List Char) : List Char → Prop where
  | mk {indent quote eol} :
    (∀ c ∈ indent, isIndent c = true) →
    quote ∈ [[], ['\x27'], ['"']] →
    IsLabel word →
    eol ∈ [['\n'], ['\r', '\n']] →
    Opening word (indent ++ (quote ++ (word ++ (quote ++ eol))))

/-- A character of a label goes on with a word. -/
lemma isWord_of_mem_label {word : List Char} (h : IsLabel word) {c : Char} (hc : c ∈ word) :
    isWord c = true := by
  obtain ⟨d, ds, rfl, hd, hds⟩ := h
  rcases List.mem_cons.1 hc with rfl | hc
  · exact isWord_of_isNameStart hd
  · exact hds c hc

/-- No line ends in front of the end of a label, which stands behind an indent. -/
lemma newline_notMem_front {indent word : List Char} (hindent : ∀ c ∈ indent, isIndent c = true)
    (hword : IsLabel word) : '\n' ∉ indent ++ word := by
  intro hm
  rcases List.mem_append.1 hm with hm | hm
  · exact absurd (hindent _ hm) (by decide)
  · exact absurd (isWord_of_mem_label hword hm) (by decide +kernel)

/-- A run of characters of a kind ends before one of another kind. -/
lemma takeWhile_append_cons {p : Char → Bool} {cs : List Char} (h : ∀ c ∈ cs, p c = true)
    {b : Char} (hb : p b = false) (rest : List Char) : (cs ++ b :: rest).takeWhile p = cs :=
  takeWhile_append_of_length (by rw [List.takeWhile_eq_self_iff.2 h]) hb rest

/-- A label ends where no word goes on. -/
lemma label_of_isLabel {word : List Char} (h : IsLabel word) {b : Char} (hb : isWord b = false)
    (rest : List Char) : label (word ++ b :: rest) = word := by
  obtain ⟨c, cs, rfl, hc, hcs⟩ := h
  rw [List.cons_append, label, if_pos hc, takeWhile_append_cons hcs hb]

/-- The label of a text is one, unless it is empty. -/
lemma isLabel_label {cs : List Char} (h : label cs ≠ []) : IsLabel (label cs) := by
  cases cs with
  | nil => exact absurd rfl h
  | cons c cs =>
    rw [label] at h ⊢
    split
    · next hc => exact ⟨c, _, rfl, hc, fun d hd => List.mem_takeWhile_imp hd⟩
    · next hc =>
      rw [if_neg hc] at h
      exact absurd rfl h

/-- What a text starts with that the label is found in. -/
lemma label_prefix (cs : List Char) : label cs <+: cs := by
  cases cs with
  | nil => exact List.prefix_rfl
  | cons c cs =>
    rw [label]
    split
    · exact List.cons_prefix_cons.2 ⟨rfl, List.takeWhile_prefix _⟩
    · exact List.nil_prefix

/-- The quote of a label is at its front. -/
lemma labelQuote_prefix (cs : List Char) : labelQuote cs <+: cs := by
  cases cs with
  | nil => exact List.prefix_rfl
  | cons c cs =>
    rw [labelQuote]
    split
    · exact List.cons_prefix_cons.2 ⟨rfl, List.nil_prefix⟩
    · exact List.nil_prefix

/-- The quote of a label is one of two, or none. -/
lemma labelQuote_mem (cs : List Char) : labelQuote cs ∈ [[], ['\x27'], ['"']] := by
  cases cs with
  | nil => simp [labelQuote]
  | cons c cs =>
    rw [labelQuote]
    split
    · next hc => rcases hc with rfl | rfl <;> decide
    · exact List.mem_cons_self

/-! ## Opening lines -/

/-- A character that starts a name is no indent. -/
lemma isIndent_of_isNameStart {c : Char} (h : isNameStart c = true) : isIndent c = false := by
  rw [isIndent, Bool.or_eq_false_iff, beq_eq_false_iff_ne, beq_eq_false_iff_ne]
  exact ⟨ne_of_isNameStart h (by decide), ne_of_isNameStart h (by decide)⟩

/-- The quote and the label behind the indent are found again. -/
lemma opening_quote {quote word : List Char} (hquote : quote ∈ [[], ['\x27'], ['"']])
    (hword : IsLabel word) (rest : List Char) :
    (∃ b tail, quote ++ (word ++ rest) = b :: tail ∧ isIndent b = false) ∧
      labelQuote (quote ++ (word ++ rest)) = quote := by
  obtain ⟨c, cs, rfl, hc, -⟩ := hword
  simp only [List.mem_cons, List.not_mem_nil, or_false] at hquote
  rcases hquote with rfl | rfl | rfl
  · have hs : ¬ (c = '\x27' ∨ c = '"') := by
      rintro (rfl | rfl) <;> exact absurd hc (by decide)
    exact ⟨⟨c, _, rfl, isIndent_of_isNameStart hc⟩, if_neg hs⟩
  · exact ⟨⟨_, _, rfl, by decide⟩, rfl⟩
  · exact ⟨⟨_, _, rfl, by decide⟩, rfl⟩

/-- The label ends at the quote or at the end of the line. -/
lemma opening_end {quote eol : List Char} (hquote : quote ∈ [[], ['\x27'], ['"']])
    (heol : eol ∈ [['\n'], ['\r', '\n']]) (rest : List Char) :
    (∃ b tail, quote ++ (eol ++ rest) = b :: tail ∧ isWord b = false) ∧
      lineEnd? (eol ++ rest) = some eol.length := by
  simp only [List.mem_cons, List.not_mem_nil, or_false] at hquote heol
  refine ⟨?_, ?_⟩
  · rcases hquote with rfl | rfl | rfl <;> rcases heol with rfl | rfl <;>
      exact ⟨_, _, rfl, by decide +kernel⟩
  · rcases heol with rfl | rfl <;> rfl

/-- An opening line is read as such, and the body behind it. -/
lemma heredocLength?_of_opening {word front : List Char} (h : Opening word front)
    (rest : List Char) :
    heredocLength? ('<' :: '<' :: '<' :: (front ++ rest)) =
      (bodyLength? word rest).map (3 + front.length + ·) := by
  cases h with | @mk indent quote eol hindent hquote hword heol =>
  obtain ⟨⟨b, tail, hb, hindent'⟩, hlabelQuote⟩ :=
    opening_quote hquote hword (quote ++ (eol ++ rest))
  obtain ⟨⟨d, tail', hd, hword'⟩, hend⟩ := opening_end hquote heol rest
  have hne : word.isEmpty = false := by
    obtain ⟨c, cs, rfl, -⟩ := hword
    rfl
  have htakeIndent : (indent ++ (quote ++ (word ++ (quote ++ (eol ++ rest))))).takeWhile isIndent =
      indent := by
    rw [hb, takeWhile_append_cons hindent hindent']
  have htakeWord : label (word ++ (quote ++ (eol ++ rest))) = word := by
    rw [hd, label_of_isLabel hword hword']
  have hquoteBack : quote.isPrefixOf (quote ++ (eol ++ rest)) = true := by
    rw [List.isPrefixOf_iff_prefix]
    exact List.prefix_append _ _
  -- each part is read from what the parts before it leave
  simp only [List.append_assoc, heredocLength?, htakeIndent, ← List.drop_drop, List.drop_left,
    hlabelQuote, htakeWord, hne, hquoteBack, hend, Bool.false_eq_true, if_false, if_true]
  simp only [Option.bind_eq_bind, Option.bind_some, List.drop_left]
  cases bodyLength? word rest with
  | none => rfl
  | some body =>
    simp only [Option.bind_some, Option.map_some, List.length_append, Option.some.injEq]
    omega

/-- A line ends in one of two ways. -/
lemma eol_of_lineEnd? {cs : List Char} {n : Nat} (h : lineEnd? cs = some n) :
    ∃ eol rest, cs = eol ++ rest ∧ eol ∈ [['\n'], ['\r', '\n']] ∧ n = eol.length := by
  unfold lineEnd? at h
  split at h
  · cases h
    exact ⟨['\r', '\n'], _, rfl, by decide, rfl⟩
  · cases h
    exact ⟨['\n'], _, rfl, by decide, rfl⟩
  · cases h

/-- What is read as a heredoc has an opening line and a body. -/
lemma opening_of_heredocLength? {cs : List Char} {n : Nat} (h : heredocLength? cs = some n) :
    ∃ word front rest body, cs = '<' :: '<' :: '<' :: (front ++ rest) ∧ Opening word front ∧
      bodyLength? word rest = some body ∧ n = 3 + front.length + body := by
  unfold heredocLength? at h
  split at h
  · next r =>
    dsimp only at h
    -- the parts of the opening line are split off one after the other
    obtain ⟨r₁, hr₁⟩ := List.takeWhile_prefix (l := r) isIndent
    obtain ⟨r₂, hr₂⟩ := labelQuote_prefix r₁
    obtain ⟨r₃, hr₃⟩ := label_prefix r₂
    have hindent : ∀ c ∈ r.takeWhile isIndent, isIndent c = true :=
      fun c hc => List.mem_takeWhile_imp hc
    generalize r.takeWhile isIndent = indent at *
    subst hr₁
    rw [List.drop_left] at h
    have hquote := labelQuote_mem r₁
    generalize labelQuote r₁ = quote at *
    subst hr₂
    rw [← List.drop_drop, List.drop_left, List.drop_left] at h
    split at h
    · cases h
    · next hne =>
      have hword : IsLabel (label r₂) := isLabel_label (by simpa using hne)
      generalize label r₂ = word at *
      subst hr₃
      rw [← List.drop_drop, ← List.drop_drop, List.drop_left, List.drop_left, List.drop_left] at h
      split at h
      · next hback =>
        obtain ⟨r₄, hr₄⟩ := List.isPrefixOf_iff_prefix.1 hback
        subst hr₄
        obtain ⟨eol, heol, hlast⟩ := Option.bind_eq_some_iff.1 h
        obtain ⟨body, hbody, hlength⟩ := Option.bind_eq_some_iff.1 hlast
        simp only [← List.drop_drop, List.drop_left] at heol hbody
        obtain ⟨lineEnd, r₅, rfl, hmem, rfl⟩ := eol_of_lineEnd? heol
        rw [List.drop_left] at hbody
        refine ⟨word, _, r₅, body, ?_, .mk hindent hquote hword hmem, hbody, ?_⟩
        · simp only [List.append_assoc]
        · obtain rfl := Option.some.inj hlength
          simp only [List.length_append]
          omega
      · cases h
  · cases h

/-! ## Bodies -/

/-- Whether a text starts a word does not depend on what follows, unless the text is empty. -/
lemma startsWord_append {cs : List Char} (h : cs ≠ []) (x : List Char) :
    startsWord (cs ++ x) = startsWord cs := by
  cases cs with
  | nil => exact absurd rfl h
  | cons => rfl

/-- The closing label stands behind an indent, and no word goes on it. -/
lemma closing?_eq_some {word : List Char} (hword : IsLabel word) {cs : List Char} {n : Nat} :
    closing? word cs = some n ↔ ∃ indent rest, cs = indent ++ (word ++ rest) ∧
      (∀ c ∈ indent, isIndent c = true) ∧ startsWord rest = false ∧
      n = indent.length + word.length := by
  constructor
  · intro h
    obtain ⟨back, hback⟩ := List.takeWhile_prefix (l := cs) isIndent
    have hindent : ∀ c ∈ cs.takeWhile isIndent, isIndent c = true :=
      fun c hc => List.mem_takeWhile_imp hc
    rw [closing?] at h
    generalize cs.takeWhile isIndent = indent at *
    subst hback
    rw [List.drop_left] at h
    split at h
    · next hc =>
      rw [Bool.and_eq_true, List.isPrefixOf_iff_prefix] at hc
      obtain ⟨⟨rest, rfl⟩, hstart⟩ := hc
      rw [List.drop_left, Bool.not_eq_true'] at hstart
      exact ⟨indent, rest, rfl, hindent, hstart, (Option.some.inj h).symm⟩
    · cases h
  · rintro ⟨indent, rest, rfl, hindent, hstart, rfl⟩
    obtain ⟨c, cs, rfl, hc, -⟩ := hword
    have htake : (indent ++ (c :: cs ++ rest)).takeWhile isIndent = indent :=
      takeWhile_append_cons hindent (isIndent_of_isNameStart hc) _
    have hprefix : (c :: cs).isPrefixOf (c :: cs ++ rest) = true :=
      List.isPrefixOf_iff_prefix.2 (List.prefix_append _ _)
    simp only [closing?, htake, List.drop_left, hprefix, hstart, Bool.not_false, Bool.and_self,
      if_true]

/-- A line that ends is seen as a whole, whatever follows. -/
lemma closing?_append_of_newline {word : List Char} (hword : IsLabel word) {cs : List Char}
    (hnl : '\n' ∈ cs) (x : List Char) : closing? word (cs ++ x) = closing? word cs := by
  refine Option.ext fun n => ?_
  rw [closing?_eq_some hword, closing?_eq_some hword]
  constructor
  · rintro ⟨indent, rest, h, hindent, hstart, rfl⟩
    have hno := newline_notMem_front hindent hword
    -- the end of the line is behind the label
    rw [← List.append_assoc] at h
    obtain ⟨front, hfront, -⟩ | ⟨back, rfl, rfl⟩ := List.append_eq_append_iff.1 h
    · rw [hfront] at hno
      exact absurd (List.mem_append_left _ hnl) hno
    · have hback : back ≠ [] := by
        rintro rfl
        exact hno (by simpa using hnl)
      rw [startsWord_append hback] at hstart
      exact ⟨indent, back, List.append_assoc _ _ _, hindent, hstart, rfl⟩
  · rintro ⟨indent, rest, rfl, hindent, hstart, rfl⟩
    have hrest : rest ≠ [] := by
      rintro rfl
      exact newline_notMem_front hindent hword (by simpa using hnl)
    exact ⟨indent, rest ++ x, by simp only [List.append_assoc], hindent,
      (startsWord_append hrest x).trans hstart, rfl⟩

/-- A closing label keeps its place if no word goes on it. -/
lemma closing?_append {word : List Char} (hword : IsLabel word) {cs : List Char} {n : Nat}
    (h : closing? word cs = some n) {b : Char} (hb : isWord b = false) (rest : List Char) :
    closing? word (cs ++ b :: rest) = some n := by
  rw [closing?_eq_some hword] at h ⊢
  obtain ⟨indent, back, rfl, hindent, hstart, rfl⟩ := h
  refine ⟨indent, back ++ b :: rest, by simp only [List.append_assoc], hindent, ?_, rfl⟩
  cases back with
  | nil => exact hb
  | cons => exact hstart

/-- A closing label is found in its own characters. -/
lemma closing?_take {word : List Char} (hword : IsLabel word) {cs : List Char} {n : Nat}
    (h : closing? word cs = some n) : n ≤ cs.length ∧ closing? word (cs.take n) = some n := by
  rw [closing?_eq_some hword] at h ⊢
  obtain ⟨indent, rest, rfl, hindent, hstart, rfl⟩ := h
  refine ⟨by simp only [List.length_append]; omega, indent, [], ?_, hindent, rfl, rfl⟩
  rw [← List.append_assoc, ← List.length_append, List.take_left, List.append_nil]

/-- A body has a line feed. -/
lemma newline_mem_take_of_bodyLength? {word cs : List Char} {n : Nat}
    (h : bodyLength? word cs = some n) : '\n' ∈ cs.take n := by
  induction cs generalizing n with
  | nil => cases h
  | cons c cs ih =>
    rw [bodyLength?] at h
    split at h
    · next m hm =>
      cases h
      have hc : c = '\n' := by
        by_contra hc
        rw [if_neg hc] at hm
        cases hm
      rw [hc]
      exact List.mem_cons_self
    · obtain ⟨m, hm, rfl⟩ := Option.map_eq_some_iff.1 h
      exact List.mem_cons_of_mem _ (ih hm)

/-- The text up to the closing label does not depend on what follows if no word goes on it. -/
lemma bodyLength?_append {word : List Char} (hword : IsLabel word) {cs : List Char} {n : Nat}
    (h : bodyLength? word cs = some n) {b : Char} (hb : isWord b = false) (rest : List Char) :
    bodyLength? word (cs ++ b :: rest) = some n := by
  induction cs generalizing n with
  | nil => cases h
  | cons c cs ih =>
    rw [bodyLength?] at h
    rw [List.cons_append, bodyLength?]
    by_cases hc : c = '\n'
    · rw [if_pos hc] at h ⊢
      cases hclose : closing? word cs with
      | some m =>
        rw [hclose] at h
        rw [closing?_append hword hclose hb]
        exact h
      | none =>
        -- a later line closes the body, so this one has an end and was seen as a whole
        rw [hclose] at h
        obtain ⟨m, hm, rfl⟩ := Option.map_eq_some_iff.1 h
        have hnl := List.mem_of_mem_take (newline_mem_take_of_bodyLength? hm)
        rw [closing?_append_of_newline hword hnl, hclose, ih hm]
        rfl
    · rw [if_neg hc] at h ⊢
      obtain ⟨m, hm, rfl⟩ := Option.map_eq_some_iff.1 h
      simp only [ih hm, Option.map_some]

/-- The text up to the closing label is found in its own characters. -/
lemma bodyLength?_take {word : List Char} (hword : IsLabel word) {cs : List Char} {n : Nat}
    (h : bodyLength? word cs = some n) :
    n ≤ cs.length ∧ bodyLength? word (cs.take n) = some n := by
  induction cs generalizing n with
  | nil => cases h
  | cons c cs ih =>
    rw [bodyLength?] at h
    by_cases hc : c = '\n'
    · rw [if_pos hc] at h
      cases hclose : closing? word cs with
      | some m =>
        rw [hclose] at h
        obtain rfl := Option.some.inj h
        obtain ⟨hle, htake⟩ := closing?_take hword hclose
        refine ⟨Nat.succ_le_succ hle, ?_⟩
        rw [List.take_succ_cons, bodyLength?, if_pos hc, htake]
      | none =>
        rw [hclose] at h
        obtain ⟨m, hm, rfl⟩ := Option.map_eq_some_iff.1 h
        obtain ⟨hle, htake⟩ := ih hm
        have hnone := closing?_append_of_newline hword (newline_mem_take_of_bodyLength? hm)
          (cs.drop m)
        rw [List.take_append_drop, hclose] at hnone
        refine ⟨Nat.succ_le_succ hle, ?_⟩
        rw [List.take_succ_cons, bodyLength?, if_pos hc, ← hnone, htake]
        rfl
    · rw [if_neg hc] at h
      obtain ⟨m, hm, rfl⟩ := Option.map_eq_some_iff.1 h
      obtain ⟨hle, htake⟩ := ih hm
      refine ⟨Nat.succ_le_succ hle, ?_⟩
      rw [List.take_succ_cons, bodyLength?, if_neg hc, htake]
      rfl

/-! ## Heredocs -/

/-- The label of an opening is one. -/
lemma Opening.isLabel {word front : List Char} (h : Opening word front) : IsLabel word := by
  cases h with
  | mk _ _ hword _ => exact hword

/-- A heredoc does not depend on what follows if no word goes on it. -/
lemma heredocLength?_append {cs : List Char} {n : Nat} (h : heredocLength? cs = some n) {b : Char}
    (hb : isWord b = false) (rest : List Char) :
    heredocLength? (cs ++ b :: rest) = some n := by
  obtain ⟨word, front, back, body, rfl, hopening, hbody, rfl⟩ := opening_of_heredocLength? h
  have hread := heredocLength?_of_opening hopening (back ++ b :: rest)
  rw [bodyLength?_append hopening.isLabel hbody hb] at hread
  simpa only [List.cons_append, List.append_assoc, Option.map_some] using hread

/-- A heredoc is read from its own characters. -/
lemma heredocLength?_take {cs : List Char} {n : Nat} (h : heredocLength? cs = some n) :
    n ≤ cs.length ∧ heredocLength? (cs.take n) = some n := by
  obtain ⟨word, front, back, body, rfl, hopening, hbody, rfl⟩ := opening_of_heredocLength? h
  obtain ⟨hle, htake⟩ := bodyLength?_take hopening.isLabel hbody
  have hread := heredocLength?_of_opening hopening (back.take body)
  rw [htake] at hread
  refine ⟨by simp only [List.length_cons, List.length_append]; omega, ?_⟩
  have hsplit : ('<' :: '<' :: '<' :: (front ++ back)).take (3 + front.length + body) =
      '<' :: '<' :: '<' :: (front ++ back.take body) := by
    rw [Nat.add_assoc, Nat.add_comm 3]
    simp only [List.take_succ_cons, List.take_length_add_append]
  rw [hsplit, hread]
  rfl

end RouteAudit.Source.Lexer
