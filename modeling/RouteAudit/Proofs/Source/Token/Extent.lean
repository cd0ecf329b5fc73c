import Mathlib
import RouteAudit.Proofs.Source.Token.Lexeme

/-!
# The extent of a lexeme

How far a lexeme goes is decided by its own characters.  A string keeps its extent whatever follows.
A variable, a name and a number that reach the end of a text end before a character that is not part
of a word.  And each of them is read from its own characters alone.
-/

namespace RouteAudit.Source.Lexer
open Text

/-- A character that is a backslash neither at the end nor in front of another is none. -/
lemma ne_backslash {c : Char} {cs : List Char} (last : c = '\\' → cs = [] → False)
    (notLast : ∀ d ds, c = '\\' → cs = d :: ds → False) : c ≠ '\\' := by
  intro e
  cases cs with
  | nil => exact last e rfl
  | cons d ds => exact notLast d ds e rfl

/-- A character that is no backslash is the closing quote or not. -/
lemma quoteLength?_cons {quote c : Char} (hc : c ≠ '\\') (cs : List Char) :
    quoteLength? quote (c :: cs) =
      if c = quote then some 1 else (quoteLength? quote cs).map (· + 1) := by
  rw [quoteLength?.eq_def]
  split <;> simp_all

/-- The text up to the closing quote does not depend on what follows. -/
lemma quoteLength?_append {quote : Char} {cs : List Char} {n : Nat}
    (h : quoteLength? quote cs = some n) (x : List Char) :
    quoteLength? quote (cs ++ x) = some n := by
  fun_induction quoteLength? quote cs generalizing n with
  | case1 => cases h
  | case2 => cases h
  | case3 c cs ih =>
    obtain ⟨m, hm, rfl⟩ := Option.map_eq_some_iff.1 h
    simp [quoteLength?, ih hm]
  | case4 cs he hne =>
    have hq : quote ≠ '\\' := ne_backslash he hne
    rw [List.cons_append, quoteLength?_cons hq, if_pos rfl, h]
  | case5 c cs he hne hc ih =>
    obtain ⟨m, hm, rfl⟩ := Option.map_eq_some_iff.1 h
    have hb : c ≠ '\\' := ne_backslash he hne
    rw [List.cons_append, quoteLength?_cons hb, if_neg hc, ih hm]
    rfl

/-- A string ends at its quote, whatever stands behind. -/
lemma stringLength?_append {cs : List Char} {n : Nat} (h : stringLength? cs = some n)
    (x : List Char) : stringLength? (cs ++ x) = some n := by
  cases cs with
  | nil => cases h
  | cons c cs =>
    rw [stringLength?] at h
    split at h
    · next hc =>
      obtain ⟨m, hm, rfl⟩ := Option.map_eq_some_iff.1 h
      rw [List.cons_append, stringLength?, if_pos hc, quoteLength?_append hm]
      rfl
    · cases h

/-- A run of word characters ends before a character that is none. -/
lemma takeWhile_append_of_length {p : Char → Bool} {cs : List Char}
    (h : (cs.takeWhile p).length = cs.length) {b : Char} (hb : p b = false) (rest : List Char) :
    (cs ++ b :: rest).takeWhile p = cs := by
  rw [List.takeWhile_append, if_pos h, List.takeWhile_cons, if_neg (by simp [hb]), List.append_nil]

/-- A variable ends where no word goes on. -/
lemma variableLength?_append {cs : List Char} (h : variableLength? cs = some cs.length) {b : Char}
    (hb : isWord b = false) (rest : List Char) :
    variableLength? (cs ++ b :: rest) = some cs.length := by
  unfold variableLength? at h
  split at h
  · next c r =>
    split at h
    · next hc =>
      have hr : (r.takeWhile isWord).length = r.length := by
        simp only [Option.some.injEq, List.length_cons] at h
        omega
      simp only [List.cons_append, variableLength?, if_pos hc,
        takeWhile_append_of_length hr hb, List.length_cons, Option.some.injEq]
      omega
    · cases h
  · cases h

/-- A number ends where neither a word nor a fraction goes on. -/
lemma numberLength?_append {cs : List Char} (h : numberLength? cs = some cs.length) {b : Char}
    (hb : (isWord b || b == '.') = false) (rest : List Char) :
    numberLength? (cs ++ b :: rest) = some cs.length := by
  cases cs with
  | nil => cases h
  | cons c r =>
    rw [numberLength?] at h
    split at h
    · next hc =>
      have hr : (r.takeWhile fun d => isWord d || d == '.').length = r.length := by
        simp only [Option.some.injEq, List.length_cons] at h
        omega
      rw [List.cons_append, numberLength?, if_pos hc, takeWhile_append_of_length hr hb,
        List.length_cons, Nat.add_comm]
    · cases h

/-- A digit with word characters behind it is one number. -/
lemma numberLength?_words {c : Char} {cs : List Char} (hc : c.isDigit = true)
    (hcs : ∀ d ∈ cs, isWord d = true) : numberLength? (c :: cs) = some (c :: cs).length := by
  have hdecimal : isDecimal c = true := by
    rw [isDecimal, digitValue?, if_pos hc]
    rfl
  have hwhile : cs.takeWhile (fun d => isWord d || d == '.') = cs := by
    rw [List.takeWhile_eq_self_iff]
    intro d hmem
    rw [hcs d hmem, Bool.true_or]
  rw [numberLength?, if_pos hdecimal, hwhile, List.length_cons, Nat.add_comm]

/-- A character that is no backslash goes on with a name if it is a word character. -/
lemma nameTail_cons {c : Char} (hc : c ≠ '\\') (cs : List Char) :
    nameTail (c :: cs) = if isWord c then 1 + nameTail cs else 0 := by
  rw [nameTail.eq_def]
  split <;> simp_all

/-- A name that goes on ends where no word and no segment goes on. -/
lemma nameTail_append {cs : List Char} (h : nameTail cs = cs.length) {b : Char}
    (hb : isWord b = false) (hs : b ≠ '\\') (rest : List Char) :
    nameTail (cs ++ b :: rest) = cs.length := by
  fun_induction nameTail cs with
  | case1 => rw [List.nil_append, nameTail_cons hs, if_neg (by simp [hb])]; rfl
  | case2 => cases h
  | case3 c cs hc ih =>
    have hn : nameTail cs = cs.length := by simp only [List.length_cons] at h; omega
    simp only [List.cons_append, nameTail, if_pos hc, ih hn, List.length_cons]
    omega
  | case4 => cases h
  | case5 c cs he hne hc ih =>
    have hn : nameTail cs = cs.length := by simp only [List.length_cons] at h; omega
    have hb' : c ≠ '\\' := ne_backslash he hne
    rw [List.cons_append, nameTail_cons hb', if_pos hc, ih hn, List.length_cons, Nat.add_comm]
  | case6 => cases h

/-- A name that does not start with a backslash starts with a segment. -/
lemma nameLength?_cons {c : Char} (hc : c ≠ '\\') (cs : List Char) :
    nameLength? (c :: cs) = if isNameStart c then some (1 + nameTail cs) else none := by
  rw [nameLength?.eq_def]
  split <;> simp_all

/-- A name is a segment, or a backslash in front of one, and what goes on with it. -/
lemma exists_of_nameLength? {cs : List Char} {n : Nat} (h : nameLength? cs = some n) :
    ∃ front c rest, cs = front ++ c :: rest ∧ (front = [] ∨ front = ['\\']) ∧
      isNameStart c = true ∧ n = front.length + (nameTail rest + 1) := by
  unfold nameLength? at h
  split at h
  · next c rest =>
    obtain ⟨hc, length⟩ := Option.ite_none_right_eq_some.1 h
    refine ⟨['\\'], c, rest, rfl, .inr rfl, hc, ?_⟩
    rw [← Option.some.inj length, List.length_singleton]
    omega
  · next c rest _ =>
    obtain ⟨hc, length⟩ := Option.ite_none_right_eq_some.1 h
    refine ⟨[], c, rest, rfl, .inl rfl, hc, ?_⟩
    rw [← Option.some.inj length, List.length_nil]
    omega
  · cases h

/-- A text that is a name goes on as a name to its end. -/
lemma exists_of_isName {cs : List Char} (h : nameLength? cs = some cs.length) :
    ∃ front c rest, cs = front ++ c :: rest ∧ (front = [] ∨ front = ['\\']) ∧
      isNameStart c = true ∧ nameTail rest = rest.length := by
  obtain ⟨front, c, rest, rfl, hfront, hc, length⟩ := exists_of_nameLength? h
  rw [List.length_append, List.length_cons] at length
  exact ⟨front, c, rest, rfl, hfront, hc, by omega⟩

/-- A name ends where no word and no segment goes on. -/
lemma nameLength?_append {cs : List Char} (h : nameLength? cs = some cs.length) {b : Char}
    (hb : isWord b = false) (hs : b ≠ '\\') (rest : List Char) :
    nameLength? (cs ++ b :: rest) = some cs.length := by
  obtain ⟨front, c, r, rfl, rfl | rfl, hc, hr⟩ := exists_of_isName h
  · have hb' : c ≠ '\\' := ne_of_isNameStart hc (by decide)
    rw [List.nil_append, List.cons_append, nameLength?_cons hb', if_pos hc, nameTail_append hr hb hs,
      List.length_cons, Nat.add_comm]
  · simp only [List.cons_append, List.nil_append, nameLength?, if_pos hc, nameTail_append hr hb hs,
      List.length_cons, Option.some.injEq]
    omega

/-! ## Lexemes by themselves -/

/-- A run of characters is found in itself. -/
lemma takeWhile_take_length (p : Char → Bool) (cs : List Char) :
    (cs.take (cs.takeWhile p).length).takeWhile p = cs.takeWhile p := by
  rw [← List.prefix_iff_eq_take.1 (List.takeWhile_prefix p), List.takeWhile_idem]

/-- What is taken from a text is no longer than the text. -/
lemma length_takeWhile_le (p : Char → Bool) (cs : List Char) :
    (cs.takeWhile p).length ≤ cs.length :=
  (List.takeWhile_prefix p).length_le

/-- What stands between quotes is known from its own characters. -/
lemma quoteLength?_take {quote : Char} {cs : List Char} {n : Nat}
    (h : quoteLength? quote cs = some n) :
    n ≤ cs.length ∧ quoteLength? quote (cs.take n) = some n := by
  fun_induction quoteLength? quote cs generalizing n with
  | case1 => cases h
  | case2 => cases h
  | case3 c cs ih =>
    obtain ⟨m, hm, rfl⟩ := Option.map_eq_some_iff.1 h
    obtain ⟨hle, htake⟩ := ih hm
    refine ⟨by simp only [List.length_cons]; omega, ?_⟩
    rw [List.take_succ_cons, List.take_succ_cons, quoteLength?, htake]
    rfl
  | case4 cs he hne =>
    have hq : quote ≠ '\\' := ne_backslash he hne
    obtain rfl := Option.some.inj h
    exact ⟨Nat.succ_le_succ (Nat.zero_le _), by
      rw [List.take_succ_cons, List.take_zero, quoteLength?_cons hq, if_pos rfl]⟩
  | case5 c cs he hne hc ih =>
    obtain ⟨m, hm, rfl⟩ := Option.map_eq_some_iff.1 h
    have hb : c ≠ '\\' := ne_backslash he hne
    obtain ⟨hle, htake⟩ := ih hm
    refine ⟨Nat.succ_le_succ hle, ?_⟩
    rw [List.take_succ_cons, quoteLength?_cons hb, if_neg hc, htake]
    rfl

/-- A string is known from its own characters. -/
lemma stringLength?_take {cs : List Char} {n : Nat} (h : stringLength? cs = some n) :
    n ≤ cs.length ∧ stringLength? (cs.take n) = some n := by
  cases cs with
  | nil => cases h
  | cons c cs =>
    rw [stringLength?] at h
    split at h
    · next hc =>
      obtain ⟨m, hm, rfl⟩ := Option.map_eq_some_iff.1 h
      obtain ⟨hle, htake⟩ := quoteLength?_take hm
      refine ⟨Nat.succ_le_succ hle, ?_⟩
      rw [List.take_succ_cons, stringLength?, if_pos hc, htake]
      rfl
    · cases h

/-- A variable is known from its own characters. -/
lemma variableLength?_take {cs : List Char} {n : Nat} (h : variableLength? cs = some n) :
    n ≤ cs.length ∧ variableLength? (cs.take n) = some n := by
  unfold variableLength? at h
  split at h
  · next c r =>
    split at h
    · next hc =>
      obtain rfl := Option.some.inj h
      have hle := length_takeWhile_le isWord r
      refine ⟨by simp only [List.length_cons]; omega, ?_⟩
      rw [Nat.add_comm, List.take_succ_cons, List.take_succ_cons, variableLength?, if_pos hc,
        takeWhile_take_length, Nat.add_comm]
    · cases h
  · cases h

/-- A number is known from its own characters. -/
lemma numberLength?_take {cs : List Char} {n : Nat} (h : numberLength? cs = some n) :
    n ≤ cs.length ∧ numberLength? (cs.take n) = some n := by
  cases cs with
  | nil => cases h
  | cons c r =>
    rw [numberLength?] at h
    split at h
    · next hc =>
      obtain rfl := Option.some.inj h
      have hle := length_takeWhile_le (fun d => isWord d || d == '.') r
      refine ⟨by simp only [List.length_cons]; omega, ?_⟩
      rw [Nat.add_comm, List.take_succ_cons, numberLength?, if_pos hc, takeWhile_take_length,
        Nat.add_comm]
    · cases h

/-- How a name goes on is known from its own characters. -/
lemma nameTail_take (cs : List Char) :
    nameTail cs ≤ cs.length ∧ nameTail (cs.take (nameTail cs)) = nameTail cs := by
  fun_induction nameTail cs with
  | case1 => exact ⟨Nat.le_refl _, rfl⟩
  | case2 => exact ⟨Nat.zero_le _, rfl⟩
  | case3 c cs hc ih =>
    refine ⟨by simp only [List.length_cons]; omega, ?_⟩
    rw [Nat.add_comm, List.take_succ_cons, List.take_succ_cons, nameTail, if_pos hc, ih.2,
      Nat.add_comm]
  | case4 => exact ⟨Nat.zero_le _, rfl⟩
  | case5 c cs he hne hc ih =>
    have hb : c ≠ '\\' := ne_backslash he hne
    refine ⟨by simp only [List.length_cons]; omega, ?_⟩
    rw [Nat.add_comm, List.take_succ_cons, nameTail_cons hb, if_pos hc, ih.2, Nat.add_comm]
  | case6 => exact ⟨Nat.zero_le _, rfl⟩

/-- A name is known from its own characters. -/
lemma nameLength?_take {cs : List Char} {n : Nat} (h : nameLength? cs = some n) :
    n ≤ cs.length ∧ nameLength? (cs.take n) = some n := by
  obtain ⟨front, c, r, rfl, hfront, hc, rfl⟩ := exists_of_nameLength? h
  obtain ⟨hle, htake⟩ := nameTail_take r
  refine ⟨by rw [List.length_append, List.length_cons]; omega, ?_⟩
  rw [List.take_length_add_append, List.take_succ_cons]
  rcases hfront with rfl | rfl
  · have hb : c ≠ '\\' := ne_of_isNameStart hc (by decide)
    rw [List.nil_append, nameLength?_cons hb, if_pos hc, htake, List.length_nil]
    simp only [Option.some.injEq]
    omega
  · rw [List.singleton_append, nameLength?, if_pos hc, htake, List.length_singleton]
    simp only [Option.some.injEq]
    omega

/-- An operator is known from its own characters. -/
lemma opLength?_take {cs : List Char} {n : Nat} (h : opLength? cs = some n) :
    n ≤ cs.length ∧ opLength? (cs.take n) = some n := by
  unfold opLength? at h
  split at h
  case h_9 c r _ _ _ _ _ _ _ _ =>
    split at h
    · next hc =>
      obtain rfl := Option.some.inj h
      have single : ∀ d ∈ singleOps, opLength? [d] = some 1 := forall_mem_of_all (by decide)
      exact ⟨Nat.succ_le_succ (Nat.zero_le _), single c (by simpa using hc)⟩
    · cases h
  case h_10 => cases h
  -- the operators of more than one character
  all_goals
    obtain rfl := Option.some.inj h
    exact ⟨by simp only [List.length_cons]; omega, rfl⟩

end RouteAudit.Source.Lexer
