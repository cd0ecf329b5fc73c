import RouteAudit.Identifier
import RouteAudit.Proofs.Text.LetterCase

/-!
# Identifiers made of identifiers

An identifier is mostly left as it is when it is taken for a name again.  It is not where a capital
letter without lower case stands inside: such a letter gets a hyphen once more (`ofName_again`).
-/

namespace RouteAudit.Identifier

open Text

/-! ## Hyphens between words -/

/-- A hyphen is put before a character or not, whatever is done behind it. -/
lemma hyphenate_cons (afterCapital : Bool) (c : Char) (cs : List Char) :
    hyphenate afterCapital (c :: cs) =
      (if isCapital c && (!afterCapital || startsSmall cs) then ['-'] else []) ++
        c :: hyphenate (isCapital c) cs := by
  rw [hyphenate]
  cases isCapital c with
  | false => rfl
  | true => cases (!afterCapital || startsSmall cs) <;> rfl

/-- A hyphen is kept. -/
lemma hyphenate_hyphen (afterCapital : Bool) (cs : List Char) :
    hyphenate afterCapital ('-' :: cs) = '-' :: hyphenate false cs := by
  have notCapital : isCapital '-' = false := by decide
  rw [hyphenate_cons, notCapital]
  rfl

/-- Characters that are no capitals are kept. -/
lemma hyphenate_of_notCapital {cs : List Char} (hne : cs ≠ [])
    (h : ∀ c ∈ cs, isCapital c = false) (afterCapital : Bool) (rest : List Char) :
    hyphenate afterCapital (cs ++ rest) = cs ++ hyphenate false rest := by
  induction cs generalizing afterCapital with
  | nil => exact absurd rfl hne
  | cons c cs ih =>
    obtain ⟨hc, hcs⟩ := List.forall_mem_cons.1 h
    rw [List.cons_append, hyphenate_cons, hc, Bool.false_and, if_neg Bool.false_ne_true,
      List.nil_append]
    cases cs with
    | nil => rfl
    | cons d cs =>
      rw [ih (List.cons_ne_nil _ _) hcs]
      rfl

/-- A text is left as it is if no hyphen is put before the first character and the rest is left. -/
lemma hyphenate_cons_eq_self {afterCapital : Bool} {c : Char} {cs : List Char} :
    hyphenate afterCapital (c :: cs) = c :: cs ↔
      (isCapital c = true → afterCapital = true ∧ startsSmall cs = false) ∧
        hyphenate (isCapital c) cs = cs := by
  have notHyphen : isCapital c = true → c ≠ '-' := by
    rintro capital rfl
    exact absurd capital (by decide)
  rw [hyphenate_cons]
  cases hc : isCapital c with
  | false => simp
  | true => cases afterCapital <;> cases startsSmall cs <;> simp [Ne.symm (notHyphen hc)]

/-! ## Letters without lower case -/

/-- Whether a text is written with a small letter first. -/
def writesSmall (cs : List Char) : Bool :=
  startsSmall (lowerFrom false (hyphenate true cs))

/-- Letters without lower case stand at the start only, and where they are several, no small letter
follows. -/
def SteadyInFront (cs : List Char) : Prop :=
  ∀ front b c behind, cs = front ++ b :: c :: behind → isSteady c = true →
    isSteady b = true ∧ startsSmall behind = false ∧ writesSmall behind = false

/-- In a text of one character no character has one in front of it. -/
lemma steadyInFront_singleton (c : Char) : SteadyInFront [c] := by
  intro front b c' behind whole
  have length := congrArg List.length whole
  simp at length
  omega

/-- What is in front of steady characters is told from the front on. -/
lemma steadyInFront_cons {b c : Char} {cs : List Char} :
    SteadyInFront (b :: c :: cs) ↔
      (isSteady c = true → isSteady b = true ∧ startsSmall cs = false ∧ writesSmall cs = false) ∧
        SteadyInFront (c :: cs) := by
  constructor
  · intro h
    refine ⟨h [] b c cs rfl, fun front b' c' behind whole => ?_⟩
    exact h (b :: front) b' c' behind (by rw [whole, List.cons_append])
  · rintro ⟨first, further⟩ front b' c' behind whole
    cases front with
    | nil =>
      obtain ⟨rfl, rest⟩ := List.cons.inj whole
      obtain ⟨rfl, rfl⟩ := List.cons.inj rest
      exact first
    | cons _ front => exact further front b' c' behind (List.cons.inj whole).2

/-- Whether a lowered text starts with a small letter does not depend on what stands before it. -/
lemma startsSmall_lowerFrom (afterCased afterCased' : Bool) (cs : List Char) :
    startsSmall (lowerFrom afterCased cs) = startsSmall (lowerFrom afterCased' cs) := by
  cases cs with
  | nil => rfl
  | cons c cs =>
    rw [lowerFrom, lowerFrom]
    split
    · have small : isSmall 'ς' = true ∧ isSmall 'σ' = true := by decide +kernel
      rw [List.singleton_append, List.singleton_append, startsSmall, startsSmall]
      split <;> split <;> simp only [small]
    · cases image : lowerChar c with
      | nil => exact absurd image (lowerChar_ne_nil c)
      | cons d ds => rfl

/-- The lower case of a hyphen. -/
lemma lowerFrom_hyphen (afterCased : Bool) (cs : List Char) :
    lowerFrom afterCased ('-' :: cs) = '-' :: lowerFrom false cs := by
  have facts : '-' ≠ 'Σ' ∧ lowerChar '-' = ['-'] ∧ isCaseIgnorable '-' = false ∧
      isCased '-' = false := by
    decide +kernel
  obtain ⟨notSigma, same, counts, noCase⟩ := facts
  rw [lowerFrom, if_neg notSigma, same, counts, noCase]
  rfl

/-- A letter without lower case behind a hyphen gets another one. -/
lemma hyphenate_hyphen_steady {c : Char} (steady : isSteady c = true)
    (afterCapital afterCased : Bool) (cs : List Char) :
    hyphenate afterCapital (lowerFrom afterCased ('-' :: c :: cs)) ≠
      lowerFrom afterCased ('-' :: c :: cs) := by
  obtain ⟨image, _, whole, -, -, same, -⟩ := lowerFrom_cons false c cs
  rw [lowerFrom_hyphen, whole, same steady, List.singleton_append, hyphenate_hyphen]
  intro unchanged
  obtain ⟨opens, -⟩ := hyphenate_cons_eq_self.1 (List.cons.inj unchanged).2
  exact absurd (opens (isCapital_of_isSteady steady)).1 Bool.false_ne_true

/-- A character that is lowered leaves no capital letter. -/
lemma hyphenate_lowered {c : Char} (notSteady : isSteady c = false) (afterCapital afterCased : Bool)
    (cs : List Char) :
    ∃ afterCased', hyphenate afterCapital (lowerFrom afterCased (c :: cs)) =
        lowerFrom afterCased (c :: cs) ↔
      hyphenate false (lowerFrom afterCased' cs) = lowerFrom afterCased' cs := by
  obtain ⟨image, afterCased', whole, hne, -, -, notCapital, -⟩ := lowerFrom_cons afterCased c cs
  refine ⟨afterCased', ?_⟩
  rw [whole, hyphenate_of_notCapital hne (notCapital notSteady), List.append_cancel_left_eq]

/-- The part of a name behind a character, once written, is left as it is exactly when letters
without lower case stand in front. -/
lemma hyphenate_written (b : Char) (cs : List Char) (afterCased : Bool) :
    hyphenate (isSteady b) (lowerFrom afterCased (hyphenate (isCapital b) cs)) =
        lowerFrom afterCased (hyphenate (isCapital b) cs) ↔
      SteadyInFront (b :: cs) := by
  induction cs generalizing b afterCased with
  | nil => exact ⟨fun _ => steadyInFront_singleton b, fun _ => rfl⟩
  | cons c cs ih =>
    rw [steadyInFront_cons, hyphenate_cons]
    cases steady : isSteady c with
    | true =>
      have capital := isCapital_of_isSteady steady
      rw [capital, Bool.true_and]
      cases opens : (!isCapital b || startsSmall cs) with
      | true =>
        refine iff_of_false (hyphenate_hyphen_steady steady _ _ _) ?_
        rintro ⟨hc, -⟩
        obtain ⟨hb, hcs, -⟩ := hc rfl
        rw [isCapital_of_isSteady hb, hcs] at opens
        cases opens
      | false =>
        obtain ⟨-, notSmall⟩ := Bool.or_eq_false_iff.1 opens
        obtain ⟨image, afterCased', whole, -, -, same, -⟩ :=
          lowerFrom_cons afterCased c (hyphenate true cs)
        have further := ih c afterCased'
        rw [steady, capital] at further
        rw [if_neg Bool.false_ne_true, List.nil_append, whole, same steady, List.singleton_append,
          hyphenate_cons_eq_self, capital, further, writesSmall,
          startsSmall_lowerFrom afterCased' false]
        simp [notSmall]
    | false =>
      have further := ih c
      rw [steady] at further
      cases opens : (isCapital c && (!isCapital b || startsSmall cs)) with
      | true =>
        rw [if_pos rfl, List.singleton_append, lowerFrom_hyphen, hyphenate_hyphen,
          List.cons_inj_right]
        obtain ⟨afterCased', same⟩ :=
          hyphenate_lowered steady false false (hyphenate (isCapital c) cs)
        rw [same, further]
        simp
      | false =>
        rw [if_neg Bool.false_ne_true, List.nil_append]
        obtain ⟨afterCased', same⟩ :=
          hyphenate_lowered steady (isSteady b) afterCased (hyphenate (isCapital c) cs)
        rw [same, further]
        simp

/-! ## Hyphens at the ends -/

/-- A text without the hyphens at its end. -/
abbrev trimLast (cs : List Char) : List Char :=
  cs.rdropWhile (· == '-')

/-- Whether a text starts small does not depend on hyphens at its end. -/
lemma startsSmall_append_hyphens (cs : List Char) (n : Nat) :
    startsSmall (cs ++ List.replicate n '-') = startsSmall cs := by
  cases cs with
  | nil =>
    cases n with
    | zero => rfl
    | succ n => exact (by decide : isSmall '-' = false)
  | cons c cs => rfl

/-- Hyphens at the end are kept. -/
lemma hyphenate_append_hyphens (afterCapital : Bool) (cs : List Char) (n : Nat) :
    hyphenate afterCapital (cs ++ List.replicate n '-') =
      hyphenate afterCapital cs ++ List.replicate n '-' := by
  induction cs generalizing afterCapital with
  | nil =>
    induction n generalizing afterCapital with
    | zero => rfl
    | succ n ih =>
      rw [List.nil_append] at ih ⊢
      rw [List.replicate_succ, hyphenate_hyphen, ih false]
      rfl
  | cons c cs ih =>
    rw [List.cons_append, hyphenate_cons, hyphenate_cons, startsSmall_append_hyphens, ih,
      List.append_assoc, List.cons_append]

/-- The last character is kept. -/
lemma getLast?_hyphenate (afterCapital : Bool) (cs : List Char) :
    (hyphenate afterCapital cs).getLast? = cs.getLast? := by
  induction cs generalizing afterCapital with
  | nil => rfl
  | cons c cs ih =>
    rw [hyphenate_cons, List.getLast?_append, List.getLast?_cons, List.getLast?_cons, ih]
    rfl

/-- Nothing but hyphens is added. -/
lemma mem_hyphenate {afterCapital : Bool} {cs : List Char} {d : Char}
    (h : d ∈ hyphenate afterCapital cs) : d = '-' ∨ d ∈ cs := by
  induction cs generalizing afterCapital with
  | nil => exact .inr h
  | cons c cs ih =>
    rw [hyphenate_cons, List.mem_append, List.mem_cons] at h
    rcases h with h | rfl | h
    · split at h
      · exact .inl (List.mem_singleton.1 h)
      · cases h
    · exact .inr List.mem_cons_self
    · exact (ih h).imp_right (List.mem_cons_of_mem c)

/-- A text is what stays when the hyphens at its end are dropped, and these. -/
lemma exists_hyphens (cs : List Char) :
    ∃ n, cs = trimLast cs ++ List.replicate n '-' := by
  have hyphens : ∀ c ∈ cs.rtakeWhile (· == '-'), c = '-' := by
    intro c hc
    have := List.mem_rtakeWhile_imp hc
    rwa [beq_iff_eq] at this
  have dropped := List.eq_replicate_of_mem hyphens
  refine ⟨(cs.rtakeWhile (· == '-')).length, ?_⟩
  rw [← dropped, trimLast, List.rdropWhile_append_rtakeWhile]

/-- A last hyphen is taken away just where there is one. -/
lemma trimLast_eq_self_iff {cs : List Char} : trimLast cs = cs ↔ cs.getLast? ≠ some '-' := by
  rw [trimLast, List.rdropWhile_eq_self_iff]
  constructor
  · intro other last
    have hne : cs ≠ [] := by
      rintro rfl
      cases last
    rw [List.getLast?_eq_some_getLast hne, Option.some_inj] at last
    exact other hne (beq_iff_eq.2 last)
  · intro other hne last
    rw [List.getLast?_eq_some_getLast hne, beq_iff_eq.1 last] at other
    exact other rfl

/-- What is trimmed at its end does not end in a hyphen. -/
lemma getLast?_trimLast (cs : List Char) : (trimLast cs).getLast? ≠ some '-' :=
  trimLast_eq_self_iff.1 (List.rdropWhile_idempotent _ cs)

/-- A text that is trimmed at its end is left as it is, but for a hyphen in front, exactly when the
text behind the first character is. -/
lemma trim_hyphenate_trimLast {d : Char} (hd : d ≠ '-') (cs : List Char) :
    trimList (· == '-') (hyphenate false (trimLast (d :: cs))) = trimLast (d :: cs) ↔
      hyphenate (isCapital d) cs = cs := by
  obtain ⟨n, whole⟩ := exists_hyphens (d :: cs)
  have last := getLast?_trimLast (d :: cs)
  cases kept : trimLast (d :: cs) with
  | nil =>
    rw [kept, List.nil_append] at whole
    have hmem : d ∈ List.replicate n '-' := whole ▸ List.mem_cons_self
    exact absurd (List.eq_of_mem_replicate hmem) hd
  | cons c kept' =>
    rw [kept, List.cons_append] at whole
    rw [kept] at last
    obtain ⟨rfl, rest⟩ := List.cons.inj whole
    have start : (hyphenate false (d :: kept')).dropWhile (· == '-') =
        d :: hyphenate (isCapital d) kept' := by
      rw [hyphenate_cons]
      split <;> simp [hd]
    have trimmed : trimList (· == '-') (hyphenate false (d :: kept')) =
        d :: hyphenate (isCapital d) kept' := by
      rw [trimList, start]
      refine trimLast_eq_self_iff.2 ?_
      rwa [List.getLast?_cons, getLast?_hyphenate, ← List.getLast?_cons]
    rw [trimmed, List.cons_inj_right, rest, hyphenate_append_hyphens, List.append_cancel_right_eq]

/-! ## The identifier of an identifier -/

/-- The characters of a name are hyphenated, then made small, then trimmed. -/
lemma toList_ofName (name : String) :
    (ofName name).toList =
      trimList (· == '-') (lowerFrom false (hyphenate false name.toList)) := by
  rw [ofName, trim, lower, String.toList_ofList, String.toList_ofList, String.toList_ofList]

/-- Hyphens at the start of a name are of no account. -/
lemma written_dropWhile (cs : List Char) :
    trimList (· == '-') (lowerFrom false (hyphenate false cs)) =
      trimList (· == '-') (lowerFrom false (hyphenate false (cs.dropWhile (· == '-')))) := by
  induction cs with
  | nil => rfl
  | cons c cs ih =>
    by_cases hc : c = '-'
    · rw [hc, hyphenate_hyphen, lowerFrom_hyphen, List.dropWhile_cons_of_pos (by rfl), ← ih]
      rfl
    · rw [List.dropWhile_cons_of_neg (by simpa using hc)]

/-- An identifier is lowered already. -/
lemma lowerFrom_hyphenate_written (cs : List Char) :
    let w := trimList (· == '-') (lowerFrom false cs)
    lowerFrom false (hyphenate false w) = hyphenate false w := by
  intro w
  refine lowerFrom_eq_self (fun d hd => ?_) false
  rcases mem_hyphenate hd with rfl | hd
  · decide +kernel
  · have front := (List.rdropWhile_prefix (· == '-') _).subset hd
    exact lowerChar_of_mem_lowerFrom ((List.dropWhile_sublist _).subset front)

/-- The written form of a name that starts with no hyphen. -/
lemma exists_written {c : Char} (hc : c ≠ '-') (cs : List Char) :
    ∃ d image afterCased,
      trimList (· == '-') (lowerFrom false (hyphenate false (c :: cs))) =
        trimLast (d :: (image ++ lowerFrom afterCased (hyphenate (isCapital c) cs))) ∧
      d ≠ '-' ∧ (isSteady c = true → d = c ∧ image = []) ∧
      (isSteady c = false → ∀ e ∈ d :: image, isCapital e = false) := by
  obtain ⟨image, afterCased, whole, hne, -, same, notCapital, notHyphen⟩ :=
    lowerFrom_cons false c (hyphenate (isCapital c) cs)
  obtain ⟨d, image, rfl⟩ := List.exists_cons_of_ne_nil hne
  have hd : d ≠ '-' := notHyphen hc d List.mem_cons_self
  refine ⟨d, image, afterCased, ?_, hd, fun steady => List.cons.inj (same steady), notCapital⟩
  have start : (lowerFrom false (hyphenate false (c :: cs))).dropWhile (· == '-') =
      d :: (image ++ lowerFrom afterCased (hyphenate (isCapital c) cs)) := by
    rw [hyphenate_cons]
    split
    · rw [List.singleton_append, lowerFrom_hyphen, whole]
      simp [hd]
    · rw [List.nil_append, whole]
      simp [hd]
  rw [trimList, start]
  rfl

/-- An identifier is left as it is exactly where letters without lower case stand in front. -/
lemma ofName_ofName_iff (name : String) :
    ofName (ofName name) = ofName name ↔
      SteadyInFront (name.toList.dropWhile (· == '-')) := by
  rw [← String.toList_inj, toList_ofName (ofName name), toList_ofName name,
    lowerFrom_hyphenate_written, written_dropWhile]
  cases start : name.toList.dropWhile (· == '-') with
  | nil => exact ⟨fun _ front b c behind whole => by simp at whole, fun _ => rfl⟩
  | cons c cs =>
    have hc : c ≠ '-' := by
      have := List.head?_dropWhile_not (· == '-') name.toList
      rw [start] at this
      simpa using this
    obtain ⟨d, image, afterCased, written, hd, same, notCapital⟩ := exists_written hc cs
    rw [written, trim_hyphenate_trimLast hd, ← hyphenate_written c cs afterCased]
    cases steady : isSteady c with
    | true =>
      obtain ⟨rfl, rfl⟩ := same steady
      rw [isCapital_of_isSteady steady, List.nil_append]
    | false =>
      obtain ⟨hd, himage⟩ := List.forall_mem_cons.1 (notCapital steady)
      rw [hd]
      cases image with
      | nil => rfl
      | cons e image =>
        rw [hyphenate_of_notCapital (List.cons_ne_nil _ _) himage, List.append_cancel_left_eq]

/-- Making an identifier of an identifier changes nothing exactly where, hyphens at the start apart,
the capital letters of the name that have no lower case stand at its start, and where no small
letter follows if they are several.  So it changes nothing where every capital letter has a lower
case. -/
theorem ofName_again (name : String) :
    (ofName (ofName name) = ofName name ↔
      SteadyInFront (name.toList.dropWhile (· == '-'))) ∧
    ((∀ c ∈ name.toList, isSteady c = false) → ofName (ofName name) = ofName name) := by
  refine ⟨ofName_ofName_iff name, fun none => (ofName_ofName_iff name).2 ?_⟩
  intro front b c behind whole steady
  have hmem : c ∈ name.toList.dropWhile (· == '-') := by
    rw [whole]
    exact List.mem_append_right _ (List.mem_cons_of_mem b List.mem_cons_self)
  rw [none c ((List.dropWhile_sublist _).subset hmem)] at steady
  cases steady

/-- A name with a capital letter whose lower case depends on the place, and with one whose lower
case is longer. -/
def unevenName : String := "-ÜberΣΑΣİXy-"

/-- The identifier of the name is its own identifier. -/
theorem ofName_again_uneven :
    (∀ c ∈ unevenName.toList, isSteady c = false) ∧
      ofName (ofName unevenName) = ofName unevenName := by
  have all : (unevenName.toList.all fun c => !isSteady c) = true := by decide +kernel
  have none : ∀ c ∈ unevenName.toList, isSteady c = false := by
    intro c hc
    exact Bool.not_eq_true' _ ▸ List.all_eq_true.1 all c hc
  exact ⟨none, (ofName_again unevenName).2 none⟩

-- a mathematical letter is a capital letter, and it has no lower case
example : ofName (ofName "a𝐀") = "a--𝐀" := by decide +kernel

end RouteAudit.Identifier
