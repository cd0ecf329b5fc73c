import RouteAudit.Proofs.Identifier
import RouteAudit.Proofs.Text.Character
import RouteAudit.Proofs.Text.Cut

/-!
# Camel case

A camel-case name consists of words that start with a capital letter and of acronyms.  Its
identifier consists of these words in small letters, with hyphens between (`ofName_words`).  So an
identifier whose words start with two small letters is got back from the names of the method and the
class that it stands for.
-/

namespace RouteAudit.Identifier

open Text

/-! ## Words -/

/-- Whether a character goes on a word behind its first letters. -/
def goesOn (c : Char) : Bool :=
  c.isLower || c.isDigit

/-- Whether a word is a letter of some kind, a small letter, and more small letters and digits. -/
def isWordFrom (first : Char → Bool) : List Char → Bool
  | c :: d :: cs => first c && d.isLower && cs.all goesOn
  | _ => false

/-- Whether a word starts with one capital letter. -/
def isCapitalized : List Char → Bool :=
  isWordFrom Char.isUpper

/-- Whether a word consists of capital letters. -/
def isAcronym (w : List Char) : Bool :=
  !w.isEmpty && w.all Char.isUpper

/-- Whether a word is a small letter, and further small letters and digits. -/
def isUncapitalized : List Char → Bool
  | c :: cs => c.isLower && cs.all goesOn
  | [] => false

/-- The words of a camel-case name.  Only the first may have no capital letter, and no two acronyms
are neighbours. -/
structure CamelCase (ws : List (List Char)) : Prop where
  first : ∀ w ∈ ws.head?, isUncapitalized w ∨ isCapitalized w ∨ isAcronym w
  further : ∀ w ∈ ws.tail, isCapitalized w ∨ isAcronym w
  apart : ws.IsChain fun v w => ¬ (isAcronym v ∧ isAcronym w)

/-! ## ASCII letters -/

/-- A great ASCII letter is a capital and not small. -/
lemma of_isUpper {c : Char} (h : c.isUpper = true) :
    c.isAlphanum = true ∧ isCapital c = true ∧ isSmall c = false := by
  have letter : c.isAlphanum = true := by simp [Char.isAlphanum, Char.isAlpha, h]
  exact of_ascii (p := fun c => c.isUpper = true →
    c.isAlphanum = true ∧ isCapital c = true ∧ isSmall c = false) (by decide +kernel)
    (lt_of_isAlphanum letter) h

/-- A small ASCII letter is small, and has a great one. -/
lemma of_isLower {c : Char} (h : c.isLower = true) :
    isSmall c = true ∧ c.toUpper.isUpper = true ∧ c.toUpper.toLower = c := by
  have letter : c.isAlphanum = true := by simp [Char.isAlphanum, Char.isAlpha, h]
  exact of_ascii (p := fun c => c.isLower = true →
    isSmall c = true ∧ c.toUpper.isUpper = true ∧ c.toUpper.toLower = c) (by decide +kernel)
    (lt_of_isAlphanum letter) h

/-- A small ASCII letter goes on with a word. -/
lemma goesOn_of_isLower {c : Char} (h : c.isLower = true) : goesOn c = true := by
  rw [goesOn, h, Bool.true_or]

/-- What goes on with a word is no capital and has no smaller form. -/
lemma of_goesOn {c : Char} (h : goesOn c = true) :
    c.isAlphanum = true ∧ isCapital c = false ∧ c.toLower = c := by
  have letter : c.isAlphanum = true := by
    rw [goesOn, Bool.or_eq_true] at h
    rcases h with h | h <;> simp [Char.isAlphanum, Char.isAlpha, h]
  exact of_ascii (p := fun c => goesOn c = true →
    c.isAlphanum = true ∧ isCapital c = false ∧ c.toLower = c) (by decide +kernel)
    (lt_of_isAlphanum letter) h

/-- A letter or digit is neither a hyphen nor a backslash. -/
lemma of_isAlphanum {c : Char} (h : c.isAlphanum = true) : c.toLower ≠ '-' ∧ c ≠ '\\' :=
  of_ascii (p := fun c => c.isAlphanum = true → c.toLower ≠ '-' ∧ c ≠ '\\') (by decide +kernel)
    (lt_of_isAlphanum h) h

/-- ASCII characters are lowered one by one. -/
lemma lowerFrom_ascii {cs : List Char} (h : ∀ c ∈ cs, c.toNat < 0x80) (afterCased : Bool) :
    lowerFrom afterCased cs = cs.map Char.toLower := by
  induction cs generalizing afterCased with
  | nil => rfl
  | cons c cs ih =>
    obtain ⟨hc, hcs⟩ := List.forall_mem_cons.1 h
    have notSigma : c ≠ 'Σ' := by
      rintro rfl
      exact absurd hc (by decide)
    rw [lowerFrom, if_neg notSigma, lowerChar, if_pos hc, ih hcs, List.singleton_append,
      List.map_cons]

/-! ## Hyphens in front of words -/

/-- A word starts with a first letter and a small one, and what follows goes on. -/
lemma isWordFrom_iff {first : Char → Bool} {w : List Char} :
    isWordFrom first w = true ↔ ∃ c d cs, w = c :: d :: cs ∧ first c = true ∧ d.isLower = true ∧
      ∀ e ∈ cs, goesOn e = true := by
  constructor
  · intro h
    match w, h with
    | c :: d :: cs, h =>
      rw [isWordFrom, Bool.and_eq_true, Bool.and_eq_true, List.all_eq_true] at h
      exact ⟨c, d, cs, rfl, h.1.1, h.1.2, h.2⟩
  · rintro ⟨c, d, cs, rfl, hc, hd, hcs⟩
    rw [isWordFrom, hc, hd, List.all_eq_true.2 hcs]
    rfl

/-- An acronym is all in great letters. -/
lemma isAcronym_iff {w : List Char} :
    isAcronym w = true ↔ w ≠ [] ∧ ∀ c ∈ w, c.isUpper = true := by
  rw [isAcronym, Bool.and_eq_true, Bool.not_eq_true', List.isEmpty_eq_false_iff, List.all_eq_true]

/-- What goes on with a word is not empty, and all of it goes on. -/
lemma of_isUncapitalized {w : List Char} (h : isUncapitalized w = true) :
    w ≠ [] ∧ ∀ c ∈ w, goesOn c = true := by
  cases w with
  | nil => cases h
  | cons c cs =>
    rw [isUncapitalized, Bool.and_eq_true, List.all_eq_true] at h
    exact ⟨List.cons_ne_nil _ _, List.forall_mem_cons.2 ⟨goesOn_of_isLower h.1, h.2⟩⟩

/-- A word is not empty and has letters and digits only. -/
lemma letters_of_word {w : List Char} (h : isUncapitalized w ∨ isCapitalized w ∨ isAcronym w) :
    w ≠ [] ∧ ∀ c ∈ w, c.isAlphanum = true := by
  rcases h with h | h | h
  · obtain ⟨hne, hw⟩ := of_isUncapitalized h
    exact ⟨hne, fun c hc => (of_goesOn (hw c hc)).1⟩
  · obtain ⟨c, d, cs, rfl, hc, hd, hcs⟩ := isWordFrom_iff.1 h
    refine ⟨List.cons_ne_nil _ _, ?_⟩
    rw [List.forall_mem_cons, List.forall_mem_cons]
    exact ⟨(of_isUpper hc).1, (of_goesOn (goesOn_of_isLower hd)).1,
      fun e he => (of_goesOn (hcs e he)).1⟩
  · obtain ⟨hne, hw⟩ := isAcronym_iff.1 h
    exact ⟨hne, fun c hc => (of_isUpper (hw c hc)).1⟩

/-- A word that is capitalized has a hyphen in front, and none inside. -/
lemma hyphenate_capitalized {w : List Char} (h : isCapitalized w = true) (afterCapital : Bool)
    (rest : List Char) :
    hyphenate afterCapital (w ++ rest) = '-' :: (w ++ hyphenate false rest) := by
  obtain ⟨c, d, cs, rfl, hc, hd, hcs⟩ := isWordFrom_iff.1 h
  have capital := (of_isUpper hc).2.1
  have small : startsSmall (d :: cs ++ rest) = true := (of_isLower hd).1
  have others : ∀ e ∈ d :: cs, isCapital e = false := by
    rw [List.forall_mem_cons]
    exact ⟨(of_goesOn (goesOn_of_isLower hd)).2.1, fun e he => (of_goesOn (hcs e he)).2.1⟩
  rw [List.cons_append, hyphenate_cons, capital, small, Bool.or_true, Bool.and_true, if_pos rfl,
    hyphenate_of_notCapital (List.cons_ne_nil _ _) others]
  rfl

/-- Behind a capital letter, no hyphen comes among further ones. -/
lemma hyphenate_capitals {cs : List Char} (h : ∀ c ∈ cs, c.isUpper = true) {rest : List Char}
    (hrest : startsSmall rest = false) :
    hyphenate true (cs ++ rest) = cs ++ hyphenate true rest := by
  induction cs with
  | nil => rfl
  | cons c cs ih =>
    obtain ⟨hc, hcs⟩ := List.forall_mem_cons.1 h
    have next : startsSmall (cs ++ rest) = false := by
      cases cs with
      | nil => exact hrest
      | cons d cs => exact (of_isUpper (hcs d List.mem_cons_self)).2.2
    rw [List.cons_append, hyphenate_cons, next, (of_isUpper hc).2.1, ih hcs]
    rfl

/-- An acronym has a hyphen in front, and none inside. -/
lemma hyphenate_acronym {w : List Char} (h : isAcronym w = true) {rest : List Char}
    (hrest : startsSmall rest = false) :
    hyphenate false (w ++ rest) = '-' :: (w ++ hyphenate true rest) := by
  obtain ⟨hne, hw⟩ := isAcronym_iff.1 h
  obtain ⟨c, cs, rfl⟩ := List.exists_cons_of_ne_nil hne
  obtain ⟨hc, hcs⟩ := List.forall_mem_cons.1 hw
  rw [List.cons_append, hyphenate_cons, (of_isUpper hc).2.1, hyphenate_capitals hcs hrest]
  rfl

/-- No small letter starts the words from a capital letter on. -/
lemma startsSmall_flatten {ws : List (List Char)}
    (words : ∀ w ∈ ws, isCapitalized w ∨ isAcronym w) : startsSmall ws.flatten = false := by
  cases ws with
  | nil => rfl
  | cons w ws =>
    have first : ∃ c cs, w = c :: cs ∧ c.isUpper = true := by
      rcases words w List.mem_cons_self with h | h
      · obtain ⟨c, d, cs, rfl, hc, -⟩ := isWordFrom_iff.1 h
        exact ⟨c, d :: cs, rfl, hc⟩
      · obtain ⟨hne, hw⟩ := isAcronym_iff.1 h
        obtain ⟨c, cs, rfl⟩ := List.exists_cons_of_ne_nil hne
        exact ⟨c, cs, rfl, hw c List.mem_cons_self⟩
    obtain ⟨c, cs, rfl, hc⟩ := first
    exact (of_isUpper hc).2.2

/-- Each word has a hyphen in front.  Behind an acronym another one would have none. -/
lemma hyphenate_flatten {ws : List (List Char)}
    (words : ∀ w ∈ ws, isCapitalized w ∨ isAcronym w)
    (apart : ws.IsChain fun v w => ¬ (isAcronym v ∧ isAcronym w)) (afterCapital : Bool)
    (behind : afterCapital = true → ∀ w ∈ ws.head?, ¬ isAcronym w) :
    hyphenate afterCapital ws.flatten = ws.flatMap ('-' :: ·) := by
  induction ws generalizing afterCapital with
  | nil => rfl
  | cons w ws ih =>
    obtain ⟨hw, hws⟩ := List.forall_mem_cons.1 words
    obtain ⟨next, apart⟩ := List.isChain_cons.1 apart
    rw [List.flatten_cons, List.flatMap_cons, List.cons_append]
    rcases hw with hw | hw
    · rw [hyphenate_capitalized hw, ih hws apart false nofun]
    · have notBehind : afterCapital = false := by
        rw [← Bool.not_eq_true]
        exact fun after => behind after w rfl hw
      rw [notBehind, hyphenate_acronym hw (startsSmall_flatten hws),
        ih hws apart true fun _ v hv acronym => next v hv ⟨hw, acronym⟩]

/-! ## Words with hyphens between -/

/-- Words that are joined have a separator in front of all but the first. -/
lemma intercalate_cons (w : List Char) (ws : List (List Char)) :
    ['-'].intercalate (w :: ws) = w ++ ws.flatMap ('-' :: ·) := by
  induction ws generalizing w with
  | nil => rw [List.intercalate_singleton, List.flatMap_nil, List.append_nil]
  | cons v ws ih =>
    rw [List.intercalate_cons_cons, ih, List.flatMap_cons, List.append_assoc]
    rfl

/-- A map that keeps hyphens works word by word. -/
lemma map_intercalate {f : Char → Char} (hf : f '-' = '-') (ws : List (List Char)) :
    (['-'].intercalate ws).map f = ['-'].intercalate (ws.map (·.map f)) := by
  cases ws with
  | nil => rfl
  | cons w ws =>
    rw [List.map_cons, intercalate_cons, intercalate_cons, List.map_append, List.map_flatMap,
      List.flatMap_map]
    simp only [List.map_cons, hf]

/-- A camel-case name with its hyphens is the words with hyphens between, possibly with one more in
front. -/
lemma CamelCase.hyphenate {ws : List (List Char)} (h : CamelCase ws) :
    Identifier.hyphenate false ws.flatten = ['-'].intercalate ws ∨
      Identifier.hyphenate false ws.flatten = '-' :: ['-'].intercalate ws := by
  cases ws with
  | nil => exact .inl rfl
  | cons w ws =>
    have further : ∀ v ∈ ws, isCapitalized v ∨ isAcronym v := h.further
    rw [intercalate_cons, List.flatten_cons]
    rcases h.first w rfl with hw | hw
    · obtain ⟨hne, hw⟩ := of_isUncapitalized hw
      left
      rw [hyphenate_of_notCapital hne fun c hc => (of_goesOn (hw c hc)).2.1,
        hyphenate_flatten further (List.isChain_cons.1 h.apart).2 false nofun]
    · right
      exact hyphenate_flatten (List.forall_mem_cons.2 ⟨hw, further⟩) h.apart false nofun

/-- The words of a camel case name are of letters and digits. -/
lemma CamelCase.words {ws : List (List Char)} (h : CamelCase ws) :
    ∀ w ∈ ws, w ≠ [] ∧ ∀ c ∈ w, c.isAlphanum = true := by
  cases ws with
  | nil => exact List.forall_mem_nil _
  | cons w ws =>
    exact List.forall_mem_cons.2 ⟨letters_of_word (h.first w rfl),
      fun v hv => letters_of_word (.inr (h.further v hv))⟩

/-- Words that hold no hyphen have none at the ends when they are joined. -/
lemma trimList_intercalate {ws : List (List Char)} (h : ∀ w ∈ ws, w ≠ [] ∧ '-' ∉ w) :
    trimList (· == '-') (['-'].intercalate ws) = ['-'].intercalate ws := by
  have other {w : List Char} (hw : '-' ∉ w) {c : Char} (hc : c ∈ w) : (c == '-') = false :=
    beq_eq_false_iff_ne.2 fun e => hw (e ▸ hc)
  have joined {w : List Char} (ws : List (List Char)) (hne : w ≠ []) :
      ∃ c cs, w = c :: cs ∧ ∃ rest, ['-'].intercalate (w :: ws) = c :: rest := by
    obtain ⟨c, cs, rfl⟩ := List.exists_cons_of_ne_nil hne
    exact ⟨c, cs, rfl, _, intercalate_cons _ _⟩
  refine trimList_of_wanted ?_ ?_
  · cases ws with
    | nil => exact nofun
    | cons w ws =>
      obtain ⟨hne, hw⟩ := h w List.mem_cons_self
      obtain ⟨c, cs, rfl, rest, whole⟩ := joined ws hne
      rw [whole]
      rintro d ⟨⟩
      exact other hw List.mem_cons_self
  · induction ws with
    | nil => exact nofun
    | cons w ws ih =>
      obtain ⟨⟨-, hw⟩, hws⟩ := List.forall_mem_cons.1 h
      cases ws with
      | nil =>
        rw [List.intercalate_singleton]
        exact fun c hc => other hw (List.mem_of_mem_getLast? hc)
      | cons v ws =>
        obtain ⟨c, cs, rfl, rest, whole⟩ := joined ws (hws v List.mem_cons_self).1
        have last := ih hws
        rw [List.intercalate_cons_cons, List.getLast?_append]
        rw [whole, List.getLast?_cons] at last ⊢
        exact last

/-! ## Identifiers of camel-case names -/

/-- Whether a word of an identifier starts with two small letters. -/
def isSegment : List Char → Bool :=
  isWordFrom Char.isLower

/-- A text with a capital letter in front. -/
def capitalize : List Char → List Char
  | c :: cs => c.toUpper :: cs
  | [] => []

/-- The words of an identifier, each with a capital letter in front. -/
def capitalizedWords (segments : List String) : List String :=
  segments.map fun s => String.ofList (capitalize s.toList)

/-- The name that is made from the words of an identifier. -/
def camelCase (segments : List String) : String :=
  String.join (capitalizedWords segments)

/-- An action is named without its start. -/
lemma ofAction_append (name : String) : ofAction (actionStart ++ name) = ofName name := by
  rw [ofAction, if_pos (startsWith_iff.2 ⟨name, rfl⟩), dropFirst_append]

/-- A controller is named without its namespace and its end. -/
lemma ofController_append {space name : String}
    (hspace : space = "" ∨ ∃ front, space = front ++ "\\") (hname : '\\' ∉ name.toList) :
    ofController (space ++ name ++ controllerSuffix) = ofName name := by
  have hlast : '\\' ∉ (name ++ controllerSuffix).toList := by
    rw [String.toList_append, List.mem_append, not_or]
    exact ⟨hname, by decide⟩
  have short : Source.ClassName.short (space ++ name ++ controllerSuffix) =
      name ++ controllerSuffix := by
    rw [Source.ClassName.short, String.append_assoc]
    rcases hspace with rfl | ⟨front, rfl⟩
    · rw [String.empty_append]
      exact afterLast_of_notMem hlast
    · exact afterLast_append hlast front
  rw [ofController, short, if_pos (endsWith_iff.2 ⟨name, rfl⟩), dropLast_append]

/-- The identifier of a camel-case name is its words, lowered, with hyphens between. -/
lemma ofName_join {ws : List String} (h : CamelCase (ws.map String.toList)) :
    ofName (String.join ws) = "-".intercalate (ws.map lower) := by
  have letters : ∀ w ∈ ws, w.toList ≠ [] ∧ ∀ c ∈ w.toList, c.isAlphanum = true :=
    fun w hw => h.words _ (List.mem_map_of_mem hw)
  have lowered : ∀ w ∈ ws, (lower w).toList = w.toList.map Char.toLower := by
    intro w hw
    rw [lower, String.toList_ofList,
      lowerFrom_ascii fun c hc => lt_of_isAlphanum ((letters w hw).2 c hc)]
  have ascii : ∀ c ∈ hyphenate false (ws.map String.toList).flatten, c.toNat < 0x80 := by
    intro c hc
    rcases mem_hyphenate hc with rfl | hc
    · decide
    · obtain ⟨_, hw, hc⟩ := List.mem_flatten.1 hc
      exact lt_of_isAlphanum ((h.words _ hw).2 c hc)
  have noHyphen : ∀ w ∈ (ws.map lower).map String.toList, w ≠ [] ∧ '-' ∉ w := by
    simp only [List.forall_mem_map]
    intro w hw
    obtain ⟨hne, hletters⟩ := letters w hw
    rw [lowered w hw]
    refine ⟨by simpa using hne, fun hmem => ?_⟩
    obtain ⟨c, hc, hyphen⟩ := List.mem_map.1 hmem
    exact (of_isAlphanum (hletters c hc)).1 hyphen
  have joined : (['-'].intercalate (ws.map String.toList)).map Char.toLower =
      ['-'].intercalate ((ws.map lower).map String.toList) := by
    rw [map_intercalate rfl, List.map_map, List.map_map]
    exact congrArg _ (List.map_congr_left fun w hw => (lowered w hw).symm)
  rw [← String.toList_inj, toList_ofName, String.toList_join, String.toList_intercalate,
    List.flatMap_def, lowerFrom_ascii ascii]
  rcases h.hyphenate with whole | whole
  · rw [whole, joined]
    exact trimList_intercalate noHyphen
  · rw [whole, List.map_cons, joined, trimList, List.dropWhile_cons_of_pos (by rfl), ← trimList]
    exact trimList_intercalate noHyphen

/-- A segment with a great first letter is a word, and becomes the segment again in small letters.
-/
lemma isCapitalized_capitalize {s : List Char} (h : isSegment s = true) :
    isCapitalized (capitalize s) = true ∧ (capitalize s).map Char.toLower = s := by
  obtain ⟨c, d, cs, rfl, hc, hd, hcs⟩ := isWordFrom_iff.1 h
  obtain ⟨-, capital, back⟩ := of_isLower hc
  have others : ∀ e ∈ d :: cs, e.toLower = id e :=
    List.forall_mem_cons.2 ⟨(of_goesOn (goesOn_of_isLower hd)).2.2,
      fun e he => (of_goesOn (hcs e he)).2.2⟩
  refine ⟨isWordFrom_iff.2 ⟨_, d, cs, rfl, capital, hd, hcs⟩, ?_⟩
  rw [capitalize, List.map_cons, back, List.map_congr_left others, List.map_id]

/-- A word with a small letter is no acronym. -/
lemma not_isAcronym {w : List Char} (h : isCapitalized w = true) : ¬ isAcronym w := by
  obtain ⟨c, d, cs, rfl, -, hd, -⟩ := isWordFrom_iff.1 h
  intro acronym
  have hupper := (isAcronym_iff.1 acronym).2 d (by simp)
  have small := (of_isLower hd).1
  rw [(of_isUpper hupper).2.2] at small
  exact Bool.false_ne_true small

/-- Words with great first letters make a camel case name. -/
lemma camelCase_of_capitalized {ws : List (List Char)} (h : ∀ w ∈ ws, isCapitalized w = true) :
    CamelCase ws where
  first w hw := .inr (.inl (h w (List.mem_of_mem_head? hw)))
  further w hw := .inl (h w (List.mem_of_mem_tail hw))
  apart := by
    refine List.Pairwise.isChain (List.pairwise_of_forall_mem_list ?_)
    exact fun v hv w _ both => not_isAcronym (h v hv) both.1

/-- The name that is made from an identifier is one in camel case. -/
lemma camelCase_words {segments : List String} (h : ∀ s ∈ segments, isSegment s.toList) :
    CamelCase ((capitalizedWords segments).map String.toList) := by
  refine camelCase_of_capitalized ?_
  simp only [capitalizedWords, List.forall_mem_map, String.toList_ofList]
  exact fun s hs => (isCapitalized_capitalize (h s hs)).1

/-- An identifier is got back from the name that is made from it. -/
lemma ofName_camelCase {segments : List String} (h : ∀ s ∈ segments, isSegment s.toList) :
    ofName (camelCase segments) = "-".intercalate segments := by
  have back : (capitalizedWords segments).map lower = segments := by
    rw [capitalizedWords, List.map_map]
    refine (List.map_congr_left fun s hs => ?_).trans (List.map_id segments)
    obtain ⟨capitalized, lowered⟩ := isCapitalized_capitalize (h s hs)
    have letters := (letters_of_word (.inr (.inl capitalized))).2
    rw [Function.comp_apply, lower, String.toList_ofList,
      lowerFrom_ascii fun c hc => lt_of_isAlphanum (letters c hc), lowered, String.ofList_toList,
      id]
  rw [camelCase, ofName_join (camelCase_words h), back]

/-- The identifier of a camel-case name consists of its words in small letters with hyphens between.
Hence an identifier is got back from the names of the method and of the class that are made from it,
in whatever namespace the class is. -/
theorem ofName_words :
    (∀ ws : List String, CamelCase (ws.map String.toList) →
      ofName (String.join ws) = "-".intercalate (ws.map lower)) ∧
    ∀ segments : List String, (∀ s ∈ segments, isSegment s.toList) →
      ofAction (actionStart ++ camelCase segments) = "-".intercalate segments ∧
      ∀ space, space = "" ∨ (∃ front, space = front ++ "\\") →
        ofController (space ++ camelCase segments ++ controllerSuffix) =
          "-".intercalate segments := by
  refine ⟨fun ws h => ofName_join h, fun segments h => ⟨?_, fun space hspace => ?_⟩⟩
  · rw [ofAction_append, ofName_camelCase h]
  · have noBackslash : '\\' ∉ (camelCase segments).toList := by
      intro hmem
      rw [camelCase, String.toList_join, List.flatMap_def] at hmem
      obtain ⟨w, hw, hc⟩ := List.mem_flatten.1 hmem
      exact (of_isAlphanum (((camelCase_words h).words w hw).2 _ hc)).2 rfl
    rw [ofController_append hspace noBackslash, ofName_camelCase h]

/-- Acronyms before and behind a capitalized word, one of a single letter, and words that end in
digits. -/
theorem ofName_words_acronyms :
    let ws := ["http2", "CSP", "Sources4", "X"]
    let segments := ["csp", "sources4"]
    CamelCase (ws.map String.toList) ∧ (∀ s ∈ segments, isSegment s.toList) ∧
      ofName (String.join ws) = "http2-csp-sources4-x" ∧
      ofAction (actionStart ++ camelCase segments) = "csp-sources4" ∧
      ofController ("craft\\" ++ camelCase segments ++ controllerSuffix) = "csp-sources4" := by
  intro ws segments
  have words : CamelCase (ws.map String.toList) := ⟨by decide, by decide, by decide⟩
  have all : ∀ s ∈ segments, isSegment s.toList := by decide
  obtain ⟨joined, back⟩ := ofName_words
  obtain ⟨action, controller⟩ := back segments all
  refine ⟨words, all, (joined ws words).trans (by decide +kernel), action.trans (by decide), ?_⟩
  exact (controller "craft\\" (.inr ⟨"craft", by decide⟩)).trans (by decide)

end RouteAudit.Identifier
