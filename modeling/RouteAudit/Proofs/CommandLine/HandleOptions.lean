import RouteAudit.CommandLine.Run
import RouteAudit.Proofs.Text.Cut

/-!
# Options for handles

An option for a handle is taken apart at its first equals sign.  It is refused if there is none or
nothing stands behind it; otherwise its two sides are trimmed (`checkConfig_handles`).  That is
looked at before the sides are trimmed, so an option with nothing but blanks behind the sign is
taken, and its namespace is empty.
-/

namespace RouteAudit

namespace HandleOption

/-- The two sides of the first equals sign in an option. -/
structure Sides (value handle space : String) : Prop where
  whole : value = handle ++ "=" ++ space
  first : '=' ∉ handle.toList

/-- An option lacks its namespace: there is no equals sign, or nothing behind the first one. -/
def Lacks (value : String) : Prop :=
  '=' ∉ value.toList ∨ ∃ handle, Sides value handle ""

/-- Behind the first equals sign of an option stand blanks, and nothing else. -/
def Blank (value : String) : Prop :=
  ∃ handle space, Sides value handle space ∧ space ≠ "" ∧ ∀ c ∈ space.toList, Text.isBlank c = true

/-- The pair that an option gives: its two sides without the blanks around them. -/
def Gives (value : String) (pair : String × String) : Prop :=
  ∃ handle space, Sides value handle space ∧ space ≠ "" ∧
    pair = (Text.trim Text.isBlank handle, Text.trim Text.isBlank space)

/-- No blank stands at either end of a text. -/
structure Trimmed (s : String) : Prop where
  start : ∀ c ∈ s.toList.head?, Text.isBlank c = false
  last : ∀ c ∈ s.toList.getLast?, Text.isBlank c = false

variable {value handle space : String} {pair : String × String}

/-- A value is cut at its first equals sign. -/
lemma cut?_eq_some : Text.cut? '=' value = some (handle, space) ↔ Sides value handle space := by
  rw [Text.cut?_iff]
  exact ⟨fun h => ⟨h.1, h.2⟩, fun h => ⟨h.whole, h.first⟩⟩

/-- There is one way to cut a value. -/
lemma Sides.unique {handle' space' : String} (h : Sides value handle space)
    (h' : Sides value handle' space') : handle = handle' ∧ space = space' := by
  rw [← cut?_eq_some] at h h'
  cases h.symm.trans h'
  exact ⟨rfl, rfl⟩

/-- What the two sides of a value are taken for. -/
lemma parse?_of_sides (h : Sides value handle space) : parse? value =
    if space = "" then none
    else some (Text.trim Text.isBlank handle, Text.trim Text.isBlank space) := by
  rw [parse?, cut?_eq_some.2 h]
  simp only [String.isEmpty_iff]

/-- A value is refused just if it lacks something. -/
lemma parse?_eq_none : parse? value = none ↔ Lacks value := by
  cases hcut : Text.cut? '=' value with
  | none =>
    rw [parse?, hcut]
    exact iff_of_true rfl (.inl (Text.cut?_eq_none.1 hcut))
  | some sides =>
    obtain ⟨handle, space⟩ := sides
    have hsides := cut?_eq_some.1 hcut
    rw [parse?_of_sides hsides, ite_eq_left_iff]
    constructor
    · intro h
      have hspace : space = "" := by
        by_contra hne
        cases h hne
      exact .inr ⟨handle, hspace ▸ hsides⟩
    · rintro (h | ⟨_, h⟩) hne
      · rw [Text.cut?_eq_none.2 h] at hcut
        cases hcut
      · exact absurd (hsides.unique h).2 hne

/-- A value is accepted just for the pair that it gives. -/
lemma parse?_eq_some : parse? value = some pair ↔ Gives value pair := by
  constructor
  · intro h
    cases hcut : Text.cut? '=' value with
    | none =>
      rw [parse?, hcut] at h
      cases h
    | some sides =>
      obtain ⟨handle, space⟩ := sides
      have hsides := cut?_eq_some.1 hcut
      rw [parse?_of_sides hsides] at h
      split_ifs at h with hspace
      exact ⟨handle, space, hsides, hspace, (Option.some.inj h).symm⟩
  · rintro ⟨handle, space, hsides, hspace, rfl⟩
    rw [parse?_of_sides hsides, if_neg hspace]

/-- A value that lacks nothing gives a pair. -/
lemma exists_gives (h : ¬Lacks value) : ∃ pair, Gives value pair := by
  cases hparse : parse? value with
  | none => exact absurd (parse?_eq_none.1 hparse) h
  | some pair => exact ⟨pair, parse?_eq_some.1 hparse⟩

/-- A value that gives a pair lacks nothing. -/
lemma Gives.not_lacks (h : Gives value pair) : ¬Lacks value := by
  intro hlacks
  rw [← parse?_eq_some, parse?_eq_none.2 hlacks] at h
  cases h

/-- The namespace that an option gives is empty if nothing but blanks stands behind the sign. -/
lemma Gives.space_eq_empty (h : Gives value pair) : pair.2 = "" ↔ Blank value := by
  obtain ⟨handle, space, hsides, hspace, rfl⟩ := h
  rw [Text.trim_eq_empty]
  constructor
  · exact fun hblank => ⟨handle, space, hsides, hspace, hblank⟩
  · rintro ⟨_, space', hsides', -, hblank⟩
    rwa [(hsides.unique hsides').2]

/-- A handle and a namespace with nothing to trim are given as they are written. -/
lemma Gives.of_trimmed (hfirst : '=' ∉ handle.toList) (hhandle : Trimmed handle)
    (hspace : Trimmed space) (hne : space ≠ "") :
    Gives (handle ++ "=" ++ space) (handle, space) := by
  refine ⟨handle, space, ⟨rfl, hfirst⟩, hne, ?_⟩
  rw [Text.trim_of_wanted hhandle.start hhandle.last, Text.trim_of_wanted hspace.start hspace.last]

end HandleOption

namespace CommandLine.Options

open HandleOption

/-- The option of a handle is accepted just for the pair that its value gives. -/
lemma parseHandle_eq_ok {value : String} {pair : String × String} :
    parseHandle value = .ok pair ↔ Gives value pair := by
  rw [← parse?_eq_some, parseHandle]
  cases parse? value <;> simp

/-- The option of a handle is refused just if its value lacks something, and then in its own words.
-/
lemma parseHandle_eq_error {value : String} {fault : Fault} :
    parseHandle value = .error fault ↔ Lacks value ∧ fault = .handleOption value := by
  rw [← parse?_eq_none, parseHandle]
  cases parse? value <;> simp [eq_comm]

/-- A result is changed only where there is one. -/
lemma map_eq_error {ε α β : Type} {x : Except ε α} {f : α → β} {e : ε} :
    x.map f = .error e ↔ x = .error e := by
  cases x <;> simp [Except.map]

/-- The first option is read, and then the others. -/
lemma mapM_cons_eq {value : String} {values : List String} :
    (value :: values).mapM parseHandle =
      (parseHandle value).bind fun pair => (values.mapM parseHandle).map (pair :: ·) := by
  rw [List.mapM_cons]
  cases parseHandle value with
  | error fault => rfl
  | ok pair => cases values.mapM parseHandle <;> rfl

/-- Options are accepted one by one. -/
lemma mapM_parseHandle_eq_ok {values : List String} {pairs : List (String × String)} :
    values.mapM parseHandle = .ok pairs ↔ List.Forall₂ Gives values pairs := by
  induction values generalizing pairs with
  | nil =>
    rw [List.forall₂_nil_left_iff]
    exact ⟨fun h => (Except.ok.inj h).symm, fun h => h ▸ rfl⟩
  | cons value values ih =>
    rw [mapM_cons_eq, List.forall₂_cons_left_iff]
    constructor
    · intro h
      cases hvalue : parseHandle value with
      | error fault =>
        rw [hvalue] at h
        cases h
      | ok pair =>
        cases hvalues : values.mapM parseHandle with
        | error fault =>
          rw [hvalue, hvalues] at h
          cases h
        | ok pairs' =>
          rw [hvalue, hvalues] at h
          exact ⟨pair, pairs', parseHandle_eq_ok.1 hvalue, ih.1 hvalues, (Except.ok.inj h).symm⟩
    · rintro ⟨pair, pairs', hvalue, hvalues, rfl⟩
      rw [parseHandle_eq_ok.2 hvalue, ih.2 hvalues]
      rfl

/-- The first option that lacks its namespace is refused. -/
lemma mapM_parseHandle_eq_error {values : List String} {fault : Fault} :
    values.mapM parseHandle = .error fault ↔ ∃ front value back,
      values = front ++ value :: back ∧ (∀ v ∈ front, ¬Lacks v) ∧ Lacks value ∧
        fault = .handleOption value := by
  induction values with
  | nil =>
    refine iff_of_false (fun h => by cases h) ?_
    rintro ⟨front, value, back, h, -⟩
    cases front <;> cases h
  | cons value values ih =>
    rw [mapM_cons_eq]
    by_cases hlacks : Lacks value
    · rw [parseHandle_eq_error.2 ⟨hlacks, rfl⟩]
      constructor
      · intro h
        exact ⟨[], value, values, rfl, List.forall_mem_nil _, hlacks, (Except.error.inj h).symm⟩
      · rintro ⟨front, bad, back, h, hfront, hbad, rfl⟩
        cases front with
        | nil =>
          cases h
          rfl
        | cons v front =>
          cases h
          exact absurd hlacks (hfront value List.mem_cons_self)
    · obtain ⟨pair, hpair⟩ := exists_gives hlacks
      rw [parseHandle_eq_ok.2 hpair]
      refine map_eq_error.trans (ih.trans ⟨?_, ?_⟩)
      · rintro ⟨front, bad, back, rfl, hfront, hbad⟩
        exact ⟨value :: front, bad, back, rfl, List.forall_mem_cons.2 ⟨hlacks, hfront⟩, hbad⟩
      · rintro ⟨front, bad, back, h, hfront, hbad⟩
        cases front with
        | nil =>
          cases h
          exact absurd hbad.1 hlacks
        | cons v front =>
          cases h
          exact ⟨front, bad, back, rfl, (List.forall_mem_cons.1 hfront).2, hbad⟩

/-- Lists of related members agree on whether they have a member of a kind. -/
lemma exists_mem_iff {α β : Type} {R : α → β → Prop} {p : α → Prop} {q : β → Prop} {xs : List α}
    {ys : List β} (h : List.Forall₂ R xs ys) (hpq : ∀ x y, R x y → (p x ↔ q y)) :
    (∃ x ∈ xs, p x) ↔ ∃ y ∈ ys, q y := by
  induction h with
  | nil => simp only [List.not_mem_nil, false_and, exists_false]
  | cons hr _ ih => rw [List.exists_mem_cons_iff, List.exists_mem_cons_iff, hpq _ _ hr, ih]

/-- Without a file of collected actions, the options for handles decide. -/
lemma checkConfig_of_collected {tree : FileTree} {o : Options} (h : o.collected = none) :
    o.checkConfig tree = (o.handles.mapM parseHandle).map fun handles =>
      { config := o.config, handles,
        templates := if o.templates.isEmpty then ["templates"] else o.templates
        ending := o.ending, scanPaths := o.scanPaths, collected := none } := by
  rw [checkConfig, h]
  cases o.handles.mapM parseHandle <;> rfl

variable {tree : FileTree} {o : Options}

/-- Without collected actions, only handles can be at fault. -/
lemma checkConfig_eq_error (h : o.collected = none) {fault : Fault} :
    o.checkConfig tree = .error fault ↔ o.handles.mapM parseHandle = .error fault := by
  rw [checkConfig_of_collected h]
  exact map_eq_error

/-- A configuration has the handles that the options give, in their order. -/
lemma handles_of_checkConfig (h : o.collected = none) {c : CheckConfig}
    (hc : o.checkConfig tree = .ok c) : List.Forall₂ Gives o.handles c.handles := by
  rw [checkConfig_of_collected h] at hc
  cases hhandles : o.handles.mapM parseHandle with
  | error fault =>
    rw [hhandles] at hc
    cases hc
  | ok handles =>
    rw [hhandles] at hc
    cases hc
    exact mapM_parseHandle_eq_ok.1 hhandles

/-- **Options for handles are taken apart or refused.**  Without a file of collected actions, options
are refused if and only if one of them lacks its namespace, and it is the first such option that is
complained about.  Otherwise each gives the two sides of its first equals sign without the blanks
around them; so a namespace is empty if and only if nothing but blanks stands behind the sign.  A
handle without an equals sign and a namespace, neither with blanks at its ends, are read back from
the option that they make. -/
theorem checkConfig_handles (tree : FileTree) {o : Options} (h : o.collected = none) :
    ((∃ fault, o.checkConfig tree = .error fault) ↔ ∃ value ∈ o.handles, Lacks value) ∧
      (∀ fault, o.checkConfig tree = .error fault → ∃ front value back,
        o.handles = front ++ value :: back ∧ (∀ v ∈ front, ¬Lacks v) ∧ Lacks value ∧
          fault = .handleOption value) ∧
      (∀ c, o.checkConfig tree = .ok c → List.Forall₂ Gives o.handles c.handles ∧
        ((∃ pair ∈ c.handles, pair.2 = "") ↔ ∃ value ∈ o.handles, Blank value)) ∧
      ∀ handle space : String, '=' ∉ handle.toList → Trimmed handle → Trimmed space → space ≠ "" →
        parse? (handle ++ "=" ++ space) = some (handle, space) := by
  refine ⟨⟨?_, ?_⟩, ?_, ?_, ?_⟩
  · rintro ⟨fault, hfault⟩
    obtain ⟨front, value, back, hvalues, -, hlacks, -⟩ :=
      mapM_parseHandle_eq_error.1 ((checkConfig_eq_error h).1 hfault)
    exact ⟨value, hvalues ▸ List.mem_append_right front List.mem_cons_self, hlacks⟩
  · rintro ⟨value, hmem, hlacks⟩
    cases hc : o.checkConfig tree with
    | error fault => exact ⟨fault, rfl⟩
    | ok c =>
      obtain ⟨_, -, hnone⟩ := (exists_mem_iff (handles_of_checkConfig h hc)
        fun _ _ hgives => iff_of_false hgives.not_lacks id).1 ⟨value, hmem, hlacks⟩
      exact hnone.elim
  · intro fault hfault
    exact mapM_parseHandle_eq_error.1 ((checkConfig_eq_error h).1 hfault)
  · intro c hc
    have hgives := handles_of_checkConfig h hc
    exact ⟨hgives, (exists_mem_iff hgives fun _ _ h => h.space_eq_empty.symm).symm⟩
  · intro handle space hfirst hhandle hspace hne
    exact parse?_eq_some.2 (.of_trimmed hfirst hhandle hspace hne)

/-- Of two options the second lacks its namespace. -/
def lackingOptions : Options :=
  { handles := ["a=b", "blog="] }

/-- Behind the sign of the second option stands nothing but a blank. -/
def blankOptions : Options :=
  { handles := [" blog = a=b", "h= "] }

/-- An option that lacks its namespace is refused, and one with a blank for it is not. -/
theorem checkConfig_handles_sample :
    (lackingOptions.collected = none ∧ ∃ fault, lackingOptions.checkConfig {} = .error fault) ∧
      blankOptions.collected = none ∧
      ∃ c, blankOptions.checkConfig {} = .ok c ∧ ∃ pair ∈ c.handles, pair.2 = "" := by
  refine ⟨⟨rfl, ?_⟩, rfl, ?_⟩
  · have lacks : Lacks "blog=" := .inr ⟨"blog", rfl, by decide⟩
    exact (checkConfig_handles {} rfl).1.2
      ⟨"blog=", List.mem_cons_of_mem _ List.mem_cons_self, lacks⟩
  · obtain ⟨c, hc⟩ : ∃ c, blankOptions.checkConfig {} = .ok c := ⟨_, rfl⟩
    have blank : Blank "h= " :=
      ⟨"h", " ", ⟨rfl, by decide⟩, by decide, List.forall_mem_singleton.2 rfl⟩
    exact ⟨c, hc, ((checkConfig_handles {} rfl).2.2.1 c hc).2.2
      ⟨"h= ", List.mem_cons_of_mem _ List.mem_cons_self, blank⟩⟩

end CommandLine.Options

end RouteAudit
