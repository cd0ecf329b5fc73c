import RouteAudit.Proofs.Source.Expr.Step
import RouteAudit.Proofs.Source.Token.Balanced

/-!
# Delimited expressions

An expression that is not understood is skipped, and the readers of names, of parent directories and
of groups each have a rule of their own for how far.  `Delimited` says of which tokens an expression
can be made so that these rules agree about its end: inside of a group that is read as an expression
there is one expression, the path of a parent directory has at most one number of levels, and the
member behind two colons is one token.  Of such tokens an expression is read, and nothing of what
comes behind them (`Delimited.separate`).
-/

namespace RouteAudit.Source.Expr
open Token

/-- The part of an expression that some tokens are. -/
inductive Part where
  /-- All of it. -/
  | expression
  /-- What comes behind its first operand. -/
  | continuation
  /-- What stands between the brackets of an array. -/
  | elements

/-- Whether the first of some tokens is one of the given operators, if there are any tokens. -/
def GoesOn (ops : List String) (ts : List Token) : Prop :=
  ∀ t ∈ ts.head?, t.isOp ops = true

/-- Whether no tokens start with one of the given operators. -/
def GoesOnWithout (ops : List String) (ts : List Token) : Prop :=
  ∀ t ∈ ts.head?, t.isOp ops = false

/-- Whether the end of a part of an expression is where its readers find it. -/
inductive Delimited : Part → List Token → Prop where
  | nothing :
    Delimited .expression []
  | skipped {t ts} :
    t.kind = .op ∨ t.kind = .other →
    t.isOp ["[", "("] = false →
    Run terminators (t :: ts) →
    Delimited .expression (t :: ts)
  | literal {t ts} :
    t.kind ∈ [.string, .number, .variable, .heredoc] →
    Delimited .continuation ts →
    Delimited .expression (t :: ts)
  | constant {w ts} :
    w.kind = .name →
    ofWord? (Text.lower w.text) ≠ none →
    Delimited .continuation ts →
    Delimited .expression (w :: ts)
  | name {w ts} :
    w.kind = .name →
    GoesOnWithout ["(", "::"] ts →
    Delimited .continuation ts →
    Delimited .expression (w :: ts)
  | call {w o inner c ts} :
    w.kind = .name →
    ofWord? (Text.lower w.text) = none →
    Text.lower w.text ∉ ["array", "dirname"] →
    o.isOp ["("] = true →
    Run [] inner →
    c.closes = true →
    Delimited .continuation ts →
    Delimited .expression (w :: o :: (inner ++ c :: ts))
  | array {w o inner c ts} :
    w.kind = .name →
    Text.lower w.text = "array" →
    o.isOp ["("] = true →
    Delimited .elements inner →
    c.closes = true →
    Delimited .continuation ts →
    Delimited .expression (w :: o :: (inner ++ c :: ts))
  | parent {w o path c ts} :
    w.kind = .name →
    Text.lower w.text = "dirname" →
    o.isOp ["("] = true →
    Delimited .expression path →
    c.isOp [")"] = true →
    Delimited .continuation ts →
    Delimited .expression (w :: o :: (path ++ c :: ts))
  | parentLevels {w o path comma levels c ts} :
    w.kind = .name →
    Text.lower w.text = "dirname" →
    o.isOp ["("] = true →
    Delimited .expression path →
    comma.isOp [","] = true →
    Delimited .expression levels →
    c.isOp [")"] = true →
    Delimited .continuation ts →
    Delimited .expression (w :: o :: (path ++ comma :: (levels ++ c :: ts)))
  | member {w colons m ts} :
    w.kind = .name →
    ofWord? (Text.lower w.text) = none →
    colons.isOp ["::"] = true →
    m.isKeyword ["class"] = true ∨ GoesOnWithout ["("] ts →
    Delimited .continuation ts →
    Delimited .expression (w :: colons :: m :: ts)
  | method {w colons m o inner c ts} :
    w.kind = .name →
    ofWord? (Text.lower w.text) = none →
    colons.isOp ["::"] = true →
    m.isKeyword ["class"] = false →
    o.isOp ["("] = true →
    Run [] inner →
    c.closes = true →
    Delimited .continuation ts →
    Delimited .expression (w :: colons :: m :: o :: (inner ++ c :: ts))
  | brackets {o inner c ts} :
    o.isOp ["["] = true →
    Delimited .elements inner →
    c.closes = true →
    Delimited .continuation ts →
    Delimited .expression (o :: (inner ++ c :: ts))
  | group {o inner c ts} :
    o.isOp ["("] = true →
    Delimited .expression inner →
    c.isOp [")"] = true →
    Delimited .continuation ts →
    Delimited .expression (o :: (inner ++ c :: ts))
  | done :
    Delimited .continuation []
  | point {t ts} :
    t.isOp ["."] = true →
    Delimited .expression ts →
    Delimited .continuation (t :: ts)
  | discarded {t ts} :
    t.isOp ["."] = false →
    Run terminators (t :: ts) →
    Delimited .continuation (t :: ts)
  | empty :
    Delimited .elements []
  | separator {t ts} :
    t.isOp [",", ";"] = true →
    Delimited .elements ts →
    Delimited .elements (t :: ts)
  | spread {t us ts} :
    t.isOp ["..."] = true →
    Run [","] us →
    GoesOn [","] ts →
    Delimited .elements ts →
    Delimited .elements (t :: (us ++ ts))
  | item {t us ts} :
    t.isOp [",", "..."] = false →
    Delimited .expression (t :: us) →
    GoesOn [",", ";"] ts →
    Delimited .elements ts →
    Delimited .elements (t :: us ++ ts)
  | keyed {key arrow value ts} :
    GoesOnWithout [",", "..."] key →
    Delimited .expression key →
    arrow.isOp ["=>"] = true →
    Delimited .expression value →
    GoesOn terminators ts →
    Delimited .elements ts →
    Delimited .elements (key ++ arrow :: (value ++ ts))

/-- The expression that some tokens are if nothing but a semicolon stands behind them. -/
def alone (ts : List Token) : Expr :=
  (outcome (read (ts ++ [⟨.op, ";", 0⟩]))).1

/-- Whether some tokens are read as the same expression whatever stands behind them, and nothing of
that is read. -/
def Separate (ts : List Token) : Prop :=
  ∀ stop rest, stop.isOp terminators = true →
    outcome (read (ts ++ stop :: rest)) = (alone ts, stop :: rest)

/-- Tokens that are read up to any terminator are separate, and have their expression alone. -/
lemma separate_of_reads {ts : List Token} {e : Expr}
    (h : ∀ stop rest, stop.isOp terminators = true →
      outcome (read (ts ++ stop :: rest)) = (e, stop :: rest)) :
    alone ts = e ∧ Separate ts := by
  have halone : alone ts = e := by
    rw [alone, h ⟨.op, ";", 0⟩ [] (by decide)]
  refine ⟨halone, fun stop rest hs => ?_⟩
  rw [halone]
  exact h stop rest hs

/-- What the readers make of a part of an expression, whatever stands behind it. -/
def Leaves : Part → List Token → Prop
  | .expression, ts =>
    -- the first operand may have others before it, so what is made of it is left open
    ∀ f : Expr → Expr, ∃ e, ∀ stop rest, stop.isOp terminators = true →
      outcome (readChain (f (outcome (readOperand (ts ++ stop :: rest))).1)
        (outcome (readOperand (ts ++ stop :: rest))).2) = (e, stop :: rest)
  | .continuation, ts =>
    ∀ left, ∃ e, ∀ stop rest, stop.isOp terminators = true →
      outcome (readChain left (ts ++ stop :: rest)) = (e, stop :: rest)
  | .elements, ts =>
    ∃ es, ∀ close rest, close.closes = true →
      outcome (readElements (ts ++ close :: rest)) = (es, rest)

/-- A closing bracket ends an expression. -/
lemma terminates_of_closes {t : Token} (h : t.closes = true) : t.isOp terminators = true :=
  isOp_of_subset h (by decide)

/-- Delimited tokens are separate. -/
lemma Leaves.separate {ts : List Token} (h : Leaves .expression ts) : Separate ts := by
  obtain ⟨e, he⟩ := h id
  refine (separate_of_reads (e := e) fun stop rest hs => ?_).2
  rw [outcome_read]
  exact he stop rest hs

/-- An operand is read, and then what goes on behind it. -/
lemma leaves_of_operand {ts us : List Token} {o : Expr} (hu : Leaves .continuation us)
    (h : ∀ stop rest, stop.isOp terminators = true →
      outcome (readOperand (ts ++ stop :: rest)) = (o, us ++ stop :: rest)) :
    Leaves .expression ts := by
  intro f
  obtain ⟨e, he⟩ := hu (f o)
  refine ⟨e, fun stop rest hs => ?_⟩
  rw [h stop rest hs]
  exact he stop rest hs

/-- A name is read with the tokens that belong to it. -/
lemma leaves_of_named {w : Token} {ts us : List Token} {o : Expr} (hw : w.kind = .name)
    (hu : Leaves .continuation us)
    (h : ∀ stop rest, stop.isOp terminators = true →
      outcome (readNamed w.text (ts ++ stop :: rest)) = (o, us ++ stop :: rest)) :
    Leaves .expression (w :: ts) := by
  refine leaves_of_operand (o := o) hu fun stop rest hs => ?_
  rw [List.cons_append, outcome_readOperand, hw]
  exact h stop rest hs

/-- Behind some tokens stands one of the operators with which they go on, or what comes next. -/
lemma GoesOn.append {ops : List String} {ts : List Token} (h : GoesOn ops ts) (u : Token)
    (us : List Token) :
    ∃ stop rest, ts ++ u :: us = stop :: rest ∧ (stop.isOp ops = true ∨ stop = u) := by
  cases ts with
  | nil => exact ⟨u, us, rfl, .inr rfl⟩
  | cons t ts => exact ⟨t, ts ++ u :: us, rfl, .inl (h t rfl)⟩

/-- An operator that ends an expression can be neither a point nor the opening of a group. -/
lemma GoesOnWithout.append {ops : List String} {ts : List Token} (h : GoesOnWithout ops ts)
    (disjoint : ∀ op ∈ terminators, op ∉ ops) {stop : Token} (hs : stop.isOp terminators = true)
    (rest : List Token) : ∃ t us, ts ++ stop :: rest = t :: us ∧ t.isOp ops = false := by
  cases ts with
  | nil => exact ⟨stop, rest, rfl, isOp_disjoint hs disjoint⟩
  | cons t ts => exact ⟨t, ts ++ stop :: rest, rfl, h t rfl⟩

/-- No expression starts with the closing bracket of another. -/
lemma Delimited.closes_head {t : Token} {ts : List Token} (h : Delimited .expression (t :: ts)) :
    t.closes = false := by
  generalize hp : Part.expression = p at h
  generalize hus : t :: ts = us at h
  cases h with
  | nothing => cases hus
  | skipped _ _ hrun =>
    cases hus
    exact isOp_eq_false_of_subset hrun.head.1 (by decide)
  | literal hk =>
    cases hus
    rw [closes, isOp]
    simp only [List.mem_cons, List.not_mem_nil, or_false] at hk
    rcases hk with hk | hk | hk | hk <;> rw [hk] <;> rfl
  | constant hw | name hw | call hw | array hw | parent hw | parentLevels hw | member hw
  | method hw =>
    cases hus
    rw [closes, isOp, hw]
    rfl
  | brackets ho =>
    cases hus
    exact isOp_disjoint ho (by decide)
  | group ho =>
    cases hus
    exact isOp_disjoint ho (by decide)
  | _ => cases hp

/-- A chain ends at a terminator. -/
lemma readChain_terminator (left : Expr) {stop : Token} (hs : stop.isOp terminators = true)
    (rest : List Token) : outcome (readChain left (stop :: rest)) = (left, stop :: rest) := by
  rw [outcome_readChain, if_pos hs]

/-- Where no operand can start, all is skipped up to the end of the expression. -/
lemma readOperand_skipped {t : Token} (hk : t.kind = .op ∨ t.kind = .other)
    (hb : t.isOp ["[", "("] = false) (ts : List Token) :
    outcome (readOperand (t :: ts)) = (unsupported, skipUntil terminators (t :: ts)) := by
  rw [outcome_readOperand]
  rcases hk with hk | hk
  · have hsquare : t.isOp ["["] = false := isOp_eq_false_of_subset hb (by decide)
    have hround : t.isOp ["("] = false := isOp_eq_false_of_subset hb (by decide)
    rw [hk]
    simp only
    rw [if_neg (by simp [hsquare]), if_neg (by simp [hround])]
  · rw [hk]

/-- At a terminator there is no operand. -/
lemma readOperand_terminator {stop : Token} (hs : stop.isOp terminators = true)
    (rest : List Token) : outcome (readOperand (stop :: rest)) = (unsupported, stop :: rest) := by
  have hb : stop.isOp ["[", "("] = false := isOp_disjoint hs (by decide)
  rw [readOperand_skipped (.inl (isOp_iff.1 hs).1) hb, skipUntil_stop hs]

/-- An element without a key is read up to what comes behind it. -/
lemma readElements_item {t stop : Token} {ts rest : List Token} {e : Expr}
    (hclose : t.closes = false) (ht : t.isOp [",", "..."] = false)
    (hread : outcome (read (t :: ts)) = (e, stop :: rest)) (harrow : stop.isOp ["=>"] = false) :
    outcome (readElements (t :: ts)) =
      if rest.length < ts.length then
        (.item e (outcome (readElements (stop :: rest))).1,
          (outcome (readElements (stop :: rest))).2)
      else (.item e (outcome (readElements ts)).1, (outcome (readElements ts)).2) := by
  have hcomma : t.isOp [","] = false := isOp_eq_false_of_subset ht (by decide)
  have hspread : t.isOp ["..."] = false := isOp_eq_false_of_subset ht (by decide)
  rw [outcome_readElements, if_neg (by simp [hclose]), if_neg (by simp [hcomma]),
    if_neg (by simp [hspread]), hread]
  simp only
  rw [if_neg (by simp [harrow])]

/-- An element with a key is read up to the end of its value. -/
lemma readElements_pair {t arrow : Token} {ts rest r : List Token} {key value : Expr}
    (hclose : t.closes = false) (ht : t.isOp [",", "..."] = false)
    (hkey : outcome (read (t :: ts)) = (key, arrow :: rest)) (harrow : arrow.isOp ["=>"] = true)
    (hvalue : outcome (read rest) = (value, r)) :
    outcome (readElements (t :: ts)) =
      (.pair key value (outcome (readElements r)).1, (outcome (readElements r)).2) := by
  have hcomma : t.isOp [","] = false := isOp_eq_false_of_subset ht (by decide)
  have hspread : t.isOp ["..."] = false := isOp_eq_false_of_subset ht (by decide)
  rw [outcome_readElements, if_neg (by simp [hclose]), if_neg (by simp [hcomma]),
    if_neg (by simp [hspread]), hkey]
  simp only
  rw [if_pos harrow, hvalue]

/-- A member that is not called is one token. -/
lemma readMember_single (name : String) (m : Token) {ts : List Token}
    (h : m.isKeyword ["class"] = true ∨ ∃ t us, ts = t :: us ∧ t.isOp ["("] = false) :
    outcome (readMember name (m :: ts)) =
      (if m.isKeyword ["class"] then .className name else unsupported, ts) := by
  by_cases hm : m.isKeyword ["class"] = true
  · rw [outcome_readMember_class hm, if_pos hm]
  · obtain ⟨t, us, rfl, ht⟩ := h.resolve_left hm
    rw [readMember, if_neg hm, if_neg hm, if_neg (by simp [ht])]
    rfl

/-- A member that is called is skipped with its arguments. -/
lemma readMember_call (name : String) {m o : Token} (hm : m.isKeyword ["class"] = false)
    (ho : o.isOp ["("] = true) (ts : List Token) :
    outcome (readMember name (m :: o :: ts)) = (unsupported, skipGroup (o :: ts)) := by
  rw [readMember, if_neg (by simp [hm]), if_pos ho]
  rfl

/-- The group behind a name is skipped, unless the name says how to read it. -/
lemma readNamed_call {name : String} {o c : Token} {inner : List Token}
    (hword : ofWord? (Text.lower name) = none)
    (hname : Text.lower name ∉ ["array", "dirname"]) (ho : o.isOp ["("] = true)
    (hrun : Run [] inner) (hc : c.closes = true) (rest : List Token) :
    outcome (readNamed name (o :: (inner ++ c :: rest))) = (unsupported, rest) := by
  simp only [List.mem_cons, List.not_mem_nil, or_false, not_or] at hname
  rw [outcome_readNamed, hword]
  simp only
  rw [if_pos ho, if_neg hname.1, if_neg hname.2,
    skipGroup_group (isOp_of_subset ho (by decide)) hrun hc]

/-- The group behind the name of the directory function is a path, with its levels behind it. -/
lemma readNamed_dirname {name : String} {o : Token} (hname : Text.lower name = "dirname")
    (ho : o.isOp ["("] = true) (ts : List Token) :
    outcome (readNamed name (o :: ts)) = outcome (readParent ts) := by
  rw [outcome_readNamed, hname]
  show (if o.isOp ["("] = true then _ else _) = _
  rw [if_pos ho, if_neg (by decide), if_pos rfl]

/-- A path without levels is gone up one level. -/
lemma readParent_single {path : List Token} {c : Token} (hpath : Separate path)
    (hc : c.isOp [")"] = true) (rest : List Token) :
    outcome (readParent (path ++ c :: rest)) =
      (.parent (alone path) (.constant (.integer 1)), rest) := by
  have hcomma : c.isOp [","] = false := isOp_disjoint hc (by decide)
  rw [outcome_readParent, hpath c _ (isOp_of_subset hc (by decide))]
  simp only
  rw [if_neg (by simp [hcomma]), dropClose_cons, if_pos hc]

/-- The two arguments for a parent directory are read one after the other. -/
lemma readParent_levels {path levels : List Token} {comma c : Token} (hpath : Separate path)
    (hcomma : comma.isOp [","] = true) (hlevels : Separate levels) (hc : c.isOp [")"] = true)
    (rest : List Token) :
    outcome (readParent (path ++ comma :: (levels ++ c :: rest))) =
      (.parent (alone path) (alone levels), rest) := by
  rw [outcome_readParent, hpath comma _ (isOp_of_subset hcomma (by decide))]
  simp only
  rw [if_pos hcomma, hlevels c _ (isOp_of_subset hc (by decide)), dropClose_cons, if_pos hc]

/-- A comma between elements is skipped; at a semicolon nothing can be read, so it is an element of
its own. -/
lemma Leaves.separator {t : Token} {ts : List Token} (h : Leaves .elements ts)
    (ht : t.isOp [",", ";"] = true) : Leaves .elements (t :: ts) := by
  obtain ⟨es, hes⟩ := h
  have hopen : t.closes = false := isOp_disjoint ht (by decide)
  by_cases hcomma : t.isOp [","] = true
  · refine ⟨es, fun close rest hc => ?_⟩
    rw [List.cons_append, outcome_readElements, if_neg (by simp [hopen]), if_pos hcomma]
    exact hes close rest hc
  · refine ⟨.item unsupported es, fun close rest hc => ?_⟩
    have hstops : t.isOp terminators = true := isOp_of_subset ht (by decide)
    have hread : outcome (read (t :: (ts ++ close :: rest))) =
        (unsupported, t :: (ts ++ close :: rest)) := by
      rw [outcome_read, readOperand_terminator hstops, readChain_terminator _ hstops]
    rw [List.cons_append, readElements_item hopen (by simp_all [isOp]) hread
      (isOp_disjoint ht (by decide)), if_neg (Nat.lt_irrefl _), hes close rest hc]

/-- Elements that are taken out of another array are skipped up to the next comma. -/
lemma Leaves.spread {t : Token} {us ts : List Token} (h : Leaves .elements ts)
    (ht : t.isOp ["..."] = true) (hrun : Run [","] us) (hgo : GoesOn [","] ts) :
    Leaves .elements (t :: (us ++ ts)) := by
  obtain ⟨es, hes⟩ := h
  refine ⟨es, fun close rest hc => ?_⟩
  have hopen : t.closes = false := isOp_disjoint ht (by decide)
  have hcomma : t.isOp [","] = false := isOp_disjoint ht (by decide)
  have hskip : skipUntil [","] (ts ++ close :: rest) = ts ++ close :: rest := by
    obtain ⟨stop, more, heq, hs | rfl⟩ := hgo.append close rest
    · rw [heq, skipUntil_stop hs]
    · rw [heq, skipUntil_closes hc]
  rw [List.cons_append, outcome_readElements, if_neg (by simp [hopen]), if_neg (by simp [hcomma]),
    if_pos ht, List.append_assoc, skipUntil_run hrun, hskip]
  exact hes close rest hc

/-- An element without a key is read apart from those behind it. -/
lemma Leaves.item {t : Token} {us ts : List Token} (h : Leaves .elements ts)
    (ht : t.isOp [",", "..."] = false) (hopen : t.closes = false) (he : Separate (t :: us))
    (hgo : GoesOn [",", ";"] ts) : Leaves .elements (t :: us ++ ts) := by
  obtain ⟨es, hes⟩ := h
  refine ⟨.item (alone (t :: us)) es, fun close rest hc => ?_⟩
  obtain ⟨stop, more, heq, hs⟩ := hgo.append close rest
  have hstops : stop.isOp terminators = true ∧ stop.isOp ["=>"] = false := by
    obtain hs | rfl := hs
    · exact ⟨isOp_of_subset hs (by decide), isOp_disjoint hs (by decide)⟩
    · exact ⟨terminates_of_closes hc, isOp_disjoint hc (by decide)⟩
  have hread := he stop more hstops.1
  have hlt : more.length < (us ++ stop :: more).length := by
    rw [List.length_append, List.length_cons]
    omega
  rw [List.cons_append] at hread
  rw [List.append_assoc, heq, List.cons_append, readElements_item hopen ht hread hstops.2,
    if_pos hlt, ← heq, hes close rest hc]

/-- An element with a key is read apart from those behind it. -/
lemma Leaves.keyed {key value ts : List Token} {arrow : Token} (h : Leaves .elements ts)
    (hgo : GoesOnWithout [",", "..."] key) (hopen : ∀ t us, key = t :: us → t.closes = false)
    (hkey : Separate key) (harrow : arrow.isOp ["=>"] = true) (hvalue : Separate value)
    (hgo' : GoesOn terminators ts) : Leaves .elements (key ++ arrow :: (value ++ ts)) := by
  obtain ⟨es, hes⟩ := h
  refine ⟨.pair (alone key) (alone value) es, fun close rest hc => ?_⟩
  obtain ⟨stop, more, heq, hs⟩ := hgo'.append close rest
  have hstops : stop.isOp terminators = true := by
    obtain hs | rfl := hs
    · exact hs
    · exact terminates_of_closes hc
  have hreadv := hvalue stop more hstops
  have hreadk := hkey arrow (value ++ stop :: more) (isOp_of_subset harrow (by decide))
  rw [List.append_assoc, List.cons_append, List.append_assoc, heq]
  -- an element without tokens before its arrow starts with the arrow
  cases key with
  | nil =>
    rw [List.nil_append] at hreadk ⊢
    rw [readElements_pair (isOp_disjoint harrow (by decide)) (isOp_disjoint harrow (by decide))
      hreadk harrow hreadv, ← heq, hes close rest hc]
  | cons t key =>
    rw [List.cons_append] at hreadk ⊢
    rw [readElements_pair (hopen t key rfl) (hgo t rfl) hreadk harrow hreadv, ← heq,
      hes close rest hc]

/-- The readers find the end of a delimited part. -/
theorem Delimited.leaves {p : Part} {ts : List Token} (h : Delimited p ts) : Leaves p ts := by
  induction h with
  | nothing =>
    intro f
    refine ⟨f unsupported, fun stop rest hs => ?_⟩
    rw [List.nil_append, readOperand_terminator hs]
    exact readChain_terminator _ hs rest
  | @skipped t ts hk hb hrun =>
    intro f
    refine ⟨f unsupported, fun stop rest hs => ?_⟩
    rw [List.cons_append, readOperand_skipped hk hb, ← List.cons_append, skipUntil_run hrun,
      skipUntil_stop hs]
    exact readChain_terminator _ hs rest
  | @literal t ts hk _ ih =>
    simp only [List.mem_cons, List.not_mem_nil, or_false] at hk
    rcases hk with hk | hk | hk | hk
    · refine leaves_of_operand (o := ofString t) ih fun stop rest hs => ?_
      rw [List.cons_append, outcome_readOperand, hk]
    · refine leaves_of_operand (o := ofNumber t.text) ih fun stop rest hs => ?_
      rw [List.cons_append, outcome_readOperand, hk]
    · refine leaves_of_operand (o := .variable t.text) ih fun stop rest hs => ?_
      rw [List.cons_append, outcome_readOperand, hk]
    · refine leaves_of_operand (o := unsupported) ih fun stop rest hs => ?_
      rw [List.cons_append, outcome_readOperand, hk]
  | @constant w ts hw hword _ ih =>
    obtain ⟨e, he⟩ := Option.ne_none_iff_exists'.1 hword
    exact leaves_of_named hw ih fun stop rest _ => readNamed_of_word he _
  | @name w ts hw hgo _ ih =>
    refine leaves_of_named (o := (ofWord? (Text.lower w.text)).getD unsupported) hw ih
      fun stop rest hs => ?_
    obtain ⟨t, us, heq, ht⟩ := hgo.append (by decide) hs rest
    have hround : t.isOp ["("] = false := isOp_eq_false_of_subset ht (by decide)
    have hcolons : t.isOp ["::"] = false := isOp_eq_false_of_subset ht (by decide)
    rw [heq, outcome_readNamed, if_neg (by simp [hround]), if_neg (by simp [hcolons])]
    cases ofWord? (Text.lower w.text) <;> rfl
  | call hw hword hname ho hrun hc _ ih =>
    refine leaves_of_named (o := unsupported) hw ih fun stop rest _ => ?_
    rw [List.cons_append, List.append_assoc, List.cons_append,
      readNamed_call hword hname ho hrun hc]
  | @array w o inner c ts hw hname ho _ hc _ ihi ih =>
    obtain ⟨es, hes⟩ := ihi
    refine leaves_of_named (o := .array es) hw ih fun stop rest _ => ?_
    rw [List.cons_append, List.append_assoc, List.cons_append, outcome_readNamed, hname]
    show (if o.isOp ["("] = true then _ else _) = _
    rw [if_pos ho, if_pos rfl, hes c _ hc]
  | @parent w o path c ts hw hname ho _ hc _ ihp ih =>
    refine leaves_of_named (o := .parent (alone path) (.constant (.integer 1))) hw ih
      fun stop rest _ => ?_
    rw [List.cons_append, List.append_assoc, List.cons_append, readNamed_dirname hname ho,
      readParent_single ihp.separate hc]
  | @parentLevels w o path comma levels c ts hw hname ho _ hcomma _ hc _ ihp ihl ih =>
    refine leaves_of_named (o := .parent (alone path) (alone levels)) hw ih fun stop rest _ => ?_
    rw [List.cons_append, List.append_assoc, List.cons_append, List.append_assoc,
      List.cons_append, readNamed_dirname hname ho,
      readParent_levels ihp.separate hcomma ihl.separate hc]
  | @member w colons m ts hw hword hcolons hm _ ih =>
    refine leaves_of_named
      (o := if m.isKeyword ["class"] then .className w.text else unsupported) hw ih
      fun stop rest hs => ?_
    have hround : colons.isOp ["("] = false := isOp_disjoint hcolons (by decide)
    rw [List.cons_append, List.cons_append, outcome_readNamed, hword]
    simp only
    rw [if_neg (by simp [hround]), if_pos hcolons,
      readMember_single w.text m (hm.imp_right fun h => h.append (by decide) hs rest)]
  | @method w colons m o inner c ts hw hword hcolons hm ho hrun hc _ ih =>
    refine leaves_of_named (o := unsupported) hw ih fun stop rest _ => ?_
    have hround : colons.isOp ["("] = false := isOp_disjoint hcolons (by decide)
    simp only [List.cons_append]
    rw [outcome_readNamed, hword]
    simp only
    rw [if_neg (by simp [hround]), if_pos hcolons, readMember_call w.text hm ho,
      List.append_assoc, List.cons_append, skipGroup_group (isOp_of_subset ho (by decide)) hrun hc]
  | @brackets o inner c ts ho _ hc _ ihi ih =>
    obtain ⟨es, hes⟩ := ihi
    refine leaves_of_operand (o := .array es) ih fun stop rest _ => ?_
    rw [List.cons_append, List.append_assoc, List.cons_append, outcome_readOperand,
      (isOp_iff.1 ho).1]
    simp only
    rw [if_pos ho, hes c _ hc]
  | @group o inner c ts ho _ hc _ ihi ih =>
    have he := ihi.separate
    refine leaves_of_operand (o := alone inner) ih fun stop rest _ => ?_
    have hsquare : o.isOp ["["] = false := isOp_disjoint ho (by decide)
    rw [List.cons_append, List.append_assoc, List.cons_append, outcome_readOperand,
      (isOp_iff.1 ho).1]
    simp only
    rw [if_neg (by simp [hsquare]), if_pos ho, he c _ (isOp_of_subset hc (by decide)),
      dropClose_cons, if_pos hc]
  | done =>
    intro left
    exact ⟨left, fun stop rest hs => readChain_terminator left hs rest⟩
  | @point t ts ht _ ih =>
    intro left
    obtain ⟨e, he⟩ := ih (.concat left)
    refine ⟨e, fun stop rest hs => ?_⟩
    have hgoes : t.isOp terminators = false := isOp_disjoint ht (by decide)
    rw [List.cons_append, outcome_readChain, if_neg (by simp [hgoes]), if_pos ht]
    exact he stop rest hs
  | @discarded t ts ht hrun =>
    intro left
    refine ⟨.discarded left, fun stop rest hs => ?_⟩
    rw [List.cons_append, outcome_readChain, if_neg (by simp [hrun.head.1]),
      if_neg (by simp [ht]), ← List.cons_append, skipUntil_run hrun, skipUntil_stop hs]
  | empty =>
    refine ⟨.nil, fun close rest hc => ?_⟩
    rw [List.nil_append, outcome_readElements, if_pos hc]
  | separator ht _ ih => exact ih.separator ht
  | spread ht hrun hgo _ ih => exact ih.spread ht hrun hgo
  | item ht he hgo _ ihe ih => exact ih.item ht he.closes_head ihe.separate hgo
  | keyed hgo hkey harrow _ hgo' _ ihk ihv ih =>
    exact ih.keyed hgo (fun t us hus => (hus ▸ hkey).closes_head) ihk.separate harrow
      ihv.separate hgo'

/-- Delimited tokens are read as the same expression whatever stands behind them. -/
theorem Delimited.separate {ts : List Token} (h : Delimited .expression ts) : Separate ts :=
  h.leaves.separate

end RouteAudit.Source.Expr
