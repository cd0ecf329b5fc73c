import RouteAudit.Proofs.Source.Token.Place
import RouteAudit.Source.Declaration.Parser

/-!
# Declarations do not depend on places

The texts of the classes of a source depend on its tokens, and not on where these stand
(`readAll_unplaced`).  On the way there are equations that say what the readers return, where the
definitions also prove that the readers end.
-/

namespace RouteAudit.Source
open Token

namespace UseClause

/-- The mark of a group is one wherever it stands. -/
@[simp]
lemma isGroupMark_unplaced (t : Token) : isGroupMark t.unplaced = isGroupMark t := rfl

/-- Items are read alike wherever they stand. -/
@[simp]
lemma readItems_unplaced (start : String) (scope : NameScope) (ts : List Token) :
    readItems start scope (ts.map unplaced) =
      forget (readItems start scope ts) := by
  fun_induction readItems start scope ts <;>
    (first | rfl | (rw [List.map_cons, readItems.eq_def]; simp_all))

/-- A use clause is read alike wherever it stands. -/
@[simp]
lemma read_unplaced (scope : NameScope) (ts : List Token) :
    read scope (ts.map unplaced) = forget (read scope ts) := by
  cases ts with
  | nil => rfl
  | cons t ts =>
    rw [List.map_cons, read, ← List.map_cons, isKeyword_unplaced, skipPast_unplaced,
      readItems_unplaced, read]
    split <;> rfl

end UseClause

/-- The value of a string is the same wherever it stands. -/
@[simp]
lemma Token.stringValue?_unplaced (t : Token) : t.unplaced.stringValue? = t.stringValue? := rfl

namespace Declaration

/-- Traits are read alike wherever they stand. -/
@[simp]
lemma readTraits_unplaced (scope : NameScope) (ts : List Token) :
    readTraits scope (ts.map unplaced) = forget (readTraits scope ts) := by
  fun_induction readTraits scope ts <;>
    (first | rfl | (rw [List.map_cons, readTraits.eq_def]; simp_all))

/-- A name is one wherever it stands. -/
@[simp]
lemma nameOf?_unplaced (t : Token) : nameOf? t.unplaced = nameOf? t := rfl

/-- The name of a method is read alike wherever it stands. -/
@[simp]
lemma readMethodName_unplaced (ts : List Token) :
    readMethodName (ts.map unplaced) = forget (readMethodName ts) := by
  fun_cases readMethodName ts <;> simp_all [readMethodName]

/-- A literal is one wherever it stands. -/
@[simp]
lemma literal?_unplaced (ts : List Token) : literal? (ts.map unplaced) = literal? ts := by
  match ts with
  | [] => rfl
  | [_] => rfl
  | _ :: _ :: _ => rfl

/-- What is read as a default, and what is left. -/
lemma outcome_readDefault (t : Token) (ts : List Token) :
    outcome (readDefault (t :: ts)) =
      if t.isOp ["="] then (literal? ts, skipUntil [",", ";"] ts) else (none, t :: ts) := by
  simp only [readDefault, skipTo]
  split <;> rfl

/-- Properties are read default by default. -/
lemma outcome_readProperties (name : String) (ts : List Token) :
    outcome (readProperties name ts) =
      match outcome (readDefault ts) with
      | (default, []) => ([(name, default)], [])
      | (default, t :: r) =>
        if t.isOp [","] then
          match r with
          | [] => ([(name, default)], [])
          | next :: r =>
            if next.kind = .variable then
              let (properties, r') := outcome (readProperties (Text.dropFirst 1 next.text) r)
              ((name, default) :: properties, r')
            else ([(name, default)], r)
        else if t.isOp [";"] then ([(name, default)], r)
        else ([(name, default)], skipPast [";"] r) := by
  rw [readProperties]
  obtain ⟨default, r, hr⟩ := readDefault ts
  cases r with
  | nil => rfl
  | cons t r =>
    simp only [outcome]
    split
    · cases r with
      | nil => rfl
      | cons next r =>
        simp only
        split <;> rfl
    · split <;> rfl

/-- A default is read alike wherever it stands. -/
lemma readDefault_unplaced (ts : List Token) :
    outcome (readDefault (ts.map unplaced)) = forget (outcome (readDefault ts)) := by
  cases ts with
  | nil => rfl
  | cons t ts =>
    rw [List.map_cons, outcome_readDefault, literal?_unplaced, skipUntil_unplaced, isOp_unplaced,
      outcome_readDefault, apply_ite forget]
    rfl

/-- Properties are read alike wherever they stand. -/
lemma readProperties_unplaced (name : String) (ts : List Token) :
    outcome (readProperties name (ts.map unplaced)) =
      forget (outcome (readProperties name ts)) := by
  rw [outcome_readProperties, readDefault_unplaced, outcome_readProperties name ts]
  rcases hd : outcome (readDefault ts) with ⟨default, _ | ⟨t, r⟩⟩
  · rfl
  · -- the recursion is on what is left behind a default
    have hlen : r.length < ts.length := by
      have hle := (readDefault ts).2.2
      rw [show (readDefault ts).2.1 = t :: r from congrArg Prod.snd hd] at hle
      exact hle
    simp only [forget_mk, List.map_cons, isOp_unplaced, skipPast_unplaced]
    split
    · cases r with
      | nil => rfl
      | cons next r =>
        simp only [List.map_cons, kind_unplaced, text_unplaced]
        by_cases hn : next.kind = .variable
        · rw [if_pos hn, if_pos hn, readProperties_unplaced _ r]
          rfl
        · rw [if_neg hn, if_neg hn]
          rfl
    · split <;> rfl
  termination_by ts.length
  decreasing_by simp only [List.length_cons] at hlen; omega

/-- What the first token of a class body makes of the members. -/
lemma readMembers_cons (scope : NameScope) (hidden : Bool) (m : Members) (t : Token)
    (ts : List Token) :
    readMembers scope hidden m (t :: ts) =
      if t.isOp ["\x7d"] then (m, ts)
      else if t.isOp ["#[", "\x7b"] then readMembers scope hidden m (skipGroup (t :: ts))
      else if t.isKeyword ["use"] then
        readMembers scope false { m with traits := m.traits ++ (readTraits scope ts).1 }
          (readTraits scope ts).2
      else if t.isKeyword ["function"] then
        readMembers scope false
          { m with methods := m.methods ++ (readMethodName ts).1.toList.map (⟨·, hidden⟩) }
          (skipBody (readMethodName ts).2)
      else if t.isKeyword ["const", "case"] then
        readMembers scope false m (skipPast [";"] ts)
      else if t.kind = .variable then
        readMembers scope false
          { m with
            properties := m.properties ++
              (outcome (readProperties (Text.dropFirst 1 t.text) ts)).1 }
          (outcome (readProperties (Text.dropFirst 1 t.text) ts)).2
      else readMembers scope (hidden || t.isKeyword ["private", "protected"]) m ts := by
  rw [readMembers]
  rfl

/-- Members are read alike wherever they stand. -/
@[simp]
lemma readMembers_unplaced (scope : NameScope) (hidden : Bool) (m : Members) (ts : List Token) :
    readMembers scope hidden m (ts.map unplaced) = forget (readMembers scope hidden m ts) := by
  fun_induction readMembers scope hidden m ts
  case case1 => rw [List.map_nil, readMembers, forget_mk, List.map_nil]
  case case7 h₁ h₂ h₃ h₄ h₅ h₆ properties r hr hp ih =>
    rw [List.map_cons, readMembers_cons, text_unplaced, readProperties_unplaced, hp]
    simp_all [outcome]
  all_goals
    rw [List.map_cons, readMembers_cons]
    simp_all +zetaDelta

/-- A header is read alike wherever it stands. -/
@[simp]
lemma readHeader_unplaced (scope : NameScope) (kind : ClassKind) (parent : Option String)
    (ts : List Token) :
    readHeader scope kind parent (ts.map unplaced) = forget (readHeader scope kind parent ts) := by
  fun_induction readHeader scope kind parent ts <;>
    (first | rfl | (rw [List.map_cons, readHeader.eq_def]; simp_all +zetaDelta))

/-- A declaration is read alike wherever it stands. -/
@[simp]
lemma readOne_unplaced (scope : NameScope) (kind : ClassKind) (isAbstract : Bool) (name : String)
    (ts : List Token) :
    readOne scope kind isAbstract name (ts.map unplaced) =
      forget (readOne scope kind isAbstract name ts) := by
  simp only [readOne, readHeader_unplaced, readMembers_unplaced, forget]

/-- A token starts an expression wherever it stands. -/
@[simp]
lemma startsExpression_unplaced (t : Token) :
    startsExpression t.unplaced = startsExpression t := by
  simp [startsExpression]

/-- A keyword has its kind wherever it stands. -/
@[simp]
lemma kindOf?_unplaced (t : Token) : kindOf? t.unplaced = kindOf? t := by
  simp [kindOf?]

/-- A name is simple wherever it stands. -/
@[simp]
lemma isSimpleName_unplaced (t : Token) : isSimpleName t.unplaced = isSimpleName t := by
  simp [isSimpleName]

/-- A declaration opens wherever it stands. -/
@[simp]
lemma opening?_unplaced (inExpression : Bool) (t : Token) (ts : List Token) :
    opening? inExpression t.unplaced (ts.map unplaced) = opening? inExpression t ts := by
  rw [opening?.eq_def, opening?.eq_def, kindOf?_unplaced]
  cases kindOf? t with
  | none => cases ts <;> rfl
  | some kind => cases ts <;> simp

/-- What the first token of a source makes of the classes behind it. -/
lemma readAll_cons (scope : NameScope) (isAbstract inExpression : Bool) (t : Token)
    (ts : List Token) :
    readAll scope isAbstract inExpression (t :: ts) =
      if t.isKeyword ["namespace"] then
        match ts with
        | [] => []
        | name :: ts =>
          if name.kind = .name then
            readAll (.entering name.text) false (startsExpression name) ts
          else readAll (.entering "") false false (name :: ts)
      else if t.isKeyword ["use"] then
        readAll (UseClause.read scope ts).1 isAbstract false (UseClause.read scope ts).2
      else if t.isKeyword ["abstract", "final", "readonly"] then
        readAll scope (isAbstract || t.isKeyword ["abstract"]) false ts
      else
        match opening? inExpression t ts with
        | some (kind, name) =>
          (readOne scope kind isAbstract name (ts.drop 1)).1 ::
            readAll scope false false (readOne scope kind isAbstract name (ts.drop 1)).2
        | none =>
          if t.isKeyword ["function"] then readAll scope false false (skipBody ts)
          else if t.isOp ["#["] then readAll scope isAbstract false (skipGroup (t :: ts))
          else readAll scope false (startsExpression t) ts :=
  (readAll.eq_def scope isAbstract inExpression (t :: ts)).trans rfl

/-- The classes of a source are the same without places. -/
@[simp]
theorem readAll_unplaced (scope : NameScope) (isAbstract inExpression : Bool) (ts : List Token) :
    readAll scope isAbstract inExpression (ts.map unplaced) =
      readAll scope isAbstract inExpression ts := by
  fun_induction readAll scope isAbstract inExpression ts
  case case1 => rw [List.map_nil, readAll]
  all_goals
    rw [List.map_cons, readAll_cons]
    simp_all [← List.map_tail]

/-- Sources with the same tokens have the same declarations, wherever the tokens stand. -/
theorem parse_congr {source source' : List Char} (path : Option Path)
    (h : (Token.scan source).map unplaced = (Token.scan source').map unplaced) :
    parse path source = parse path source' := by
  rw [parse, texts, ← readAll_unplaced, h, readAll_unplaced, ← texts, ← parse]

end Declaration

end RouteAudit.Source
