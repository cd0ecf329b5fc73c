import RouteAudit.Proofs.Source.Declaration.Place
import RouteAudit.Proofs.Source.Grammar.Word

/-!
# The members of a class

The grammar of class members, what each member adds to a class, and the proof that the reader of
members adds the same (`readMembers_members`).  Values, parameter lists, bodies, attributes and
conflict blocks are arbitrary balanced runs of tokens.
-/

namespace RouteAudit.Source.Grammar
open Token Declaration

/-! ## The grammar -/

/-- An attribute or a modifier. -/
inductive Mark (modifiers : List String) where
  | attributes (content : Balanced)
  | modifier (word : OneOf modifiers)

/-- The modifiers of members. -/
def memberModifiers : List String :=
  ["public", "protected", "private", "static", "abstract", "final", "readonly", "var"]

/-- The keywords that mean something else than a type inside of a class. -/
def memberKeywords : List String :=
  ["use", "function", "const", "case", "private", "protected"]

/-- Whether a token can be part of a type. -/
def IsTypePart (t : Token) : Prop :=
  (t.kind = .name ∧ Text.lower t.text ∉ memberKeywords) ∨
    (t.kind = .op ∧ t.text ∈ ["?", "|", "&", "(", ")"])

/-- A type. -/
structure TypeText where
  tokens : List Token
  stand : AllStand tokens
  parts : ∀ t ∈ tokens, IsTypePart t
  run : Run [] tokens

/-- A value: it has no comma and no semicolon outside of its brackets. -/
abbrev ValueText := Words [",", ";"]

/-- A constant. -/
structure Constant where
  name : Name
  value : ValueText

/-- A property, possibly with a default. -/
structure Property where
  name : Variable
  value? : Option ValueText

/-- A parameter list, a result type and a body: what a function has behind its name. -/
structure Signature where
  parameters : Balanced
  result? : Option TypeText
  /-- Without a body, a semicolon ends the function. -/
  body? : Option Balanced

/-- What a member is, apart from its marks. -/
inductive Item where
  /-- Trait uses, with or without a conflict block. -/
  | traits (keyword : Keyword "use") (first : Name) (more : List Name)
    (conflicts? : Option Balanced)
  | constants (keyword : Keyword "const") (type : TypeText) (first : Constant)
    (more : List Constant)
  | enumCase (keyword : Keyword "case") (name : Name) (value? : Option ValueText)
  | properties (type : TypeText) (first : Property) (more : List Property)
  | method (keyword : Keyword "function") (byReference : Bool) (name : Name)
    (signature : Signature)

/-- A member with the attributes and modifiers in front of it. -/
structure Member where
  marks : List (Mark memberModifiers)
  item : Item

/-! ## How it is written -/

/-- The tokens of an attribute. -/
def attributeTokens (content : Balanced) : List Token :=
  op "#[" :: (content.tokens ++ [op "]"])

/-- The tokens of a mark. -/
def Mark.tokens {modifiers : List String} : Mark modifiers → List Token
  | attributes content => attributeTokens content
  | modifier word => [word.token]

/-- The tokens of a value behind its sign. -/
def valueTokens : Option ValueText → List Token
  | none => []
  | some value => op "=" :: value.tokens

/-- The tokens of a group in braces. -/
def braces (content : List Token) : List Token :=
  op "\x7b" :: (content ++ [op "\x7d"])

/-- The tokens of a constant. -/
def Constant.tokens (c : Constant) : List Token :=
  c.name.token :: op "=" :: c.value.tokens

/-- The tokens of a property. -/
def Property.tokens (p : Property) : List Token :=
  p.name.token :: valueTokens p.value?

/-- The tokens of a result type. -/
def resultTokens : Option TypeText → List Token
  | none => []
  | some type => op ":" :: type.tokens

/-- The tokens of a body, or of none. -/
def blockTokens : Option Balanced → List Token
  | none => [op ";"]
  | some block => braces block.tokens

/-- The tokens of what a function has between its name and its body. -/
def Signature.head (s : Signature) : List Token :=
  op "(" :: (s.parameters.tokens ++ op ")" :: resultTokens s.result?)

/-- The tokens of a signature with its body. -/
def Signature.tokens (s : Signature) : List Token :=
  s.head ++ blockTokens s.body?

/-- The token that marks a reference. -/
def referenceTokens (byReference : Bool) : List Token :=
  if byReference then [op "&"] else []

/-- The tokens of what is declared. -/
def Item.tokens : Item → List Token
  | traits keyword first more conflicts? =>
    keyword.token :: (commas (fun name => [name.token]) first more ++ blockTokens conflicts?)
  | constants keyword type first more =>
    keyword.token :: (type.tokens ++ (commas Constant.tokens first more ++ [op ";"]))
  | enumCase keyword name value? => keyword.token :: name.token :: (valueTokens value? ++ [op ";"])
  | properties type first more => type.tokens ++ (commas Property.tokens first more ++ [op ";"])
  | method keyword byReference name signature =>
    keyword.token :: (referenceTokens byReference ++ name.token :: signature.tokens)

/-- The tokens of a member. -/
def Member.tokens (m : Member) : List Token :=
  m.marks.flatMap Mark.tokens ++ m.item.tokens

/-! ## What it means -/

/-- The string that a value is, if it is nothing but a string literal. -/
def literal? (value? : Option ValueText) : Option String :=
  match value?.map (·.tokens) with
  | some [t] => t.stringValue?
  | _ => none

/-- Whether a mark keeps its member from the outside. -/
def Mark.hides : Mark memberModifiers → Bool
  | attributes _ => false
  | modifier word => ["private", "protected"].contains (Text.lower word.text)

/-- Whether a member is kept from the outside. -/
def Member.isHidden (m : Member) : Bool :=
  m.marks.any Mark.hides

/-- The full names of the traits that a member uses. -/
def Member.traits (scope : NameScope) (m : Member) : List String :=
  match m.item with
  | .traits _ first more _ => (first :: more).map (scope.resolve ·.text)
  | _ => []

/-- The name of the method that a member is, if it is one. -/
def Member.methods (m : Member) : List String :=
  match m.item with
  | .method _ _ name _ => [name.text]
  | _ => []

/-- What a property means. -/
def Property.entry (p : Property) : String × Option String :=
  (Text.dropFirst 1 p.name.text, literal? p.value?)

/-- The properties that a member is, with their defaults. -/
def Member.properties (m : Member) : List (String × Option String) :=
  match m.item with
  | .properties _ first more => (first :: more).map Property.entry
  | _ => []

/-- The members of a class with a further one. -/
def Member.addTo (scope : NameScope) (members : Members) (m : Member) : Members where
  traits := members.traits ++ m.traits scope
  methods := members.methods ++ m.methods.map (⟨·, m.isHidden⟩)
  properties := members.properties ++ m.properties

/-! ## How it is read -/

/-- Only a token of a string has a value. -/
lemma stringValue?_eq_none {t : Token} (h : t.kind ≠ .string) : t.stringValue? = none :=
  if_neg h

/-- A value is a string if it is nothing but a string literal. -/
lemma literal?_value (value : ValueText) {t : Token} (ht : t.isOp [",", ";"] = true)
    (rest : List Token) :
    Declaration.literal? (value.tokens ++ t :: rest) = literal? (some value) := by
  have hop : t.kind = .op := (isOp_iff.1 ht).1
  obtain ⟨tokens, stand, run⟩ := value
  match tokens with
  | [] =>
    cases rest with
    | nil => rfl
    | cons after rest =>
      show (if after.isOp [",", ";"] then t.stringValue? else none) = none
      rw [stringValue?_eq_none (by simp [hop]), ite_self]
  | [a] =>
    show (if t.isOp [",", ";"] then a.stringValue? else none) = a.stringValue?
    rw [if_pos ht]
  | a :: b :: more =>
    show (if b.isOp [",", ";"] then a.stringValue? else none) = none
    rcases run.head.2 with ho | run
    · have ha : a.kind = .op := (isOp_iff.1 ho).1
      rw [stringValue?_eq_none (by simp [ha]), ite_self]
    · -- the second token is no separator, since the value has none
      rw [run.head.1]
      rfl

/-- A default is read up to the separator behind it. -/
lemma readDefault_value (value? : Option ValueText) {t : Token} (ht : t.isOp [",", ";"] = true)
    (rest : List Token) :
    outcome (readDefault (valueTokens value? ++ t :: rest)) = (literal? value?, t :: rest) := by
  cases value? with
  | none =>
    have hsign : t.isOp ["="] = false := by
      rw [← Bool.not_eq_true, isOp_iff]
      rintro ⟨-, h⟩
      have h' := (isOp_iff.1 ht).2
      simp_all
    rw [valueTokens, List.nil_append, outcome_readDefault, hsign]
    rfl
  | some value =>
    rw [valueTokens, List.cons_append, outcome_readDefault, if_pos (by simp),
      literal?_value value ht, skipUntil_run value.run, skipUntil_stop ht]

/-- A list of properties is read up to and with its semicolon. -/
lemma readProperties_commas (first : Property) (more : List Property) (rest : List Token) :
    ∃ ts, commas Property.tokens first more ++ op ";" :: rest = first.name.token :: ts ∧
      outcome (readProperties (Text.dropFirst 1 first.name.text) ts) =
        ((first :: more).map Property.entry, rest) := by
  induction more generalizing first with
  | nil =>
    refine ⟨valueTokens first.value? ++ op ";" :: rest, by rw [commas_nil]; rfl, ?_⟩
    rw [outcome_readProperties, readDefault_value _ (by simp)]
    rfl
  | cons next more ih =>
    obtain ⟨ts, hts, hread⟩ := ih next
    refine ⟨valueTokens first.value? ++ op "," :: next.name.token :: ts, ?_, ?_⟩
    · rw [commas_cons, List.append_assoc, List.cons_append, hts]
      rfl
    · rw [outcome_readProperties, readDefault_value _ (by simp)]
      simp only [isOp_op, kind_token, text_token, hread]
      rfl

section Members

variable (scope : NameScope) (hidden : Bool) (m : Members)

/-- A mark only counts for the next member. -/
lemma readMembers_mark (mark : Mark memberModifiers) (rest : List Token) :
    readMembers scope hidden m (mark.tokens ++ rest) =
      readMembers scope (hidden || mark.hides) m rest := by
  cases mark with
  | attributes content =>
    rw [Mark.tokens, attributeTokens, List.cons_append, List.append_assoc, List.singleton_append,
      readMembers_cons, if_neg (by simp), if_pos (by simp),
      skipGroup_op (by simp) content.run (by simp), Mark.hides, Bool.or_false]
  | modifier word =>
    have other : ∀ w ∈ memberModifiers, w ∉ ["use", "function", "const", "case"] := by decide
    have hw := other _ word.mem
    simp only [List.mem_cons, List.not_mem_nil, or_false, not_or] at hw
    rw [Mark.tokens, List.singleton_append, readMembers_cons]
    simp [hw, Mark.hides]

/-- The marks of a member are read one by one. -/
lemma readMembers_marks (marks : List (Mark memberModifiers)) (rest : List Token) :
    readMembers scope hidden m (marks.flatMap Mark.tokens ++ rest) =
      readMembers scope (hidden || marks.any Mark.hides) m rest := by
  induction marks generalizing hidden with
  | nil => rw [List.flatMap_nil, List.nil_append, List.any_nil, Bool.or_false]
  | cons mark marks ih =>
    rw [List.flatMap_cons, List.append_assoc, readMembers_mark, ih, List.any_cons, Bool.or_assoc]

/-- A type is passed over. -/
lemma readMembers_type {type : List Token} (h : ∀ t ∈ type, IsTypePart t) (rest : List Token) :
    readMembers scope hidden m (type ++ rest) = readMembers scope hidden m rest := by
  induction type with
  | nil => rfl
  | cons t type ih =>
    have hrest := ih fun t ht => h t (List.mem_cons_of_mem _ ht)
    rw [List.cons_append, readMembers_cons]
    rcases h t List.mem_cons_self with ⟨hk, ht⟩ | ⟨hk, ht⟩
    · simp only [memberKeywords, List.mem_cons, List.not_mem_nil, or_false, not_or] at ht
      simpa [isOp, isKeyword, hk, ht] using hrest
    · have hc : t.text ≠ "\x7d" ∧ t.text ≠ "#[" ∧ t.text ≠ "\x7b" := by
        simp only [List.mem_cons, List.not_mem_nil, or_false] at ht
        rcases ht with ht | ht | ht | ht | ht <;> simp [ht]
      have hw : ∀ words, t.isKeyword words = false := fun words => by
        rw [isKeyword, hk]
        rfl
      simpa [isOp, hw, hk, hc] using hrest

/-- The names of used traits are read up to and with what ends the clause. -/
lemma readTraits_commas (first : Name) (more : List Name) (conflicts? : Option Balanced)
    (rest : List Token) :
    readTraits scope (commas (fun name => [name.token]) first more ++
        (blockTokens conflicts? ++ rest)) =
      ((first :: more).map (scope.resolve ·.text), rest) := by
  have name : ∀ (w : Name) ts, readTraits scope (w.token :: ts) =
      (scope.resolve w.text :: (readTraits scope ts).1, (readTraits scope ts).2) := fun _ _ => rfl
  have comma : ∀ ts, readTraits scope (op "," :: ts) = readTraits scope ts := fun _ => rfl
  induction more generalizing first with
  | nil =>
    have block : readTraits scope (blockTokens conflicts? ++ rest) = ([], rest) := by
      cases conflicts? with
      | none => rfl
      | some conflicts =>
        rw [blockTokens, braces, List.cons_append, List.append_assoc, List.singleton_append,
          readTraits, if_neg (by simp), if_neg (by simp), if_pos (by simp),
          skipGroup_op (by simp) conflicts.run (by simp)]
    rw [commas_nil, List.singleton_append, name, block]
    rfl
  | cons next more ih =>
    rw [commas_cons, List.append_assoc, List.singleton_append, List.cons_append, name, comma, ih]
    rfl

end Members

/-- A type has no braces and no semicolons. -/
lemma TypeText.hasNoBlock (type : TypeText) : ∀ t ∈ type.tokens, t.isOp ["\x7b", ";"] = false := by
  intro t ht
  rw [← Bool.not_eq_true, isOp_iff]
  rintro ⟨hk, hs⟩
  rcases type.parts t ht with ⟨hn, -⟩ | ⟨-, hp⟩
  · rw [hk] at hn
    cases hn
  · simp only [List.mem_cons, List.not_mem_nil, or_false] at hs hp
    rcases hs with hs | hs <;> simp [hs] at hp

/-- A type is a run without braces and semicolons. -/
lemma TypeText.noBlock (type : TypeText) : Run ["\x7b", ";"] type.tokens :=
  type.run.avoid type.hasNoBlock

/-- A function is skipped up to and with its body. -/
lemma skipBody_block {head : List Token} (h : Run ["\x7b", ";"] head) (body? : Option Balanced)
    (rest : List Token) : skipBody (head ++ (blockTokens body? ++ rest)) = rest := by
  rw [skipBody, skipUntil_run h]
  cases body? with
  | none => rw [blockTokens, List.singleton_append, skipUntil_stop (by simp)]; rfl
  | some body =>
    rw [blockTokens, braces, List.cons_append, List.append_assoc, List.singleton_append,
      skipUntil_stop (by simp)]
    show skipGroup _ = rest
    exact skipGroup_op (by simp) body.run (by simp) rest

/-- What a function has in front of its body is a run without braces and semicolons. -/
lemma Signature.noBlock (signature : Signature) : Run ["\x7b", ";"] signature.head := by
  apply run_group (by simp) (by simp) signature.parameters.run (by simp)
  cases signature.result? with
  | none => exact .nil
  | some type => exact run_sign (by simp) (by simp) type.noBlock

/-- A constant has no semicolon. -/
lemma Constant.noEnd (c : Constant) : Run [";"] c.tokens :=
  run_name _ (run_sign (by simp) (by simp) (c.value.run.weaken (by simp)))

/-- A value behind its sign has no semicolon. -/
lemma valueTokens_noEnd (value? : Option ValueText) : Run [";"] (valueTokens value?) := by
  cases value? with
  | none => exact .nil
  | some value => exact run_sign (by simp) (by simp) (value.run.weaken (by simp))

/-- A member is read up to its end, and changes the members by what it means. -/
lemma readMembers_member (scope : NameScope) (m : Members) (member : Member) (rest : List Token) :
    readMembers scope false m (member.tokens ++ rest) =
      readMembers scope false (member.addTo scope m) rest := by
  rw [Member.tokens, List.append_assoc, readMembers_marks, Bool.false_or, ← Member.isHidden]
  simp only [Member.addTo, Member.traits, Member.methods, Member.properties]
  -- behind the marks a member is read by its keyword; a property has none
  generalize member.isHidden = hidden
  cases member.item with
  | traits keyword first more conflicts? =>
    simp only [Item.tokens, List.cons_append, List.append_assoc]
    rw [readMembers_cons, if_neg (by simp), if_neg (by simp), if_pos (by simp), readTraits_commas]
    simp
  | constants keyword type first more =>
    have run : Run [";"] (type.tokens ++ commas Constant.tokens first more) :=
      (type.noBlock.weaken (by simp)).append (run_commas Constant.noEnd (by simp) first more)
    simp only [Item.tokens, List.cons_append, List.append_assoc, List.nil_append]
    rw [readMembers_cons, if_neg (by simp), if_neg (by simp), if_neg (by simp), if_neg (by simp),
      if_pos (by simp), ← List.append_assoc, skipPast_run run (by simp)]
    simp
  | enumCase keyword name value? =>
    have run : Run [";"] (name.token :: valueTokens value?) := run_name _ (valueTokens_noEnd value?)
    simp only [Item.tokens, List.cons_append, List.append_assoc, List.nil_append]
    rw [readMembers_cons, if_neg (by simp), if_neg (by simp), if_neg (by simp), if_neg (by simp),
      if_pos (by simp), ← List.cons_append, skipPast_run run (by simp)]
    simp
  | properties type first more =>
    obtain ⟨ts, hts, hread⟩ := readProperties_commas first more rest
    simp only [Item.tokens, List.append_assoc, List.singleton_append]
    rw [readMembers_type scope hidden m type.parts, hts, readMembers_cons, if_neg (by simp),
      if_neg (by simp), if_neg (by simp), if_neg (by simp), if_neg (by simp), if_pos (by simp),
      text_token, hread]
    simp
  | method keyword byReference name signature =>
    have hname : readMethodName (referenceTokens byReference ++
        name.token :: (signature.tokens ++ rest)) = (some name.text, signature.tokens ++ rest) := by
      cases byReference <;> rfl
    have hbody : skipBody (signature.tokens ++ rest) = rest := by
      rw [Signature.tokens, List.append_assoc, skipBody_block signature.noBlock]
    simp only [Item.tokens, List.cons_append, List.append_assoc]
    rw [readMembers_cons, if_neg (by simp), if_neg (by simp), if_neg (by simp), if_pos (by simp),
      hname, hbody]
    simp

/-- What the members of a class mean together. -/
lemma foldl_addTo (scope : NameScope) (m : Members) (members : List Member) :
    members.foldl (Member.addTo scope) m =
      { traits := m.traits ++ members.flatMap (Member.traits scope)
        methods := m.methods ++ members.flatMap fun a => a.methods.map (⟨·, a.isHidden⟩)
        properties := m.properties ++ members.flatMap Member.properties } := by
  induction members generalizing m with
  | nil => simp
  | cons a members ih => simp [ih, Member.addTo]

/-- The members of a class are read up to and with its closing brace. -/
theorem readMembers_members (scope : NameScope) (m : Members) (members : List Member)
    (rest : List Token) :
    readMembers scope false m (members.flatMap Member.tokens ++ op "\x7d" :: rest) =
      (members.foldl (Member.addTo scope) m, rest) := by
  induction members generalizing m with
  | nil => rw [List.flatMap_nil, List.nil_append, readMembers_cons, if_pos (by simp)]; rfl
  | cons a members ih => rw [List.flatMap_cons, List.append_assoc, readMembers_member, ih]; rfl

/-! ## It stands -/

/-- An attribute stands. -/
lemma allStand_attributeTokens (content : Balanced) : AllStand (attributeTokens content) := by
  simp [attributeTokens, content.stand, operators]

/-- A mark stands. -/
lemma Mark.allStand {modifiers : List String} (mark : Mark modifiers) : AllStand mark.tokens := by
  cases mark with
  | attributes content => exact allStand_attributeTokens content
  | modifier word => simp [tokens]

/-- A value stands. -/
lemma allStand_valueTokens (value? : Option ValueText) : AllStand (valueTokens value?) := by
  cases value? with
  | none => simp [valueTokens]
  | some value => simp [valueTokens, value.stand, operators]

/-- A body stands. -/
lemma allStand_blockTokens (block? : Option Balanced) : AllStand (blockTokens block?) := by
  cases block? with
  | none => simp [blockTokens, operators]
  | some block => simp [blockTokens, braces, block.stand, operators]

/-- A signature stands. -/
lemma Signature.allStand (s : Signature) : AllStand s.tokens := by
  have result : AllStand (resultTokens s.result?) := by
    cases s.result? with
    | none => simp [resultTokens]
    | some type => simp [resultTokens, type.stand, operators]
  simp [tokens, head, s.parameters.stand, result, allStand_blockTokens, operators]

/-- The mark of a reference stands. -/
lemma allStand_referenceTokens (byReference : Bool) : AllStand (referenceTokens byReference) := by
  cases byReference <;> simp [referenceTokens, operators]

/-- A member stands. -/
theorem Member.allStand (m : Member) : AllStand m.tokens := by
  rw [tokens, allStand_append]
  refine ⟨allStand_flatMap Mark.allStand m.marks, ?_⟩
  cases m.item with
  | traits keyword first more conflicts? =>
    have name (n : Name) : AllStand [n.token] := by simp
    have names := allStand_commas name first more
    simp [Item.tokens, names, allStand_blockTokens]
  | constants keyword type first more =>
    have constant (c : Constant) : AllStand c.tokens := by
      simp [Constant.tokens, c.value.stand, operators]
    simp [Item.tokens, type.stand, allStand_commas constant, operators]
  | enumCase keyword name value? => simp [Item.tokens, allStand_valueTokens, operators]
  | properties type first more =>
    have property (p : Property) : AllStand p.tokens := by
      simp [Property.tokens, allStand_valueTokens]
    simp [Item.tokens, type.stand, allStand_commas property, operators]
  | method keyword byReference name signature =>
    simp [Item.tokens, allStand_referenceTokens, signature.allStand]

end RouteAudit.Source.Grammar
