import RouteAudit.Proofs.Assoc
import RouteAudit.Proofs.Source.Grammar.Phrase

/-!
# The values of phrases

What the expressions of scripts mean, said without regard to how they are evaluated: every
expression has a value.  The evaluator gives that value (`eval_phrase`), as long as no integer, and
no key of an array that is the decimal form of a number, is beyond the limit of conversions
(`Phrase.WithinLimit`): it stops at such an integer when it turns it into text, and at such a key.
-/

namespace RouteAudit.Source.Grammar
open Text.Numeral (IntegerLiteral)

/-- What the value of an expression depends on. -/
structure Surroundings where
  scope : NameScope
  lookup : String → Value
  /-- The absolute path of the file, if the source is from a file. -/
  file : Option Path

/-! ## Values -/

/-- The text of a string or an integer. -/
def textOf? : Value → Option String
  | .text s => some s
  | .integer n => some (Nat.repr n)
  | _ => none

/-- The concatenation of two values, known if both have a text. -/
def join (left right : Value) : Value :=
  match textOf? left, textOf? right with
  | some s, some t => .text (s ++ t)
  | _, _ => .unresolved

/-- The directory of a path some levels up, known if the path is a text. -/
def directoryUp (levels : Nat) : Value → Value
  | .text path => .text (Nat.repeat Path.directoryText levels path)
  | _ => .unresolved

/-- The number whose decimal form a text is. -/
def numberOf? (s : String) : Option Nat :=
  let n := Nat.ofDigitChars 10 s.toList 0
  if Nat.repr n = s then some n else none

/-- The key that a value stands for, if it can be a key. -/
def keyOf? : Value → Option Key
  | .bool b => some (.index b.toNat)
  | .integer n => some (.index n)
  | .text s => some (((numberOf? s).map .index).getD (.text s))
  | _ => none

/-- The keys of the elements of an array, where those without a key take the next free index, and
those with a key that cannot be one are left out. -/
def place (next : Nat) : List (Option Value × Value) → List (Key × Value)
  | [] => []
  | (none, v) :: entries => (.index next, v) :: place (next + 1) entries
  | (some k, v) :: entries =>
    match keyOf? k with
    | some (.index n) => (.index n, v) :: place (max next (n + 1)) entries
    | some (.text s) => (.text s, v) :: place next entries
    | none => place next entries

/-- The array with the given elements: a list if none of them has a key. -/
def arrayOf (entries : List (Option Value × Value)) : Value :=
  if entries.all (·.1.isNone) then .list (entries.map (·.2))
  else .keyed (Assoc.ofList (place 0 entries))

/-! ## What phrases mean -/

/-- The value of an atom. -/
def Atom.value (σ : Surroundings) : Atom → Value
  | string s => .text s.value
  | integer l => ofNumeral l.reading
  | yes _ => .bool true
  | no _ => .bool false
  | null _ => .null
  | «variable» name => σ.lookup name.text
  | directory _ => (σ.file.map fun p => .text p.parent.toString).getD .unresolved
  | className name _ => .text (σ.scope.resolve name.text)

mutual

/-- The value of an expression. -/
def Phrase.value (σ : Surroundings) : Phrase → Value
  | .operand o => o.value σ
  | .concat left right => join (left.value σ) (right.value σ)

/-- The value of an operand. -/
def Operand.value (σ : Surroundings) : Operand → Value
  | .atom a => a.value σ
  | .brackets items => arrayOf (items.entries σ)
  | .array _ items => arrayOf (items.entries σ)
  | .group e => e.value σ
  | .parent _ path levels? => directoryUp (levelCount levels?) (path.value σ)

/-- The key and the value of an element. -/
def Entry.pair (σ : Surroundings) : Entry → Option Value × Value
  | .plain value => (none, value.value σ)
  | .keyed key value => (some (key.value σ), value.value σ)

/-- The keys and the values of the elements of an array. -/
def Items.entries (σ : Surroundings) : Items → List (Option Value × Value)
  | .done => []
  | .last e => [e.pair σ]
  | .more e rest => e.pair σ :: rest.entries σ

end

/-- Whether a key is not the decimal form of a number beyond the limit. -/
def KeyFits (key : Value) : Prop :=
  ∀ n, key = .text (Nat.repr n) → (Nat.repr n).length ≤ Text.digitLimit

/-- Whether an atom is no integer beyond the limit. -/
def Atom.WithinLimit : Atom → Prop
  | integer l => l.value < 10 ^ Text.digitLimit
  | _ => True

mutual

/-- Whether the integers of an expression and the keys of all its arrays are within the limit. -/
def Phrase.WithinLimit (σ : Surroundings) : Phrase → Prop
  | .operand o => o.WithinLimit σ
  | .concat left right => left.WithinLimit σ ∧ right.WithinLimit σ

/-- Whether the integers of an operand and the keys of all its arrays are within the limit. -/
def Operand.WithinLimit (σ : Surroundings) : Operand → Prop
  | .atom a => a.WithinLimit
  | .brackets items => items.WithinLimit σ
  | .array _ items => items.WithinLimit σ
  | .group e => e.WithinLimit σ
  | .parent _ path _ => path.WithinLimit σ

/-- Whether the key of an element is within the limit, and the integers and keys inside of it. -/
def Entry.WithinLimit (σ : Surroundings) : Entry → Prop
  | .plain value => value.WithinLimit σ
  | .keyed key value => key.WithinLimit σ ∧ value.WithinLimit σ ∧ KeyFits (key.value σ)

/-- Whether the keys and the integers of the elements of an array are within the limit. -/
def Items.WithinLimit (σ : Surroundings) : Items → Prop
  | .done => True
  | .last e => e.WithinLimit σ
  | .more e rest => e.WithinLimit σ ∧ rest.WithinLimit σ

end

/-! ## Keys -/

/-- A text is the decimal form of the number that is found in it. -/
lemma numberOf?_eq_some {s : String} {n : Nat} : numberOf? s = some n ↔ s = Nat.repr n := by
  constructor
  · intro h
    rw [numberOf?] at h
    split at h
    · next hs =>
      cases h
      exact hs.symm
    · cases h
  · rintro rfl
    rw [numberOf?, Nat.toList_repr, Nat.ofDigitChars_ten_toDigits, if_pos rfl]

/-- The evaluator takes the same keys. -/
lemma ofValue?_eq {k : Value} (h : KeyFits k) : Key.ofValue? k = .ok (keyOf? k) := by
  cases k with
  | text s =>
    cases hs : numberOf? s with
    | some n =>
      rw [numberOf?_eq_some] at hs
      subst hs
      have hn : numberOf? (Nat.repr n) = some n := numberOf?_eq_some.2 rfl
      rw [Key.ofValue?_repr ((Nat.length_repr_le_iff (by decide)).1 (h n rfl)), keyOf?, hn]
      rfl
    | none =>
      have hne : ∀ n, s ≠ Nat.repr n := by
        intro n e
        rw [numberOf?_eq_some.2 e] at hs
        cases hs
      rw [Key.ofValue?_text hne, keyOf?, hs]
      rfl
  | _ => rfl

/-- A text of at most as many characters as the limit is within the limit. -/
lemma keyFits_of_length_le {s : String} (h : s.length ≤ Text.digitLimit) : KeyFits (.text s) := by
  intro n e
  cases e
  exact h

/-! ## Arrays -/

/-- The array under construction with a further element. -/
def addElement (b : ArrayBuilder) : Option Value × Value → ArrayBuilder
  | (none, v) => b.push v
  | (some k, v) => b.insert (keyOf? k) v

/-- The elements of an array under construction are placed one after the other. -/
lemma entries_foldl_addElement (entries : List (Option Value × Value)) (b : ArrayBuilder) :
    (entries.foldl addElement b).entries =
      (place b.next entries).foldl (fun m p => Assoc.insert p.1 p.2 m) b.entries := by
  induction entries generalizing b with
  | nil => rfl
  | cons e entries ih =>
    rw [List.foldl_cons, ih]
    obtain ⟨_ | k, v⟩ := e
    · rfl
    · simp only [addElement, place]
      rcases keyOf? k with _ | ⟨n⟩ | ⟨s⟩ <;> rfl

/-- An array is keyed once an element has a key. -/
lemma isKeyed_foldl_addElement (entries : List (Option Value × Value)) (b : ArrayBuilder) :
    (entries.foldl addElement b).isKeyed = (b.isKeyed || !entries.all (·.1.isNone)) := by
  induction entries generalizing b with
  | nil => simp
  | cons e entries ih =>
    rw [List.foldl_cons, ih]
    obtain ⟨_ | k, v⟩ := e
    · simp [addElement, ArrayBuilder.push]
    · rw [addElement]
      rcases keyOf? k with _ | ⟨n⟩ | ⟨s⟩ <;> simp [ArrayBuilder.insert]

/-- Elements without keys come one after the other, since each takes an index that is new. -/
lemma values_foldl_addElement {entries : List (Option Value × Value)}
    (h : entries.all (·.1.isNone) = true) {b : ArrayBuilder}
    (hb : ∀ p ∈ b.entries, ∃ n < b.next, p.1 = .index n) :
    Assoc.values (entries.foldl addElement b).entries =
      Assoc.values b.entries ++ entries.map (·.2) := by
  induction entries generalizing b with
  | nil => simp
  | cons e entries ih =>
    obtain ⟨_ | k, v⟩ := e
    · -- all indices so far are below the next one, and they still are once it is taken
      have hnew : ∀ p ∈ b.entries, p.1 ≠ .index b.next := by
        intro p hp e
        obtain ⟨n, hn, hi⟩ := hb p hp
        rw [hi] at e
        cases e
        exact Nat.lt_irrefl _ hn
      have hpush : (b.push v).entries = b.entries ++ [(.index b.next, v)] :=
        Assoc.insert_of_new hnew v
      have hnext : ∀ p ∈ (b.push v).entries, ∃ n < (b.push v).next, p.1 = .index n := by
        intro p hp
        rw [hpush, List.mem_append, List.mem_singleton] at hp
        rcases hp with hp | rfl
        · obtain ⟨n, hn, hi⟩ := hb p hp
          exact ⟨n, Nat.lt_succ_of_lt hn, hi⟩
        · exact ⟨b.next, Nat.lt_succ_self _, rfl⟩
      rw [List.foldl_cons, addElement, ih (by simpa using h) hnext, hpush]
      simp [Assoc.values]
    · simp at h

/-- A list is built from elements without keys, and a map from all others. -/
lemma build_foldl_addElement (entries : List (Option Value × Value)) :
    (entries.foldl addElement {}).build = arrayOf entries := by
  rw [ArrayBuilder.build, isKeyed_foldl_addElement, arrayOf]
  by_cases h : entries.all (·.1.isNone) = true
  · rw [if_neg (by simp [h]), if_pos h, values_foldl_addElement h (by simp)]
    rfl
  · rw [if_pos (by simpa using h), if_neg h, entries_foldl_addElement]
    rfl

/-! ## Evaluation -/

/-- Whether a value is no integer beyond the limit. -/
def Fits (v : Value) : Prop :=
  ∀ n, v = .integer n → n < 10 ^ Text.digitLimit

/-- Values within the limit are joined without a fault. -/
lemma concat_eq {a b : Value} (ha : Fits a) (hb : Fits b) : a.concat b = .ok (join a b) := by
  have text {n : Nat} (h : n < 10 ^ Text.digitLimit) : decimalText n = .ok (Nat.repr n) := by
    rw [decimalText, Nat.pow_eq, if_neg (Nat.not_le.2 h)]
  cases a with
  | text s =>
    cases b with
    | integer n => rw [Value.concat, text (hb n rfl)]; rfl
    | _ => rfl
  | integer m =>
    cases b with
    | text t => rw [Value.concat, text (ha m rfl)]; rfl
    | integer n => rw [Value.concat, text (ha m rfl), text (hb n rfl)]; rfl
    | _ => rfl
  | _ => rfl

/-- The directory of a path some levels up. -/
lemma directory_eq (path : Value) {n : Nat} (h : 1 ≤ n) :
    path.directory (.integer n) = directoryUp n path := by
  have hn : n ≠ 0 := Nat.one_le_iff_ne_zero.1 h
  cases path with
  | text s => exact if_neg hn
  | _ => rfl

/-- At least one level is gone up. -/
lemma one_le_levelCount (levels? : Option Levels) : 1 ≤ levelCount levels? := by
  cases levels? with
  | none => exact Nat.le_refl 1
  | some n => exact n.pos

/-- Whether an environment of the evaluator is what an expression is read in, with all integers
within the limit. -/
structure Agrees (env : Env) (σ : Surroundings) : Prop where
  scope : env.scope = σ.scope
  lookup : ∀ x, (env.bindings.get? x).getD .unresolved = σ.lookup x
  file : env.file = σ.file
  fits : ∀ x, Fits (σ.lookup x)

/-- What an expression depends on if no statement stands before it. -/
def Surroundings.fresh (file : Option Path) : Surroundings where
  scope := {}
  lookup := fun _ => .unresolved
  file := file

/-- A fresh environment agrees with fresh surroundings. -/
lemma agrees_fresh (file : Option Path) : Agrees { file := file } (.fresh file) where
  scope := rfl
  lookup _ := rfl
  file := rfl
  fits x n e := by cases e

/-- An atom evaluates to its value. -/
lemma eval_atom {env : Env} {σ : Surroundings} (h : Agrees env σ) (a : Atom) :
    a.expr.eval env = .ok (a.value σ) := by
  cases a with
  | «variable» name => rw [Atom.expr, Expr.eval, h.lookup]; rfl
  | directory keyword => rw [Atom.expr, Expr.eval, h.file]; rfl
  | className name keyword => rw [Atom.expr, Expr.eval, h.scope]; rfl
  | _ => rw [Atom.expr, Expr.eval]; rfl

/-- What a literal within the limit is read as is within the limit. -/
lemma fits_reading {l : IntegerLiteral} (h : l.value < 10 ^ Text.digitLimit) :
    Fits (ofNumeral l.reading) := by
  intro n e
  rw [IntegerLiteral.reading] at e
  split at e
  · cases e
  · cases e
    exact h

/-- The value of an atom is within the limit. -/
lemma fits_atom {env : Env} {σ : Surroundings} (h : Agrees env σ) {a : Atom}
    (hw : a.WithinLimit) : Fits (a.value σ) := by
  cases a with
  | integer l => exact fits_reading hw
  | «variable» name => exact h.fits name.text
  | directory keyword =>
    intro m e
    cases hf : σ.file <;> simp [Atom.value, hf] at e
  | _ =>
    intro m e
    cases e

/-- No concatenation is an integer. -/
lemma fits_join (a b : Value) : Fits (join a b) := by
  intro n e
  rw [join] at e
  split at e <;> cases e

/-- No array is an integer. -/
lemma fits_arrayOf (entries : List (Option Value × Value)) : Fits (arrayOf entries) := by
  intro n e
  rw [arrayOf] at e
  split at e <;> cases e

/-- No path is an integer. -/
lemma fits_directoryUp (n : Nat) (path : Value) : Fits (directoryUp n path) := by
  intro m e
  cases path <;> cases e

mutual

/-- The value of an expression is within the limit. -/
lemma fits_phrase {env : Env} {σ : Surroundings} (h : Agrees env σ) (p : Phrase)
    (hw : p.WithinLimit σ) : Fits (p.value σ) := by
  match p with
  | .operand o => exact fits_operand h o hw
  | .concat left right => exact fits_join _ _

/-- The value of an operand is within the limit. -/
lemma fits_operand {env : Env} {σ : Surroundings} (h : Agrees env σ) (o : Operand)
    (hw : o.WithinLimit σ) : Fits (o.value σ) := by
  match o with
  | .atom a => exact fits_atom h hw
  | .brackets items => exact fits_arrayOf _
  | .array keyword items => exact fits_arrayOf _
  | .group e => exact fits_phrase h e hw
  | .parent keyword path levels? => exact fits_directoryUp _ _

end

mutual

/-- An expression evaluates to its value. -/
theorem eval_phrase {env : Env} {σ : Surroundings} (h : Agrees env σ) (p : Phrase)
    (hk : p.WithinLimit σ) : p.expr.eval env = .ok (p.value σ) := by
  match p with
  | .operand o => exact eval_operand h o hk
  | .concat left right =>
    rw [Phrase.expr, Expr.eval, eval_phrase h left hk.1, eval_operand h right hk.2]
    exact concat_eq (fits_phrase h left hk.1) (fits_operand h right hk.2)

/-- An operand evaluates to its value. -/
lemma eval_operand {env : Env} {σ : Surroundings} (h : Agrees env σ) (o : Operand)
    (hk : o.WithinLimit σ) : o.expr.eval env = .ok (o.value σ) := by
  match o with
  | .atom a => exact eval_atom h a
  | .brackets items =>
    rw [Operand.expr, Expr.eval, eval_items h items hk]
    exact congrArg _ (build_foldl_addElement _)
  | .array keyword items =>
    rw [Operand.expr, Expr.eval, eval_items h items hk]
    exact congrArg _ (build_foldl_addElement _)
  | .group e => exact eval_phrase h e hk
  | .parent keyword path levels? =>
    rw [Operand.expr, Expr.eval, eval_phrase h path hk, Expr.eval]
    exact congrArg _ (directory_eq _ (one_le_levelCount levels?))

/-- The elements of an array are added one after the other. -/
lemma eval_items {env : Env} {σ : Surroundings} (h : Agrees env σ) (items : Items)
    (hk : items.WithinLimit σ) (b : ArrayBuilder) :
    items.elements.eval env b = .ok ((items.entries σ).foldl addElement b) := by
  match items with
  | .done => rw [Items.elements, Elements.eval]; rfl
  | .last e => rw [Items.elements, eval_entry h e hk, Elements.eval]; rfl
  | .more e rest => rw [Items.elements, eval_entry h e hk.1, eval_items h rest hk.2]; rfl

/-- An element of an array is added to those before it. -/
lemma eval_entry {env : Env} {σ : Surroundings} (h : Agrees env σ) (e : Entry)
    (hk : e.WithinLimit σ) (rest : Elements) (b : ArrayBuilder) :
    (e.elements rest).eval env b = rest.eval env (addElement b (e.pair σ)) := by
  match e with
  | .plain value => rw [Entry.elements, Elements.eval, eval_phrase h value hk]; rfl
  | .keyed key value =>
    rw [Entry.elements, Elements.eval, eval_phrase h key hk.1, eval_phrase h value hk.2.1]
    show (do
      let key? ← Key.ofValue? (key.value σ)
      rest.eval env (b.insert key? (value.value σ))) = _
    rw [ofValue?_eq hk.2.2]
    rfl

end

end RouteAudit.Source.Grammar
