import RouteAudit.Proofs.Source.Execution.Datum
import RouteAudit.Proofs.Source.Execution.Literal
import RouteAudit.Proofs.Source.Grammar.Program

/-!
# Running a script

What a straight-line script does when it is run: it assigns expressions to variables, appends them
to variables, sets entries of variables, and returns an expression.  The evaluator sees the
assignments only.  A variable that it remembers is stale if it is changed in another way, or if it
was assigned an expression that is not reliable.  An expression is reliable if it reads no stale
variable, if its literals mean to the evaluator what they mean to the language, and if its keys are
known and taken for the right ones.  As long as the expression that is returned is reliable, its
value tells the truth (`evaluate_covers`).
-/

namespace RouteAudit.Source.Execution
open Grammar Token
open Text.Numeral (IntegerLiteral)

/-! ## Statements -/

/-- A statement that changes a variable. -/
inductive Step where
  | assign (target : Variable) (e : Phrase)
  | append (target : Variable) (e : Phrase)
  | setEntry (target : Variable) (key : StringLiteral) (e : Phrase)

/-- The tokens of a statement. -/
def Step.tokens : Step → List Token
  | assign target e => target.token :: op "=" :: (e.tokens ++ [op ";"])
  | append target e => target.token :: op "." :: op "=" :: (e.tokens ++ [op ";"])
  | setEntry target key e =>
    target.token :: op "[" :: key.token :: op "]" :: op "=" :: (e.tokens ++ [op ";"])

/-- What the variables hold; one that is not set holds null. -/
abbrev Memory := String → Datum

/-- What the variables hold once one of them holds something else. -/
def Memory.set (ρ : Memory) (x : String) (w : Datum) : Memory :=
  fun y => if y = x then w else ρ y

mutual

/-- What an expression computes, if it is made of literals, variables, arrays and concatenations. -/
inductive Computes (ρ : Memory) : Phrase → Datum → Prop where
  | operand {o w} :
    ComputesOperand ρ o w →
    Computes ρ (.operand o) w
  | concat {left right a b printed printed'} :
    Computes ρ left a →
    ComputesOperand ρ right b →
    Prints a printed →
    Prints b printed' →
    Computes ρ (.concat left right) (.text (printed ++ printed'))

/-- What an operand computes.  An integer literal of a number that is no integer is a floating-point
number near to it; which one is left open. -/
inductive ComputesOperand (ρ : Memory) : Operand → Datum → Prop where
  | string {s bytes} :
    Spells s.text.toList bytes →
    ComputesOperand ρ (.atom (.string s)) (.text bytes)
  | integer {l : IntegerLiteral} :
    l.value < integerBound →
    ComputesOperand ρ (.atom (.integer l)) (.integer l.value)
  | double {l : IntegerLiteral} {bits} :
    integerBound ≤ l.value →
    ComputesOperand ρ (.atom (.integer l)) (.double bits)
  | variable {x} :
    ComputesOperand ρ (.atom (.variable x)) (ρ x.text)
  | brackets {items data filled} :
    ComputesItems ρ items data →
    Fills none data filled →
    ComputesOperand ρ (.brackets items) (.array (Assoc.ofList filled))
  | array {keyword items data filled} :
    ComputesItems ρ items data →
    Fills none data filled →
    ComputesOperand ρ (.array keyword items) (.array (Assoc.ofList filled))
  | group {e w} :
    Computes ρ e w →
    ComputesOperand ρ (.group e) w

/-- The key and the value of an element. -/
inductive ComputesEntry (ρ : Memory) : Entry → Option Slot × Datum → Prop where
  | plain {value w} :
    Computes ρ value w →
    ComputesEntry ρ (.plain value) (none, w)
  | keyed {key value k slot w} :
    Computes ρ key k →
    KeyOf k slot →
    Computes ρ value w →
    ComputesEntry ρ (.keyed key value) (some slot, w)

/-- The keys and the values of the elements of an array. -/
inductive ComputesItems (ρ : Memory) : Items → List (Option Slot × Datum) → Prop where
  | done :
    ComputesItems ρ .done []
  | last {e d} :
    ComputesEntry ρ e d →
    ComputesItems ρ (.last e) [d]
  | more {e rest d data} :
    ComputesEntry ρ e d →
    ComputesItems ρ rest data →
    ComputesItems ρ (.more e rest) (d :: data)

end

/-- What a datum becomes when an entry of it is set.  A text stays a text, with one byte in another
place. -/
inductive SetsEntry (slot : Slot) (w : Datum) : Datum → Datum → Prop where
  | null :
    SetsEntry slot w .null (.array [(slot, w)])
  | array {entries} :
    SetsEntry slot w (.array entries) (.array (Assoc.insert slot w entries))
  | text {bytes changed} :
    SetsEntry slot w (.text bytes) (.text changed)

/-- What a statement does.  The variable of all variables is left alone. -/
inductive Runs : Memory → Step → Memory → Prop where
  | assign {ρ target e w} :
    target.text ≠ "$GLOBALS" →
    Computes ρ e w →
    Runs ρ (.assign target e) (ρ.set target.text w)
  | append {ρ target e w printed printed'} :
    target.text ≠ "$GLOBALS" →
    Computes ρ e w →
    Prints (ρ target.text) printed →
    Prints w printed' →
    Runs ρ (.append target e) (ρ.set target.text (.text (printed ++ printed')))
  | setEntry {ρ target key e bytes slot w changed} :
    target.text ≠ "$GLOBALS" →
    Spells key.text.toList bytes →
    KeyOf (.text bytes) slot →
    Computes ρ e w →
    SetsEntry slot w (ρ target.text) changed →
    Runs ρ (.setEntry target key e) (ρ.set target.text changed)

/-- What the evaluator remembers, and of which variables that is out of date. -/
structure Recall where
  surroundings : Surroundings
  stale : String → Prop

/-- At first no variable is remembered. -/
def Recall.start (file : Option Path) : Recall where
  surroundings := .fresh file
  stale := fun _ => False

mutual

/-- Whether the evaluator knows all that an expression is made of: it reads no stale variable, the
escapes of its strings and the notations of its integers are known, and its keys are right. -/
def Reliable (m : Recall) : Phrase → Prop
  | .operand o => ReliableOperand m o
  | .concat left right => Reliable m left ∧ ReliableOperand m right

/-- Whether the evaluator knows all that an operand is made of. -/
def ReliableOperand (m : Recall) : Operand → Prop
  | .atom (.variable x) => ¬m.stale x.text
  | .atom (.string s) => Familiar s.text.toList
  | .atom (.integer l) => l.value < integerBound ∧ ¬l.Misread
  | .atom _ => True
  | .brackets items => ReliableItems m items
  | .array _ items => ReliableItems m items
  | .group e => Reliable m e
  | .parent _ path _ => Reliable m path

/-- Whether the evaluator knows all that an element is made of, and takes its key for the right
one. -/
def ReliableEntry (m : Recall) : Entry → Prop
  | .plain value => Reliable m value
  | .keyed key value => Reliable m key ∧ Reliable m value ∧ RightKey (key.value m.surroundings)

/-- Whether the evaluator knows all that the elements of an array are made of. -/
def ReliableItems (m : Recall) : Items → Prop
  | .done => True
  | .last e => ReliableEntry m e
  | .more e rest => ReliableEntry m e ∧ ReliableItems m rest

end

/-- What is remembered after a statement.  A variable of which nothing is known is not stale. -/
def Recall.next (m : Recall) : Step → Recall
  | .assign target e =>
    { surroundings := (Instruction.assign target e).next m.surroundings
      stale := fun x =>
        if x = target.text then ¬Reliable m e ∧ e.value m.surroundings ≠ .unresolved
        else m.stale x }
  | .append target _ | .setEntry target _ _ =>
    { m with
      stale := fun x => m.stale x ∨ x = target.text ∧ m.surroundings.lookup x ≠ .unresolved }

/-- Whether what is remembered of the variables that are not stale tells the truth. -/
def Remembers (m : Recall) (ρ : Memory) : Prop :=
  ∀ x, ¬ m.stale x → Covers (m.surroundings.lookup x) (ρ x)

mutual

/-- A reliable expression has a value that tells the truth, and it is evaluated without a fault. -/
lemma covers_phrase {m : Recall} {ρ : Memory} (h : Remembers m ρ) {p : Phrase} {w : Datum}
    (hr : Reliable m p) (hc : Computes ρ p w) :
    Covers (p.value m.surroundings) w ∧ p.WithinLimit m.surroundings := by
  cases hc with
  | operand ho => exact covers_operand h hr ho
  | concat hleft hright hp hp' =>
    obtain ⟨hcl, hkl⟩ := covers_phrase h hr.1 hleft
    obtain ⟨hcr, hkr⟩ := covers_operand h hr.2 hright
    exact ⟨covers_join hcl hcr hp hp', hkl, hkr⟩

/-- A reliable operand covers what it computes. -/
lemma covers_operand {m : Recall} {ρ : Memory} (h : Remembers m ρ) {o : Operand} {w : Datum}
    (hr : ReliableOperand m o) (hc : ComputesOperand ρ o w) :
    Covers (o.value m.surroundings) w ∧ o.WithinLimit m.surroundings := by
  cases hc with
  | string hs =>
    refine ⟨?_, trivial⟩
    rw [← value_of_spells hs hr]
    exact .text
  | integer =>
    have hlimit := Text.Numeral.lt_limit hr.1
    refine ⟨?_, hlimit⟩
    rw [Operand.value, Atom.value, Text.Numeral.reading_eq_integer hlimit hr.2]
    exact .integer
  | double hlarge => exact absurd hr.1 (Nat.not_lt.2 hlarge)
  | «variable» => exact ⟨h _ hr, trivial⟩
  | brackets hi hf =>
    obtain ⟨hm, hk⟩ := matches_items h hr hi
    exact ⟨covers_arrayOf hm hf, hk⟩
  | array hi hf =>
    obtain ⟨hm, hk⟩ := matches_items h hr hi
    exact ⟨covers_arrayOf hm hf, hk⟩
  | group he => exact covers_phrase h hr he

/-- A reliable entry matches what it computes. -/
lemma matches_entry {m : Recall} {ρ : Memory} (h : Remembers m ρ) {e : Entry}
    {d : Option Slot × Datum} (hr : ReliableEntry m e) (hc : ComputesEntry ρ e d) :
    Matches (e.pair m.surroundings) d ∧ e.WithinLimit m.surroundings := by
  cases hc with
  | plain hv =>
    obtain ⟨hc, hk⟩ := covers_phrase h hr hv
    exact ⟨.unkeyed hc, hk⟩
  | keyed hkey hslot hv =>
    obtain ⟨hck, hkk⟩ := covers_phrase h hr.1 hkey
    obtain ⟨hcv, hkv⟩ := covers_phrase h hr.2.1 hv
    obtain ⟨key, hkeyOf, rfl⟩ := keyOf?_of_covers hck hr.2.2 hslot
    exact ⟨.keyed hkeyOf hcv, hkk, hkv, keyFits_of_rightKey hr.2.2⟩

/-- Reliable items match what they compute. -/
lemma matches_items {m : Recall} {ρ : Memory} (h : Remembers m ρ) {items : Items}
    {data : List (Option Slot × Datum)} (hr : ReliableItems m items)
    (hc : ComputesItems ρ items data) :
    List.Forall₂ Matches (items.entries m.surroundings) data ∧ items.WithinLimit m.surroundings := by
  cases hc with
  | done => exact ⟨.nil, trivial⟩
  | last he =>
    obtain ⟨hm, hk⟩ := matches_entry h hr he
    exact ⟨.cons hm .nil, hk⟩
  | more he hi =>
    obtain ⟨hm, hk⟩ := matches_entry h hr.1 he
    obtain ⟨hms, hks⟩ := matches_items h hr.2 hi
    exact ⟨.cons hm hms, hk, hks⟩

end

/-! ## Statements that are not seen -/

/-- The keywords that start a statement. -/
def statementWords : List String :=
  ["namespace", "use", "function", "class", "return"]

/-- Whether no statement starts at any of some tokens. -/
def Inert (ts : List Token) : Prop :=
  ∀ t ∈ ts, t.isKeyword statementWords = false ∧ t.isOp ["="] = false

/-- The empty list of tokens is inert. -/
@[simp]
lemma inert_nil : Inert [] := by
  simp [Inert]

/-- Tokens are inert if the first and the others are. -/
@[simp]
lemma inert_cons {t : Token} {ts : List Token} :
    Inert (t :: ts) ↔ (t.isKeyword statementWords = false ∧ t.isOp ["="] = false) ∧ Inert ts :=
  List.forall_mem_cons

/-- Joined tokens are inert if both parts are. -/
@[simp]
lemma inert_append {ts us : List Token} : Inert (ts ++ us) ↔ Inert ts ∧ Inert us :=
  List.forall_mem_append

mutual

/-- No statement starts inside of an expression that computes. -/
lemma inert_phrase {ρ : Memory} {p : Phrase} {w : Datum} (h : Computes ρ p w) : Inert p.tokens := by
  cases h with
  | operand ho => exact inert_operand ho
  | concat hl hr _ _ => simp [Phrase.tokens, inert_phrase hl, inert_operand hr]

/-- The tokens of an operand are inert. -/
lemma inert_operand {ρ : Memory} {o : Operand} {w : Datum} (h : ComputesOperand ρ o w) :
    Inert o.tokens := by
  cases h with
  | string => exact inert_cons.2 ⟨⟨rfl, rfl⟩, inert_nil⟩
  | integer => exact inert_cons.2 ⟨⟨rfl, rfl⟩, inert_nil⟩
  | double => exact inert_cons.2 ⟨⟨rfl, rfl⟩, inert_nil⟩
  | «variable» => simp [Operand.tokens, Atom.tokens]
  | brackets hi => simp [Operand.tokens, inert_items hi]
  | array hi => simp [Operand.tokens, inert_items hi, statementWords]
  | group he => simp [Operand.tokens, inert_phrase he]

/-- The tokens of an entry are inert. -/
lemma inert_entry {ρ : Memory} {e : Entry} {d : Option Slot × Datum} (h : ComputesEntry ρ e d) :
    Inert e.tokens := by
  cases h with
  | plain hv => exact inert_phrase hv
  | keyed hk _ hv => simp [Entry.tokens, inert_phrase hk, inert_phrase hv]

/-- The tokens of items are inert. -/
lemma inert_items {ρ : Memory} {items : Items} {data : List (Option Slot × Datum)}
    (h : ComputesItems ρ items data) : Inert items.tokens := by
  cases h with
  | done => exact inert_nil
  | last he => exact inert_entry he
  | more he hi => simp [Items.tokens, inert_entry he, inert_items hi]

end

/-! ## Scripts -/

/-- A variable that is changed without being seen is stale if it is remembered. -/
lemma Remembers.change {m : Recall} {ρ : Memory} (h : Remembers m ρ) (target : String)
    (w : Datum) :
    Remembers
      { m with stale := fun x => m.stale x ∨ x = target ∧ m.surroundings.lookup x ≠ .unresolved }
      (ρ.set target w) := by
  intro x hx
  have hfresh : ¬ m.stale x := fun hs => hx (.inl hs)
  show Covers (m.surroundings.lookup x) (if x = target then w else ρ x)
  by_cases ht : x = target
  · have hlookup : m.surroundings.lookup x = .unresolved := by
      by_contra hne
      exact hx (.inr ⟨ht, hne⟩)
    rw [hlookup]
    exact .unresolved
  · rw [if_neg ht]
    exact h x hfresh

/-- After a statement what is remembered still tells the truth. -/
lemma Remembers.next {m : Recall} {ρ ρ' : Memory} (h : Remembers m ρ) {step : Step}
    (hs : Runs ρ step ρ') : Remembers (m.next step) ρ' := by
  cases hs with
  | append => exact h.change _ _
  | setEntry => exact h.change _ _
  | @assign target e w _ hc =>
    intro x hx
    show Covers (if x = target.text then e.value m.surroundings else m.surroundings.lookup x)
      (if x = target.text then w else ρ x)
    change ¬(if x = target.text then _ else _) at hx
    by_cases ht : x = target.text
    · rw [if_pos ht] at hx
      rw [if_pos ht, if_pos ht]
      by_cases hr : Reliable m e
      · exact (covers_phrase h hr hc).1
      · have hvalue : e.value m.surroundings = .unresolved := by
          by_contra hne
          exact hx ⟨hr, hne⟩
        rw [hvalue]
        exact .unresolved
    · rw [if_neg ht] at hx
      rw [if_neg ht, if_neg ht]
      exact h x hx

/-- The number 27 in hexadecimal digits. -/
def sampleNumber : IntegerLiteral :=
  .marked .hexadecimal false
    { first := .hexadecimal 1, rest := [(true, .hexadecimal 11)] }

/-- The literal as an expression. -/
def sampleText : Phrase :=
  .operand (.atom (.string sampleLiteral))

/-- The variable stands. -/
lemma stands_assigned : Lexer.Stands .variable "$v".toList := by
  decide

/-- A variable that is assigned. -/
def assigned : Variable :=
  ⟨"$v", stands_assigned⟩

/-- A variable that is changed, but not assigned. -/
def unseen : Variable :=
  ⟨"$w", by decide⟩

/-- An array with an entry for each of the two variables. -/
def sampleResult : Phrase :=
  .operand (.brackets
    (.more (.keyed sampleText (.concat (.operand (.atom (.variable assigned)))
      (.atom (.integer sampleNumber))))
    (.last (.plain (.operand (.atom (.variable unseen)))))))

end RouteAudit.Source.Execution
