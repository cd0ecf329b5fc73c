import RouteAudit.Proofs.Source.Expr.Step
import RouteAudit.Proofs.Source.Grammar.Word
import RouteAudit.Proofs.Text.Numeral

/-!
# Phrases

The grammar of the expressions that scripts use, and the proof that the reader of expressions reads
each of them as what it stands for (`read_tokens`).
-/

namespace RouteAudit.Source.Grammar
open Token
open Text (Numeral)
open Text.Numeral (IntegerLiteral)

/-! ## The grammar -/

/-- A string literal whose text is fixed. -/
structure StringLiteral extends Word .string where
  value : String
  decodes : toWord.token.stringValue? = some value

/-- The letter `a` between quotes. -/
def sampleLiteral : StringLiteral where
  text := "\x27a\x27"
  stands := by decide
  value := "a"
  decodes := by decide

/-- A number of directories to go up, in a literal that is read as this number. -/
structure Levels where
  literal : IntegerLiteral
  reads : literal.reading = .integer literal.value
  pos : 1 ≤ literal.value

/-- The names that stand for a value by themselves. -/
def constants : List String :=
  ["true", "false", "null", "__dir__", "__file__"]

/-- What is not made of other expressions. -/
inductive Atom where
  | string (s : StringLiteral)
  | integer (l : IntegerLiteral)
  | yes (keyword : Keyword "true")
  | no (keyword : Keyword "false")
  | null (keyword : Keyword "null")
  | variable (name : Variable)
  | directory (keyword : Keyword "__dir__")
  | className (name : NoneOf constants) (keyword : Keyword "class")

mutual

/-- An expression. -/
inductive Phrase where
  | operand (o : Operand)
  | concat (left : Phrase) (right : Operand)

/-- An operand of a concatenation. -/
inductive Operand where
  | atom (a : Atom)
  /-- An array in brackets. -/
  | brackets (items : Items)
  /-- An array in the form of a call. -/
  | array (keyword : Keyword "array") (items : Items)
  | group (e : Phrase)
  /-- The directory of a path, some levels up. -/
  | parent (keyword : Keyword "dirname") (path : Phrase) (levels? : Option Levels)

/-- An element of an array, possibly with a key. -/
inductive Entry where
  | plain (value : Phrase)
  | keyed (key value : Phrase)

/-- The elements of an array; a comma may come behind the last one. -/
inductive Items where
  | done
  | last (e : Entry)
  | more (e : Entry) (rest : Items)

end

/-! ## How it is written -/

/-- The token of an integer literal. -/
def numberToken (l : IntegerLiteral) : Token :=
  ⟨.number, String.ofList l.write, 0⟩

/-- The tokens of an atom. -/
def Atom.tokens : Atom → List Token
  | string s => [s.token]
  | integer l => [numberToken l]
  | yes keyword => [keyword.token]
  | no keyword => [keyword.token]
  | null keyword => [keyword.token]
  | «variable» name => [name.token]
  | directory keyword => [keyword.token]
  | className name keyword => [name.token, op "::", keyword.token]

/-- What stands behind a path whose directory is taken. -/
def levelTokens : Option Levels → List Token
  | .none => []
  | some n => [op ",", numberToken n.literal]

mutual

/-- The tokens of an expression. -/
def Phrase.tokens : Phrase → List Token
  | .operand o => o.tokens
  | .concat left right => left.tokens ++ op "." :: right.tokens

/-- The tokens of an operand. -/
def Operand.tokens : Operand → List Token
  | .atom a => a.tokens
  | .brackets items => op "[" :: (items.tokens ++ [op "]"])
  | .array keyword items => keyword.token :: op "(" :: (items.tokens ++ [op ")"])
  | .group e => op "(" :: (e.tokens ++ [op ")"])
  | .parent keyword path levels? =>
    keyword.token :: op "(" :: (path.tokens ++ (levelTokens levels? ++ [op ")"]))

/-- The tokens of an element. -/
def Entry.tokens : Entry → List Token
  | .plain value => value.tokens
  | .keyed key value => key.tokens ++ op "=>" :: value.tokens

/-- The tokens of the elements of an array, with the commas between them. -/
def Items.tokens : Items → List Token
  | .done => []
  | .last e => e.tokens
  | .more e rest => e.tokens ++ op "," :: rest.tokens

end

/-! ## What it stands for -/

/-- The value of a number. -/
def ofNumeral : Numeral → Value
  | .integer n => .integer n
  | .double bits => .double bits

/-- What an atom stands for. -/
def Atom.expr : Atom → Expr
  | string s => .constant (.text s.value)
  | integer l => .constant (ofNumeral l.reading)
  | yes _ => .constant (.bool true)
  | no _ => .constant (.bool false)
  | null _ => .constant .null
  | «variable» name => .variable name.text
  | directory _ => .directory
  | className name _ => .className name.text

/-- The number of levels that is written, or one. -/
def levelCount (levels? : Option Levels) : Nat :=
  (levels?.map (·.literal.value)).getD 1

mutual

/-- What an expression stands for. -/
def Phrase.expr : Phrase → Expr
  | .operand o => o.expr
  | .concat left right => .concat left.expr right.expr

/-- What an operand stands for. -/
def Operand.expr : Operand → Expr
  | .atom a => a.expr
  | .brackets items => .array items.elements
  | .array _ items => .array items.elements
  | .group e => e.expr
  | .parent _ path levels? => .parent path.expr (.constant (.integer (levelCount levels?)))

/-- What an element and those behind it stand for. -/
def Entry.elements (rest : Elements) : Entry → Elements
  | .plain value => .item value.expr rest
  | .keyed key value => .pair key.expr value.expr rest

/-- What the elements of an array stand for. -/
def Items.elements : Items → Elements
  | .done => .nil
  | .last e => e.elements .nil
  | .more e rest => e.elements rest.elements

end

/-! ## How it is read -/

/-- An integer literal is read as its value. -/
lemma ofNumber_numberToken (l : IntegerLiteral) :
    Expr.ofNumber (numberToken l).text = .constant (ofNumeral l.reading) := by
  rw [numberToken, Expr.ofNumber, Text.Numeral.read?_eq_reading]
  cases l.reading <;> rfl

/-- A name that is no constant stands for nothing by itself. -/
lemma ofWord?_eq_none {word : String} (h : word ∉ constants) : Expr.ofWord? word = none := by
  simp only [constants, List.mem_cons, List.not_mem_nil, or_false, not_or] at h
  simp [Expr.ofWord?, h]

/-- An atom is read as what it stands for. -/
lemma readOperand_atom (a : Atom) (rest : List Token) :
    outcome (Expr.readOperand (a.tokens ++ rest)) = (a.expr, rest) := by
  cases a with
  | string s =>
    rw [Atom.tokens, List.singleton_append, Expr.outcome_readOperand]
    simp only [kind_token]
    rw [Expr.ofString, s.decodes]
    rfl
  | integer l =>
    rw [Atom.tokens, List.singleton_append, Expr.outcome_readOperand, ofNumber_numberToken]
    rfl
  | «variable» name =>
    rw [Atom.tokens, List.singleton_append, Expr.outcome_readOperand]
    rfl
  | className name keyword =>
    have hname := ofWord?_eq_none name.notMem
    simp only [Atom.tokens, List.cons_append, List.nil_append]
    rw [Expr.outcome_readOperand]
    simp only [kind_token, text_token]
    rw [Expr.outcome_readNamed, hname]
    simp only
    rw [if_neg (by simp), if_pos (by simp), Expr.outcome_readMember_class (by simp)]
    rfl
  | yes keyword | no keyword | null keyword | directory keyword =>
    rw [Atom.tokens, List.singleton_append, Expr.outcome_readOperand]
    simp only [kind_token, text_token]
    rw [Expr.readNamed_of_word (by rw [lower_keyword]; rfl)]
    rfl

/-- Whether a token can start an element of an array. -/
def StartsElement (t : Token) : Prop :=
  t.closes = false ∧ t.isOp [","] = false ∧ t.isOp ["..."] = false

/-- The first token of an atom starts an element. -/
lemma Atom.starts (a : Atom) : ∃ t ts, a.tokens = t :: ts ∧ StartsElement t := by
  cases a <;> exact ⟨_, _, rfl, rfl, rfl, rfl⟩

/-- The first token of an operand starts an element. -/
lemma Operand.starts (o : Operand) : ∃ t ts, o.tokens = t :: ts ∧ StartsElement t := by
  cases o with
  | atom a => exact a.starts
  | brackets items => exact ⟨_, _, rfl, by simp [closes], by simp, by simp⟩
  | array keyword items => exact ⟨_, _, rfl, rfl, rfl, rfl⟩
  | group e => exact ⟨_, _, rfl, by simp [closes], by simp, by simp⟩
  | parent keyword path levels? => exact ⟨_, _, rfl, rfl, rfl, rfl⟩

/-- The first token of a phrase starts an element. -/
lemma Phrase.starts : (p : Phrase) → ∃ t ts, p.tokens = t :: ts ∧ StartsElement t
  | .operand o => o.starts
  | .concat left right => by
    obtain ⟨t, ts, hts, h⟩ := left.starts
    exact ⟨t, ts ++ op "." :: right.tokens, by rw [Phrase.tokens, hts]; rfl, h⟩

/-- An expression ends at a terminator. -/
lemma readChain_stop (e : Expr) {s : String} (hs : s ∈ Expr.terminators) (rest : List Token) :
    outcome (Expr.readChain e (op s :: rest)) = (e, op s :: rest) := by
  rw [Expr.outcome_readChain, if_pos (by simpa using hs)]

/-- Behind an element comes a comma or the end of the array. -/
lemma readElements_plain {p : Phrase} {s : String} (hs : s ∈ [",", ")", "]"]) {rest : List Token}
    (hp : outcome (Expr.read (p.tokens ++ op s :: rest)) = (p.expr, op s :: rest)) :
    outcome (Expr.readElements (p.tokens ++ op s :: rest)) =
      (.item p.expr (outcome (Expr.readElements (op s :: rest))).1,
        (outcome (Expr.readElements (op s :: rest))).2) := by
  obtain ⟨t, ts, hts, hclose, hcomma, hspread⟩ := p.starts
  have harrow : (op s).isOp ["=>"] = false := by
    simp only [List.mem_cons, List.not_mem_nil, or_false] at hs
    rcases hs with rfl | rfl | rfl <;> simp
  rw [hts, List.cons_append] at hp ⊢
  rw [Expr.outcome_readElements, if_neg (by simp [hclose]), if_neg (by simp [hcomma]),
    if_neg (by simp [hspread]), hp]
  simp only [harrow, Bool.false_eq_true, if_false]
  rw [if_pos (by simp only [List.length_append, List.length_cons]; omega)]

/-- Behind a key comes an arrow and the value. -/
lemma readElements_keyed {k v : Phrase} {s : String} {rest : List Token}
    (hk : outcome (Expr.read (k.tokens ++ op "=>" :: (v.tokens ++ op s :: rest))) =
      (k.expr, op "=>" :: (v.tokens ++ op s :: rest)))
    (hv : outcome (Expr.read (v.tokens ++ op s :: rest)) = (v.expr, op s :: rest)) :
    outcome (Expr.readElements (k.tokens ++ op "=>" :: (v.tokens ++ op s :: rest))) =
      (.pair k.expr v.expr (outcome (Expr.readElements (op s :: rest))).1,
        (outcome (Expr.readElements (op s :: rest))).2) := by
  obtain ⟨t, ts, hts, hclose, hcomma, hspread⟩ := k.starts
  rw [hts, List.cons_append] at hk ⊢
  rw [Expr.outcome_readElements, if_neg (by simp [hclose]), if_neg (by simp [hcomma]),
    if_neg (by simp [hspread]), hk]
  simp only
  rw [if_pos (by simp), hv]

/-- The number of levels is read up to and with the closing parenthesis. -/
lemma readParent_levels (path : Expr) (levels? : Option Levels) (rest : List Token) :
    (match outcome (Expr.readChain path (levelTokens levels? ++ op ")" :: rest)) with
      | (path, []) => (Expr.parent path (.constant (.integer 1)), [])
      | (path, t :: r) =>
        if t.isOp [","] then
          (.parent path (outcome (Expr.read r)).1, (Expr.dropClose (outcome (Expr.read r)).2).1)
        else (.parent path (.constant (.integer 1)), (Expr.dropClose (t :: r)).1)) =
      (.parent path (.constant (.integer (levelCount levels?))), rest) := by
  cases levels? with
  | none =>
    rw [levelTokens, List.nil_append, readChain_stop _ (by decide)]
    simp only
    rw [if_neg (by simp), Expr.dropClose_cons, if_pos (by simp)]
    rfl
  | some n =>
    have hread : outcome (Expr.read (numberToken n.literal :: op ")" :: rest)) =
        (.constant (.integer n.literal.value), op ")" :: rest) := by
      -- a number of levels is read as the operand that it would be by itself
      have hn := readOperand_atom (.integer n.literal) (op ")" :: rest)
      rw [Atom.tokens, List.singleton_append, Atom.expr, n.reads] at hn
      rw [Expr.outcome_read, hn, readChain_stop _ (by decide)]
      rfl
    rw [levelTokens, List.cons_append, List.singleton_append, readChain_stop _ (by decide)]
    simp only
    rw [if_pos (by simp), hread, Expr.dropClose_cons, if_pos (by simp)]
    rfl

mutual

/-- An operand is read as what it stands for, whatever follows. -/
lemma readOperand_tokens (o : Operand) (rest : List Token) :
    outcome (Expr.readOperand (o.tokens ++ rest)) = (o.expr, rest) := by
  match o with
  | .atom a => exact readOperand_atom a rest
  | .brackets items =>
    have split : (Operand.brackets items).tokens ++ rest =
        op "[" :: (items.tokens ++ op "]" :: rest) := by simp [Operand.tokens]
    rw [split, Expr.outcome_readOperand]
    simp only [kind_op]
    rw [if_pos (by simp), readElements_items items (by simp) rest]
    rfl
  | .array keyword items =>
    have split : (Operand.array keyword items).tokens ++ rest =
        keyword.token :: op "(" :: (items.tokens ++ op ")" :: rest) := by simp [Operand.tokens]
    rw [split, Expr.outcome_readOperand]
    simp only [kind_token, text_token]
    rw [Expr.outcome_readNamed, lower_keyword, ofWord?_eq_none (by decide)]
    simp only
    rw [if_pos (by simp), if_pos trivial, readElements_items items (by simp) rest]
    rfl
  | .group e =>
    have split : (Operand.group e).tokens ++ rest = op "(" :: (e.tokens ++ op ")" :: rest) := by
      simp [Operand.tokens]
    rw [split, Expr.outcome_readOperand]
    simp only [kind_op]
    rw [if_neg (by simp), if_pos (by simp), read_tokens e, readChain_stop _ (by decide),
      Expr.dropClose_cons, if_pos (by simp)]
    rfl
  | .parent keyword path levels? =>
    have split : (Operand.parent keyword path levels?).tokens ++ rest =
        keyword.token :: op "(" :: (path.tokens ++ (levelTokens levels? ++ op ")" :: rest)) := by
      simp [Operand.tokens]
    rw [split, Expr.outcome_readOperand]
    simp only [kind_token, text_token]
    rw [Expr.outcome_readNamed, lower_keyword, ofWord?_eq_none (by decide)]
    simp only
    rw [if_pos (by simp), if_neg (by decide), if_pos trivial, Expr.outcome_readParent,
      read_tokens path]
    exact readParent_levels path.expr levels? rest

/-- An expression is read up to where it could go on. -/
lemma read_tokens (p : Phrase) (rest : List Token) :
    outcome (Expr.read (p.tokens ++ rest)) = outcome (Expr.readChain p.expr rest) := by
  match p with
  | .operand o => rw [Phrase.tokens, Expr.outcome_read, readOperand_tokens o rest]; rfl
  | .concat left right =>
    rw [Phrase.tokens, List.append_assoc, List.cons_append, read_tokens left,
      Expr.outcome_readChain, if_neg (by decide), if_pos (by simp), readOperand_tokens right rest]
    rfl

/-- The elements of an array are read up to its closing bracket. -/
lemma readElements_items (items : Items) {s : String} (hs : s ∈ [")", "]"]) (rest : List Token) :
    outcome (Expr.readElements (items.tokens ++ op s :: rest)) = (items.elements, rest) := by
  have hclose : outcome (Expr.readElements (op s :: rest)) = (.nil, rest) := by
    rw [Expr.outcome_readElements, if_pos]
    simp only [List.mem_cons, List.not_mem_nil, or_false] at hs
    rcases hs with rfl | rfl <;> simp [closes]
  match items with
  | .done => exact hclose
  | .last e =>
    have hs' : s ∈ [",", ")", "]"] := List.mem_cons_of_mem _ hs
    rw [Items.tokens, readElements_entry e hs', hclose]
    rfl
  | .more e more =>
    rw [Items.tokens, List.append_assoc, List.cons_append, readElements_entry e (by simp),
      Expr.outcome_readElements, if_neg (by simp [closes]), if_pos (by simp),
      readElements_items more hs rest]
    rfl

/-- An element of an array is read up to what comes behind it. -/
lemma readElements_entry (e : Entry) {s : String} (hs : s ∈ [",", ")", "]"]) (rest : List Token) :
    outcome (Expr.readElements (e.tokens ++ op s :: rest)) =
      (e.elements (outcome (Expr.readElements (op s :: rest))).1,
        (outcome (Expr.readElements (op s :: rest))).2) := by
  have hstop : s ∈ Expr.terminators := by
    simp only [List.mem_cons, List.not_mem_nil, or_false] at hs
    rcases hs with rfl | rfl | rfl <;> decide
  match e with
  | .plain value =>
    exact readElements_plain hs ((read_tokens value _).trans (readChain_stop _ hstop _))
  | .keyed key value =>
    rw [Entry.tokens, List.append_assoc, List.cons_append]
    exact readElements_keyed ((read_tokens key _).trans (readChain_stop _ (by decide) _))
      ((read_tokens value _).trans (readChain_stop _ hstop _))

end

/-! ## It stands -/

/-- The token of an integer stands. -/
lemma stands_numberToken (l : IntegerLiteral) : (numberToken l).Stands := by
  obtain ⟨c, cs, hwrite, hc, hcs⟩ := l.exists_write
  have hquote (q : Char) (hq : q.isDigit = false) : c :: cs ≠ [q] := by
    intro e
    cases e
    rw [hc] at hq
    cases hq
  rw [Token.Stands, numberToken, Lexer.Stands, String.toList_ofList, hwrite]
  exact ⟨Lexer.next_number (Lexer.numberLength?_words hc hcs), hquote _ (by decide),
    hquote _ (by decide)⟩

/-- An atom stands. -/
lemma Atom.allStand (a : Atom) : AllStand a.tokens := by
  cases a <;> simp [tokens, stands_numberToken, operators]

/-- Levels stand. -/
lemma allStand_levelTokens (levels? : Option Levels) : AllStand (levelTokens levels?) := by
  cases levels? <;> simp [levelTokens, stands_numberToken, operators]

mutual

/-- A phrase stands. -/
lemma Phrase.allStand : (p : Phrase) → AllStand p.tokens
  | .operand o => o.allStand
  | .concat left right => by
    simp [Phrase.tokens, left.allStand, right.allStand, operators]

/-- An operand stands. -/
lemma Operand.allStand : (o : Operand) → AllStand o.tokens
  | .atom a => a.allStand
  | .brackets items => by simp [Operand.tokens, items.allStand, operators]
  | .array keyword items => by simp [Operand.tokens, items.allStand, operators]
  | .group e => by simp [Operand.tokens, e.allStand, operators]
  | .parent keyword path levels? => by
    simp [Operand.tokens, path.allStand, allStand_levelTokens, operators]

/-- An entry stands. -/
lemma Entry.allStand : (e : Entry) → AllStand e.tokens
  | .plain value => value.allStand
  | .keyed key value => by simp [Entry.tokens, key.allStand, value.allStand, operators]

/-- Items stand. -/
lemma Items.allStand : (items : Items) → AllStand items.tokens
  | .done => allStand_nil
  | .last e => e.allStand
  | .more e rest => by simp [Items.tokens, e.allStand, rest.allStand, operators]

end

end RouteAudit.Source.Grammar
