import RouteAudit.Proofs.Source.Token.Balanced
import RouteAudit.Proofs.Source.Token.Spelling

/-!
# The words of the grammar

What the grammars of class files and of scripts are made of: single tokens, and runs of tokens that
hold anything but are balanced.  Each carries the proof that its text is read as these tokens.
-/

namespace RouteAudit.Source.Grammar
open Token

/-- A text that stands as a token of a kind. -/
structure Word (kind : TokenKind) where
  text : String
  stands : Lexer.Stands kind text.toList

/-- The token that a word is. -/
def Word.token {kind : TokenKind} (w : Word kind) : Token :=
  ⟨kind, w.text, 0⟩

/-- A name. -/
abbrev Name := Word .name

/-- A variable. -/
abbrev Variable := Word .variable

/-- One of some keywords, in any case. -/
structure OneOf (words : List String) extends Word .name where
  mem : Text.lower text ∈ words

/-- A keyword, in any case. -/
abbrev Keyword (word : String) := OneOf [word]

/-- A name that is none of some keywords. -/
structure NoneOf (words : List String) extends Word .name where
  notMem : Text.lower text ∉ words

/-- The token of an operator. -/
def op (text : String) : Token :=
  ⟨.op, text, 0⟩

/-- Whether each of some tokens is read as the token that it is. -/
def AllStand (ts : List Token) : Prop :=
  ∀ t ∈ ts, t.Stands

/-- Whether tokens stand can be decided. -/
instance (ts : List Token) : Decidable (AllStand ts) :=
  inferInstanceAs (Decidable (∀ t ∈ ts, t.Stands))

/-- A balanced run of tokens without the given operators outside of its brackets. -/
structure Words (stops : List String) where
  tokens : List Token
  stand : AllStand tokens
  run : Run stops tokens

/-- Any balanced run of tokens. -/
abbrev Balanced := Words []

/-! ## What words are -/

/-- The token of a word has its kind. -/
@[simp]
lemma kind_token {kind : TokenKind} (w : Word kind) : w.token.kind = kind := rfl

/-- The token of a word has its text. -/
@[simp]
lemma text_token {kind : TokenKind} (w : Word kind) : w.token.text = w.text := rfl

/-- An operator has its kind. -/
@[simp]
lemma kind_op (s : String) : (op s).kind = .op := rfl

/-- An operator has its text. -/
@[simp]
lemma text_op (s : String) : (op s).text = s := rfl

/-- A name is no operator. -/
@[simp]
lemma isOp_name (w : Name) (ops : List String) : w.token.isOp ops = false := rfl

/-- A variable is no operator. -/
@[simp]
lemma isOp_variable (w : Variable) (ops : List String) : w.token.isOp ops = false := rfl

/-- An operator is no keyword. -/
@[simp]
lemma isKeyword_op (s : String) (words : List String) : (op s).isKeyword words = false := rfl

/-- A variable is no keyword. -/
@[simp]
lemma isKeyword_variable (w : Variable) (words : List String) :
    w.token.isKeyword words = false := rfl

/-- An operator is one of those with its text. -/
@[simp]
lemma isOp_op (s : String) (ops : List String) : (op s).isOp ops = ops.contains s := rfl

/-- A name is one of the keywords that it is written as. -/
@[simp]
lemma isKeyword_name (w : Name) (words : List String) :
    w.token.isKeyword words = words.contains (Text.lower w.text) := rfl

/-- The one word that a keyword can be. -/
@[simp]
lemma lower_keyword {word : String} (w : Keyword word) : Text.lower w.text = word :=
  List.mem_singleton.1 w.mem

/-! ## Words that stand -/

/-- The token of a word stands. -/
@[simp]
lemma stands_token {kind : TokenKind} (w : Word kind) : w.token.Stands :=
  w.stands

/-- A keyword in small letters. -/
def useKeyword : Keyword "use" := ⟨⟨"use", by decide⟩, by decide⟩

/-- A keyword in small letters. -/
def returnKeyword : Keyword "return" := ⟨⟨"return", by decide⟩, by decide⟩

/-- The keyword of a class stands. -/
lemma stands_class : Lexer.Stands .name "class".toList := by
  decide

/-- The keyword of a function stands. -/
lemma stands_function : Lexer.Stands .name "function".toList := by
  decide

/-- The keyword of a namespace stands. -/
lemma stands_namespace : Lexer.Stands .name "namespace".toList := by
  decide

/-- A name of one letter. -/
def letterC : Name := ⟨"C", by decide⟩

/-- The operators of the grammars. -/
def operators : List String :=
  [";", ",", "=", "&", ":", "(", ")", "[", "]", "\x7b", "\x7d", "#[", "?", "|", ".", "=>", "::"]

/-- The operators of the grammars stand. -/
@[simp]
lemma stands_op {s : String} (h : operators.contains s = true) : (op s).Stands := by
  have all : ∀ s ∈ operators, (op s).Stands := by decide +kernel
  exact all s (by simpa using h)

/-- The empty list of tokens stands. -/
@[simp]
lemma allStand_nil : AllStand [] := by
  simp [AllStand]

/-- Tokens stand if the first and the others do. -/
@[simp]
lemma allStand_cons {t : Token} {ts : List Token} :
    AllStand (t :: ts) ↔ t.Stands ∧ AllStand ts :=
  List.forall_mem_cons

/-- Joined tokens stand if both parts do. -/
@[simp]
lemma allStand_append {ts us : List Token} : AllStand (ts ++ us) ↔ AllStand ts ∧ AllStand us :=
  List.forall_mem_append

/-- The tokens of many parts stand if those of each do. -/
lemma allStand_flatMap {α : Type} {tokens : α → List Token} (h : ∀ a, AllStand (tokens a))
    (as : List α) : AllStand (as.flatMap tokens) := by
  induction as with
  | nil => simp
  | cons a as ih => simp [h a, ih]

/-! ## Runs of words -/

/-- A name is passed in a run. -/
lemma run_name {stops : List String} {ts : List Token} (w : Name) (h : Run stops ts) :
    Run stops (w.token :: ts) :=
  .plain rfl rfl rfl h

/-- A sign that is no bracket is passed in a run. -/
lemma run_sign {stops : List String} {s : String} {ts : List Token} (hs : s ∉ stops)
    (hb : s ∉ ["(", "[", "\x7b", "#[", ")", "]", "\x7d"]) (h : Run stops ts) :
    Run stops (op s :: ts) := by
  simp only [List.mem_cons, List.not_mem_nil, or_false, not_or] at hb
  refine .plain ?_ ?_ ?_ h
  · simp [hs]
  · simp [opens, hb]
  · simp [closes, hb]

/-- A group is passed in a run. -/
lemma run_group {stops : List String} {s e : String} {inner ts : List Token} (hs : s ∉ stops)
    (ho : s ∈ ["(", "[", "\x7b", "#["]) (hi : Run [] inner) (hc : e ∈ [")", "]", "\x7d"])
    (h : Run stops ts) : Run stops (op s :: (inner ++ op e :: ts)) := by
  refine .group ?_ ?_ hi ?_ h
  · simp [hs]
  · simpa [opens] using ho
  · simpa [closes] using hc

/-- A group is skipped with its brackets. -/
lemma skipGroup_op {s e : String} {inner : List Token} (ho : s ∈ ["(", "[", "\x7b", "#["])
    (hi : Run [] inner) (hc : e ∈ [")", "]", "\x7d"]) (rest : List Token) :
    skipGroup (op s :: (inner ++ op e :: rest)) = rest :=
  skipGroup_group (by simpa [opens] using ho) hi (by simpa [closes] using hc) rest

/-! ## Lists -/

/-- The tokens of a list with commas between. -/
def commas {α : Type} (tokens : α → List Token) (first : α) (more : List α) : List Token :=
  tokens first ++ more.flatMap fun a => op "," :: tokens a

/-- A list of one member is this member. -/
lemma commas_nil {α : Type} (tokens : α → List Token) (first : α) :
    commas tokens first [] = tokens first := by
  rw [commas, List.flatMap_nil, List.append_nil]

/-- A list has a comma behind its first member. -/
lemma commas_cons {α : Type} (tokens : α → List Token) (first next : α) (more : List α) :
    commas tokens first (next :: more) = tokens first ++ op "," :: commas tokens next more := by
  rw [commas, List.flatMap_cons, List.cons_append, commas]

/-- A list stands if its members do. -/
lemma allStand_commas {α : Type} {tokens : α → List Token} (h : ∀ a, AllStand (tokens a))
    (first : α) (more : List α) : AllStand (commas tokens first more) := by
  rw [commas, allStand_append]
  refine ⟨h first, allStand_flatMap (fun a => ?_) more⟩
  rw [allStand_cons]
  exact ⟨stands_op (by decide), h a⟩

/-- A list is a run if its members are. -/
lemma run_commas {α : Type} {stops : List String} {tokens : α → List Token}
    (h : ∀ a, Run stops (tokens a)) (hc : "," ∉ stops) (first : α) (more : List α) :
    Run stops (commas tokens first more) := by
  induction more generalizing first with
  | nil => rw [commas_nil]; exact h first
  | cons next more ih => rw [commas_cons]; exact (h first).append (run_sign hc (by simp) (ih next))

end RouteAudit.Source.Grammar
