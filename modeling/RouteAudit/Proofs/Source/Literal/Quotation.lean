import RouteAudit.Proofs.Source.Execution.Literal
import RouteAudit.Proofs.Source.Grammar.Row
import RouteAudit.Proofs.Source.Token.Span

/-!
# Texts in quotes

Any text can be written between quotes of either kind, with a backslash before each character that
would not stand for itself.  What is written is one token whatever follows, and its value is the
text (`scan_write`).
-/

namespace RouteAudit.Source

namespace Literal
open Execution Lexer

/-- The kinds of quotes. -/
inductive Quoting where
  | single
  | double

namespace Quoting

/-- The quote of a way to quote. -/
def quote : Quoting → Char
  | single => '\x27'
  | double => '"'

/-- The characters that are written with a backslash. -/
def special : Quoting → List Char
  | single => ['\\', '\x27']
  | double => ['\\', '"', '$']

/-- A character as it is written between quotes. -/
def escape (q : Quoting) (c : Char) : List Char :=
  if c ∈ q.special then ['\\', c] else [c]

/-- What is written between the quotes. -/
def body (q : Quoting) (text : List Char) : List Char :=
  text.flatMap q.escape

/-- A text in quotes. -/
def write (q : Quoting) (text : List Char) : List Char :=
  q.quote :: (q.body text ++ [q.quote])

variable {q : Quoting} {c : Char}

/-- A special character is written behind a backslash. -/
lemma body_special (h : c ∈ q.special) (text : List Char) :
    q.body (c :: text) = '\\' :: c :: q.body text := by
  rw [body, List.flatMap_cons, escape, if_pos h]
  rfl

/-- Any other character is written as it is. -/
lemma body_plain (h : c ∉ q.special) (text : List Char) :
    q.body (c :: text) = c :: q.body text := by
  rw [body, List.flatMap_cons, escape, if_neg h]
  rfl

/-- A character that is not special is none of the special ones. -/
lemma ne_of_notMem {d : Char} (h : c ∉ q.special) (hd : d ∈ q.special) : c ≠ d := by
  rintro rfl
  exact h hd

/-! ## What the text between the quotes spells -/

/-- Between double quotes no dollar sign comes first. -/
lemma head?_body_double (text : List Char) : ∀ d ∈ (double.body text).head?, d ≠ '$' := by
  cases text with
  | nil => exact nofun
  | cons c text =>
    by_cases hc : c ∈ double.special
    · rw [body_special hc]
      rintro d ⟨⟩
      decide
    · rw [body_plain hc]
      rintro d ⟨⟩
      exact ne_of_notMem hc (by decide)

/-- The body of a single-quoted literal spells its text. -/
lemma single_body (text : List Char) : Single (single.body text) text := by
  induction text with
  | nil => exact .nil
  | cons c text ih =>
    by_cases hc : c ∈ single.special
    · rw [body_special hc]
      exact .escape (by simpa [special] using hc) ih
    · rw [body_plain hc]
      exact .plain (ne_of_notMem hc (by decide))
        (fun hb => absurd hb (ne_of_notMem hc (by decide))) ih

/-- The body of a double-quoted literal spells the bytes of its text. -/
lemma double_body (text : List Char) :
    Double (double.body text) (text.flatMap String.utf8EncodeChar) := by
  induction text with
  | nil => exact .nil
  | cons c text ih =>
    rw [List.flatMap_cons]
    by_cases hc : c ∈ double.special
    · have hmem : ∀ d ∈ double.special, (d, d) ∈ letters := forall_mem_of_all (by decide)
      rw [body_special hc]
      exact .letter (hmem c hc) ih
    · rw [body_plain hc]
      exact .plain (ne_of_notMem hc (by decide)) (ne_of_notMem hc (by decide))
        (fun hd => absurd hd (ne_of_notMem hc (by decide)))
        (fun _ d hd => head?_body_double text d hd) ih

/-! ## The extent of what is written -/

/-- A body can stand between its quotes. -/
lemma quoted_body (q : Quoting) (text : List Char) : Quoted q.quote (q.body text) := by
  cases q with
  | single => exact quoted_single (single_body text)
  | double => exact quoted_double (double_body text)

/-- The first quote that ends the text is the one that is written behind it. -/
lemma next_write (q : Quoting) (text rest : List Char) :
    next (q.write text ++ rest) = (.token .string, (q.write text).length) := by
  have hquote : q.quote = '\x27' ∨ q.quote = '"' := by
    cases q <;> decide
  apply next_string
  rw [write, List.cons_append, stringLength?, if_pos hquote,
    quoteLength?_append (q.quoted_body text)]
  simp

/-! ## The value of what is written -/

/-- What is written spells the text. -/
lemma spells_write (q : Quoting) (text : List Char) :
    Spells (q.write text) (String.ofList text).toByteArray := by
  cases q with
  | single => exact .single (single_body text)
  | double =>
    rw [String.toByteArray_ofList, List.utf8Encode]
    exact .double (double_body text)

/-- A backslash is written before a backslash, a quote and a dollar sign only. -/
lemma knowsEscapes_body (text : List Char) : knowsEscapes (double.body text) = true := by
  induction text with
  | nil => rfl
  | cons c text ih =>
    by_cases hc : c ∈ double.special
    · have known : ∀ d ∈ double.special, ∀ cs, knowsEscape (d :: cs) = true := by
        intro d hd cs
        simp only [special, List.mem_cons, List.not_mem_nil, or_false] at hd
        rcases hd with rfl | rfl | rfl <;> rfl
      rw [body_special hc, knowsEscapes, known c hc, ih]
      rfl
    · rw [body_plain hc, knowsEscapes_cons (ne_of_notMem hc (by decide)), ih]

/-- The decoder knows what is written. -/
lemma familiar_write (q : Quoting) (text : List Char) : Familiar (q.write text) := by
  cases q with
  | single =>
    intro h
    cases h
  | double =>
    intro _
    rw [write, List.drop_succ_cons, List.drop_zero, List.dropLast_concat]
    exact knowsEscapes_body text

/-- What is written is decoded to the text. -/
lemma decode?_write (q : Quoting) (text : List Char) : decode? (q.write text) = some text := by
  obtain ⟨decoded, hdecode, hbytes⟩ := decode?_of_spells (q.spells_write text)
  rw [hdecode, String.ofList_inj.1 (String.toByteArray_inj.1 (hbytes (q.familiar_write text)))]

/-- The literal that stands for a text. -/
def literal (q : Quoting) (text : String) : Grammar.StringLiteral where
  text := String.ofList (q.write text.toList)
  stands := by
    have hnext := q.next_write text.toList []
    have hlength : 2 ≤ (q.write text.toList).length := by
      simp [write]
    rw [List.append_nil] at hnext
    rw [String.toList_ofList]
    refine ⟨hnext, fun hquote => ?_, fun hquote => ?_⟩
    all_goals
      rw [hquote] at hlength
      exact absurd hlength (by decide)
  value := text
  decodes := by
    rw [Token.stringValue?, if_pos (Grammar.kind_token _), Grammar.text_token,
      String.toList_ofList, q.decode?_write, Option.map_some, String.ofList_toList]

end Quoting

end Literal

namespace Token
open Lexer Literal

/-! ## Sources that return a literal -/

/-- A source that returns a literal, possibly behind a tag. -/
def returning (tag front gap literal : List Char) : List Char :=
  tag ++ (front ++ ("return".toList ++ (gap ++ (literal ++ [';']))))

/-- Layout in front of what does not go on a name does not go on a name. -/
lemma head?_layout {gap rest : List Char} (hgap : Layout [] gap)
    (hrest : ∀ c ∈ rest.head?, Text.isWord c = false ∧ c ≠ '\\') :
    ∀ c ∈ (gap ++ rest).head?, Text.isWord c = false ∧ c ≠ '\\' := by
  cases hgap with
  | nil => exact hrest
  | blank hb _ =>
    rintro c ⟨⟩
    exact ⟨Text.isWord_of_isBlank hb, Text.ne_of_isBlank hb (by decide)⟩
  | comment hfront _ =>
    rcases hfront with ⟨_ | _⟩ | _ <;>
    · rintro c ⟨⟩
      decide
  | tag ht => cases ht

/-- The tag at the start of a source is passed over. -/
lemma scan_tag {tag : List Char} (h : tag ∈ [[], "<?php".toList]) (rest : List Char) :
    scan (tag ++ rest) = scanFrom tag.length rest := by
  simp only [List.mem_cons, List.not_mem_nil, or_false] at h
  rcases h with rfl | rfl
  · rfl
  · have hnext : next ("<?php".toList ++ rest) = (.tag, 5) := rfl
    have hlayout : ∀ kind, Lexeme.tag ≠ .token kind := by
      intro kind h
      cases h
    exact scanFrom_layout (List.cons_ne_nil _ _) hnext hlayout 0

/-- A literal is returned if what stands behind the keyword does not go on it. -/
lemma writes_returning_token {tag front gap literal : List Char} {kind : TokenKind}
    (htag : tag ∈ [[], "<?php".toList]) (hfront : Layout [] front) (hgap : Layout [] gap)
    (hne : literal ≠ []) (hnext : next (literal ++ [';']) = (.token kind, literal.length))
    (hhead : ∀ c ∈ (gap ++ (literal ++ [';'])).head?, Text.isWord c = false ∧ c ≠ '\\') :
    Script.Writes (returning tag front gap literal)
      (Grammar.returnTokens Grammar.returnKeyword [⟨kind, String.ofList literal, 0⟩]) := by
  have hkeyword : next ("return".toList ++ (gap ++ (literal ++ [';']))) = (.token .name, 6) := by
    obtain ⟨b, behind, hcs⟩ : ∃ b behind, gap ++ (literal ++ [';']) = b :: behind :=
      List.exists_cons_of_ne_nil (by simp)
    rw [hcs] at hhead ⊢
    exact next_name (nameLength?_append (by decide) (hhead b rfl).1 (hhead b rfl).2 behind)
  have hkeywordNe : "return".toList ≠ [] := by decide
  rw [Script.Writes, returning, scan_tag htag, scanFrom_of_layout hfront,
    scanFrom_token hkeywordNe hkeyword, scanFrom_of_layout hgap, scanFrom_token hne hnext]
  rfl

/-- Between the keyword and the literal there may be layout, but need not. -/
lemma writes_returning {tag front gap : List Char} (htag : tag ∈ [[], "<?php".toList])
    (hfront : Layout [] front) (hgap : Layout [] gap) (q : Quoting) (text : String) :
    Script.Writes (returning tag front gap (q.write text.toList))
      (Grammar.returnTokens Grammar.returnKeyword [(q.literal text).token]) := by
  have hquote : ∀ c ∈ (q.write text.toList ++ [';']).head?, Text.isWord c = false ∧ c ≠ '\\' := by
    rintro c ⟨⟩
    cases q <;> decide
  exact writes_returning_token htag hfront hgap (List.cons_ne_nil _ _) (q.next_write _ _)
    (head?_layout hgap hquote)

/-- A text in quotes is one token, whatever follows, and its value is the text.  A source that
returns it has this value. -/
theorem scan_write (q : Quoting) (text : String) :
    let literal := q.write text.toList
    (∀ rest, scan (literal ++ rest) =
        ⟨.string, String.ofList literal, 0⟩ :: (scan rest).map (shift literal.length)) ∧
      stringValue? ⟨.string, String.ofList literal, 0⟩ = some text ∧
      ∀ tag ∈ [[], "<?php".toList], ∀ front gap, Layout [] front → Layout [] gap →
        ∀ directory file, Script.evaluate directory file (returning tag front gap literal) =
          .ok (.text text) := by
  intro literal
  refine ⟨?_, (q.literal text).decodes, ?_⟩
  · intro rest
    exact scan_token (List.cons_ne_nil _ _) (q.next_write text.toList rest)
  · intro tag htag front gap hfront hgap directory file
    have hvalue : Expr.alone [(q.literal text).token] = .constant (.text text) :=
      (Grammar.Phrase.operand (.atom (.string (q.literal text)))).separate.1
    rw [Grammar.evaluate_returning (writes_returning htag hfront hgap q text), hvalue]
    rfl

/-- What looks like an interpolation, a comment or the end of the literal is part of the text. -/
theorem scan_write_signs :
    let text := "\\\\\x27\"$a \x7b$b\x7d // */\n\\"
    let literal := Quoting.double.write text.toList
    scan (literal ++ "\x27;".toList) =
        [⟨.string, String.ofList literal, 0⟩, ⟨.other, "\x27", 27⟩, ⟨.op, ";", 28⟩] ∧
      Layout [] [] ∧
      Script.evaluate {} none (returning [] [] [] literal) = .ok (.text text) := by
  intro text literal
  obtain ⟨hscan, -, hreturn⟩ := scan_write .double text
  refine ⟨?_, .nil, hreturn [] (by decide) [] [] .nil .nil {} none⟩
  rw [hscan]
  decide +kernel

end Token

end RouteAudit.Source
