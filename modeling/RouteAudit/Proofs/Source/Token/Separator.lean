import RouteAudit.Proofs.Source.Declaration.Place
import RouteAudit.Proofs.Source.Expr.Place
import RouteAudit.Proofs.Source.Token.Span

/-!
# Separators

The tokens of a source may be set apart in other ways, with other blanks and other comments, and the
source is still read as these tokens (`scan_separated`).  A quote that no other quote ends is the
one token for which this fails, as a comment may bring the other quote.
-/

namespace RouteAudit.Source

namespace Lexer

/-- What sets two tokens apart: a blank, and any more blanks and complete comments. -/
inductive Separator : List Char → Prop where
  | mk {b cs} :
    Text.isBlank b = true →
    Layout [] cs →
    Separator (b :: cs)

end Lexer

namespace Token
open Lexer

/-- Whether the token is a quote that starts no string. -/
def IsLoneQuote (t : Token) : Prop :=
  t.kind = .other ∧ (t.text = "\x27" ∨ t.text = "\"")

/-- Whether a token is a lone quote can be decided. -/
instance (t : Token) : Decidable t.IsLoneQuote :=
  inferInstanceAs (Decidable (_ ∧ _))

/-- The texts of some tokens, with a separator between each two. -/
inductive Separated : List Token → List Char → Prop where
  | nil :
    Separated [] []
  | last {t} :
    Separated [t] t.text.toList
  | more {t u ts sep text} :
    Separator sep →
    Separated (u :: ts) text →
    Separated (t :: u :: ts) (t.text.toList ++ (sep ++ text))

/-- A token of a text is read from its own characters. -/
lemma Scans.next_text {offset : Nat} {cs : List Char} {ts : List Token} (h : Scans offset cs ts) :
    ∀ t ∈ ts, next t.text.toList = (.token t.kind, t.text.toList.length) := by
  induction h with
  | nil => exact List.forall_mem_nil _
  | line => exact List.forall_mem_nil _
  | drop _ _ _ ih => exact ih
  | @token _ kind front rest _ hne hnext _ ih =>
    have htake := (next_take (by simp [hne]) hnext).2
    rw [List.take_left] at htake
    refine List.forall_mem_cons.2 ⟨?_, ih⟩
    rwa [String.toList_ofList]

/-- A token of a source stands, unless it is a lone quote. -/
lemma stands_of_mem_scan {source : List Char} {t : Token} (ht : t ∈ scan source)
    (hquote : ¬ t.IsLoneQuote) : t.Stands := by
  have hnext := (scans_scanFrom 0 source).next_text t ht
  refine ⟨hnext, fun htext => hquote ?_, fun htext => hquote ?_⟩
  all_goals
    rw [htext] at hnext
    have hkind : Lexeme.token .other = .token t.kind := congrArg Prod.fst hnext
    refine ⟨(Lexeme.token.inj hkind).symm, ?_⟩
    rw [← String.toList_inj, ← String.toList_inj, htext]
    decide

/-- Tokens that stand are read from their texts, whatever sets them apart. -/
lemma Separated.scanFrom {ts : List Token} {text : List Char} (h : Separated ts text)
    (hstands : ∀ t ∈ ts, t.Stands) (offset : Nat) :
    (scanFrom offset text).map unplaced = ts.map unplaced := by
  induction h generalizing offset with
  | nil => rfl
  | @last t =>
    have ht := hstands t List.mem_cons_self
    obtain ⟨c, r, hc, -⟩ := ht.cons
    have hnext : next (t.text.toList ++ []) = (.token t.kind, t.text.toList.length) := by
      rw [List.append_nil, ht.1]
    have hscan := scanFrom_token (by simp [hc]) hnext offset
    rw [List.append_nil] at hscan
    rw [hscan, String.ofList_toList]
    rfl
  | @more t u ts sep text hsep _ ih =>
    obtain ⟨ht, hts⟩ := List.forall_mem_cons.1 hstands
    cases hsep with
    | mk hb hlayout =>
      rw [List.cons_append, scanFrom_stands ht hb, scanFrom_of_layout hlayout, List.map_cons,
        ih hts, List.map_cons]
      rfl

/-- Only the tokens of a source say how it is read: with any other separators between them it has
the same tokens, the same classes and the same value. -/
theorem scan_separated {source text : List Char} (hquote : ∀ t ∈ scan source, ¬ t.IsLoneQuote)
    (h : Separated (scan source) text) :
    (scan text).map unplaced = (scan source).map unplaced ∧
    (∀ path, Declaration.parse path text = Declaration.parse path source) ∧
    ∀ directory file,
      Script.evaluate directory file text = Script.evaluate directory file source := by
  have hscan : (scan text).map unplaced = (scan source).map unplaced :=
    h.scanFrom (fun t ht => stands_of_mem_scan ht (hquote t ht)) 0
  exact ⟨hscan, fun path => Declaration.parse_congr path hscan,
    fun directory file => Script.evaluate_congr directory file hscan⟩

/-- Quotes in comments between the tokens, and comment signs in a string, do not matter. -/
theorem scan_separated_quotes :
    let source := "<?php return\x27//\x27;".toList
    let text := "return".toList ++ (" /*\x27*/".toList ++
      ("\x27//\x27".toList ++ (" #\x27\n".toList ++ ";".toList)))
    (∀ t ∈ scan source, ¬ t.IsLoneQuote) ∧ Separated (scan source) text ∧
      (scan text).map unplaced = (scan source).map unplaced ∧
      Script.evaluate {} none text = Script.evaluate {} none source := by
  intro source text
  have hscan : scan source =
      [⟨.name, "return", 6⟩, ⟨.string, "\x27//\x27", 12⟩, ⟨.op, ";", 16⟩] := by
    decide +kernel
  have hquote : ∀ t ∈ scan source, ¬ t.IsLoneQuote := by
    rw [hscan]
    decide
  have hbody : ¬ ['*', '/'] <:+: ['\x27'] := by decide
  have hblock : Comment "/*\x27*/".toList := .block hbody
  have hend : '\n' ∉ ['\x27'] := by decide
  have hline : Comment "#\x27\n".toList := .line (.hash hend (by decide))
  have hseparated : Separated (scan source) text := by
    rw [hscan]
    exact .more (.mk (b := ' ') (by decide) (.comment hblock .nil))
      (.more (.mk (b := ' ') (by decide) (.comment hline .nil)) .last)
  obtain ⟨htokens, -, hvalue⟩ := scan_separated hquote hseparated
  exact ⟨hquote, hseparated, htokens, hvalue {} none⟩

end Token

end RouteAudit.Source
