import Mathlib
import RouteAudit.ClassSearch

/-!
# The number of declarations

A file declares no more classes than it has bytes (`length_parse_le`).
-/

namespace RouteAudit

/-- The characters of a file are at most its bytes. -/
lemma Text.Utf8.length_charactersFrom_le (used : Nat) (bytes : List UInt8) :
    (charactersFrom used bytes).length ≤ bytes.length := by
  induction bytes generalizing used with
  | nil => exact Nat.le_refl _
  | cons b bytes ih =>
    cases used with
    | succ used => exact Nat.le_succ_of_le (ih used)
    | zero =>
      rw [charactersFrom]
      cases lead? b.toNat with
      | none => exact Nat.succ_le_succ (ih 0)
      | some lead => exact Nat.succ_le_succ (ih _)

/-- Line ends become no longer. -/
lemma Text.length_unifyNewlines_le (cs : List Char) :
    (unifyNewlines cs).length ≤ cs.length := by
  fun_induction unifyNewlines cs with
  | case1 => exact Nat.le_refl _
  | case2 cs ih => exact Nat.le_succ_of_le (Nat.succ_le_succ ih)
  | case3 cs _ ih => exact Nat.succ_le_succ ih
  | case4 c cs _ _ ih => exact Nat.succ_le_succ ih

/-- A source has no more characters than bytes. -/
lemma length_sourceText_le (bytes : List UInt8) : (sourceText bytes).length ≤ bytes.length := by
  have characters := Text.Utf8.length_charactersFrom_le 0 bytes
  have lines := Text.length_unifyNewlines_le (Text.Utf8.decodeLossy bytes)
  rw [Text.Utf8.decodeLossy, List.length_map] at lines
  exact Nat.le_trans lines characters

namespace Source

/-- Each lexeme takes up a character. -/
lemma Lexer.length_lexemes_le (offset used : Nat) (cs : List Char) :
    (lexemes offset used cs).length ≤ cs.length := by
  induction cs generalizing offset used with
  | nil => exact Nat.le_refl _
  | cons c cs ih =>
    cases used with
    | succ used => exact Nat.le_succ_of_le (ih _ used)
    | zero => exact Nat.succ_le_succ (ih _ _)

/-- A source has no more tokens than characters. -/
lemma Token.length_scan_le (cs : List Char) : (scan cs).length ≤ cs.length :=
  Nat.le_trans (List.length_filterMap_le _ _) (Lexer.length_lexemes_le 0 0 cs)

namespace Declaration

/-- Each class takes up a token. -/
lemma length_readAll_le (scope : NameScope) (isAbstract inExpression : Bool) (ts : List Token) :
    (readAll scope isAbstract inExpression ts).length ≤ ts.length := by
  fun_induction readAll scope isAbstract inExpression ts with
  | case1 => exact Nat.le_refl _
  | case2 => exact Nat.zero_le _
  | case7 _ _ _ t ts _ _ _ kind name _ hrest ih =>
    rw [List.length_drop] at hrest
    simp only [List.length_cons]
    omega
  | _ =>
    simp only [List.length_cons] at *
    omega

/-- A file declares no more classes than it has bytes. -/
theorem length_parse_le (path : Option Path) (bytes : List UInt8) :
    (parse path (sourceText bytes)).length ≤ bytes.length := by
  rw [parse, List.length_map]
  calc (texts (sourceText bytes)).length
      ≤ (Token.scan (sourceText bytes)).length := length_readAll_le _ _ _ _
    _ ≤ (sourceText bytes).length := Token.length_scan_le _
    _ ≤ bytes.length := length_sourceText_le bytes

end Declaration

end Source

end RouteAudit
