import RouteAudit.Proofs.Source.Literal.Quotation
import RouteAudit.Proofs.Text.Numeral

/-!
# Integers in a source

An integer literal is one token, in whatever notation it is written, and a source that returns it
has the value that is read from it (`evaluate_integerLiteral`).
-/

namespace RouteAudit.Text.Numeral
open Source.Lexer

namespace IntegerLiteral

/-- A literal has digits. -/
lemma write_ne_nil (l : IntegerLiteral) : l.write ≠ [] := by
  obtain ⟨c, cs, hwrite, -⟩ := l.exists_write
  rw [hwrite]
  exact List.cons_ne_nil c cs

/-- A literal is one token up to the next character that is neither a word character nor a point. -/
lemma next_write (l : IntegerLiteral) {b : Char} (hb : (isWord b || b == '.') = false)
    (rest : List Char) : next (l.write ++ b :: rest) = (.token .number, l.write.length) := by
  obtain ⟨c, cs, hwrite, hc, hcs⟩ := l.exists_write
  rw [hwrite]
  exact next_number (numberLength?_append (numberLength?_words hc hcs) hb rest)

end IntegerLiteral

end RouteAudit.Text.Numeral

namespace RouteAudit.Source

/-- A number token by itself is the expression that is read from it. -/
lemma Expr.alone_number (text : String) : Expr.alone [⟨.number, text, 0⟩] = Expr.ofNumber text := by
  refine (Expr.separate_of_reads fun stop rest hs => ?_).1
  rw [List.singleton_append, Expr.outcome_read, Expr.outcome_readOperand]
  exact Expr.readChain_terminator _ hs _

namespace Token
open Lexer Text Numeral

/-- **An integer literal has the value that it stands for, unless it is written with a leading
zero.**  In base ten, with the mark of another base in either letter case, and with underscores
between the digits it is this integer.  With a leading zero it is this integer only if all digits
are zero and can be read at once; otherwise it is the floating-point number of its digits in base
ten. -/
theorem evaluate_integerLiteral (l : IntegerLiteral) (small : l.value < 2 ^ 63)
    {tag front gap : List Char} (htag : tag ∈ [[], "<?php".toList]) (hfront : Layout [] front)
    (hgap : Layout [] gap) (hne : gap ≠ []) (directory : Path) (file : Option Path) :
    let source := returning tag front gap l.write
    (¬l.Misread → Script.evaluate directory file source = .ok (.integer l.value)) ∧
    (l.Misread → Script.evaluate directory file source =
      .ok (.double (nearest (Nat.ofDigits 10 l.values.reverse)))) := by
  intro source
  have hhead : ∀ c ∈ (gap ++ (l.write ++ [';'])).head?, isWord c = false ∧ c ≠ '\\' := by
    -- the literal would go on the keyword, but there is layout between them
    obtain ⟨b, behind, rfl⟩ := List.exists_cons_of_ne_nil hne
    have layout : ∀ c ∈ (b :: behind ++ []).head?, isWord c = false ∧ c ≠ '\\' :=
      head?_layout hgap nofun
    exact layout
  have writes := writes_returning_token htag hfront hgap l.write_ne_nil
    (l.next_write (by decide) []) hhead
  have run := Grammar.evaluate_returning writes directory file
  rw [Expr.alone_number, Expr.ofNumber] at run
  constructor
  · intro read
    rw [run, read?_write small read]
    rfl
  · intro misread
    rw [run, read?_write_misread misread]
    rfl

/-- The same number in hexadecimal digits, with a capital mark and an underscore, and in octal digits
behind a leading zero, where it is taken for a number in base ten. -/
theorem evaluate_integerLiteral_leadingZero :
    let hexadecimal := IntegerLiteral.marked .hexadecimal true
      { first := { value := (1 : Fin 16) }
        rest := [(true, { value := (11 : Fin 16), capital := true })] }
    let octal := IntegerLiteral.leadingZero
      { first := { value := 0 }, rest := [(false, { value := 3 }), (false, { value := 3 })] }
      rfl (List.cons_ne_nil _ _)
    let returns (l : IntegerLiteral) (v : Value) :=
      Script.evaluate {} none (returning "<?php".toList [' '] [' '] l.write) = .ok v
    hexadecimal.write = "0X1_B".toList ∧ octal.write = "033".toList ∧
      hexadecimal.value = 27 ∧ octal.value = 27 ∧
      returns hexadecimal (.integer 27) ∧ returns octal (.double (nearest 33)) := by
  intro hexadecimal octal returns
  have blank : Layout [] [' '] := .blank rfl .nil
  have evaluated (l : IntegerLiteral) (small : l.value < 2 ^ 63) :=
    evaluate_integerLiteral l small (List.mem_cons_of_mem _ List.mem_cons_self) blank blank
      (List.cons_ne_nil _ _) {} none
  refine ⟨by decide, by decide, by decide, by decide, ?_, ?_⟩
  · exact (evaluated hexadecimal (by decide)).1 id
  · exact (evaluated octal (by decide)).2 (.inl (by decide))

end Token

end RouteAudit.Source
