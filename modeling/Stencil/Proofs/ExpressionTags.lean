import Stencil.Engine
import Stencil.Proofs.Completeness
import Stencil.Proofs.Lexemes

/-!
# Tags of expressions

A source that is the tag of an expression and nothing else has the tokens of the expression between
the two delimiters. It is read as one statement, or fails as the expression does.

- `Settled.foldl_depthAfter`: no brace is open behind an expression.
- `exists_lex_expressionTag`: the tokens of a tag.
- `Engine.compile_expressionTag`: the template of a tag.
-/

namespace Stencil

/-- No brace is open behind an expression that was not open before. -/
theorem Settled.foldl_depthAfter {ks : List TokenKind} (h : Settled ks) (depth : Nat) :
    ks.foldl Lexer.depthAfter depth = depth := by
  induction h generalizing depth with
  | nil => rfl
  | @plain k ks hk _ ih =>
    have same : Lexer.depthAfter depth k = depth := by
      cases k with
      | leftBrace => cases hk
      | rightBrace => cases hk
      | _ => rfl
    rw [List.foldl_cons, same, ih]
  | @sign negative ks _ ih =>
    cases negative
    all_goals exact ih depth
  | @braces inside ks _ _ _ ihInside ih =>
    rw [List.foldl_cons, List.foldl_append, ihInside, List.foldl_cons]
    exact ih depth

/-! ## Tokens -/

namespace Lexer

variable {path : Bool} {source : String} {opening : Span}

/-- The opening delimiter of a tag at the start of the source. -/
def expressionOpening : Token := ⟨.opening .expression, ⟨0, 2⟩, String.ofList ['\x7b', '\x7b']⟩

/-- The closing delimiter of a tag. -/
def expressionClosing (offset : Nat) : Token :=
  ⟨.closing .expression, ⟨offset, offset + 2⟩, String.ofList ['\x7d', '\x7d']⟩

/-- The tag of an expression is read from its opening delimiter on. -/
theorem run_opening {n : Nat} (cs : List Char) :
    run .standard source [] (n + 1) ⟨.text, false, 0, '\x7b' :: '\x7b' :: ' ' :: cs⟩ =
      let l := run .standard source [] n ⟨.tag .expression ⟨0, 2⟩ 0 false, false, 2, ' ' :: cs⟩
      ⟨expressionOpening :: l.tokens, l.failure⟩ := by
  have read : step .standard source [] ⟨.text, false, 0, '\x7b' :: '\x7b' :: ' ' :: cs⟩ =
      .tokens [expressionOpening] ⟨.tag .expression ⟨0, 2⟩ 0 false, false, 2, ' ' :: cs⟩ := rfl
  rw [run_of_tokens (List.cons_ne_nil _ _) read]
  rfl

/-- Behind an expression, its tag and the source end. -/
theorem run_closing {n offset : Nat} (hn : 2 < n) :
    run .standard source [] n ⟨.tag .expression opening 0 path, false, offset, ['\x7d', '\x7d']⟩ =
      ⟨[expressionClosing offset], none⟩ := by
  obtain ⟨n, rfl⟩ := Nat.exists_eq_add_of_lt hn
  have read : step .standard source []
      ⟨.tag .expression opening 0 path, false, offset, ['\x7d', '\x7d']⟩ =
        .tokens [expressionClosing offset] ⟨.text, false, offset + 2, []⟩ := rfl
  rw [run_of_tokens (List.cons_ne_nil _ _) read, run_of_nil rfl]
  rfl

end Lexer

open Lexer Parse

variable {source : String} {cs : List Char} {ks : List Lexeme}

/-- The tokens of a source that is the tag of an expression. -/
theorem exists_lex_expressionTag
    (written : source.toList = '\x7b' :: '\x7b' :: ' ' :: (cs ++ ['\x7d', '\x7d']))
    (spelled : Spelled false cs ks) (settled : Settled (kinds ks)) :
    ∃ C offset, C.map Token.lexeme = ks ∧ (lex .standard source).failure = none ∧
      (lex .standard source).significant =
        expressionOpening :: (C ++ [expressionClosing offset]) := by
  have blank : Spelled false (' ' :: cs) ks := .blank rfl spelled
  have enough : (' ' :: cs ++ ['\x7d', '\x7d']).length < source.toList.length := by
    rw [written]
    simp
  obtain ⟨ts, n, offset, path, hn, same, inside⟩ := @exists_run_append _ _ _ source [] .expression
    ⟨0, 2⟩ 0 _ _ 2 false enough blank (.of_settled settled) (breaks_cons rfl) (by rintro _ ⟨⟩; rfl)
  rw [settled.foldl_depthAfter, run_closing hn] at inside
  have all := @run_opening source source.toList.length (cs ++ ['\x7d', '\x7d'])
  rw [← written, ← List.cons_append, inside] at all
  refine ⟨ts.filter fun t => t.kind != .whitespace, offset, same, ?_, ?_⟩
  · rw [lex, all]
  · rw [lex, all, Lexed.significant, List.filter_cons_of_pos rfl, List.filter_append]
    rfl

/-! ## Templates -/

/-- A tag is one statement, if its expression is read up to the closing delimiter. -/
theorem Parse.statements_expressionTag (r : Reader) (hr : r.failure = none) {n offset : Nat}
    {ts : List Token} {x : Expr}
    (read : expression r.toSurroundings ts = .ok (x, [expressionClosing offset])) :
    statements r (n + 2) .empty (expressionOpening :: ts) =
      .ok [.output x (expressionOpening.span.join (expressionClosing offset).span)] := by
  have first : statement r .empty expressionOpening ts = .ok (Builder.empty.add
      (.output x (expressionOpening.span.join (expressionClosing offset).span)), []) := by
    show (expression r.toSurroundings ts >>= _) = _
    rw [read]
    rfl
  have ended : next? r.toSurroundings [] = .ok none := by rw [next?, hr]
  rw [statements]
  show (statement r .empty expressionOpening ts >>= _) = _
  rw [first]
  show statements r (n + 1) _ [] = _
  rw [statements, ended]
  rfl

/-- A tag fails as its expression does. -/
theorem Parse.statements_expressionTag_error (r : Reader) {n : Nat} {ts : List Token} {f : Failure}
    (read : expression r.toSurroundings ts = .error f) :
    statements r (n + 1) .empty (expressionOpening :: ts) = .error f := by
  have first : statement r .empty expressionOpening ts = .error f := by
    show (expression r.toSurroundings ts >>= _) = _
    rw [read]
    rfl
  rw [statements]
  show (statement r .empty expressionOpening ts >>= _) = _
  rw [first]
  rfl

/-- The template of a source that is the tag of an expression: what is read of the expression
decides. -/
theorem Engine.compile_expressionTag {e : Engine} (he : e.delimiters = .standard)
    (written : source.toList = '\x7b' :: '\x7b' :: ' ' :: (cs ++ ['\x7d', '\x7d']))
    (spelled : Spelled false cs ks) (settled : Settled (kinds ks)) :
    ∃ C offset span, C.map Token.lexeme = ks ∧
      (∀ x, expression ⟨source, none⟩ (C ++ [expressionClosing offset]) =
          .ok (x, [expressionClosing offset]) →
        e.compile source = .ok ⟨none, source, [.output x span]⟩) ∧
      ∀ err, expression ⟨source, none⟩ (C ++ [expressionClosing offset]) = .error (.error err) →
        e.compile source = .error (.error err) := by
  obtain ⟨C, offset, same, ok, tokens⟩ := exists_lex_expressionTag written spelled settled
  let r : Reader := ⟨⟨source, none⟩, e.language, Origin.identityOf none source⟩
  have body : template e.language none source =
      statements r (C.length + 1 + 2) .empty
        (expressionOpening :: (C ++ [expressionClosing offset])) := by
    have standard : e.language.delimiters = .standard := he
    rw [template, standard, ok, tokens, List.length_cons, List.length_append]
    rfl
  refine ⟨C, offset, expressionOpening.span.join (expressionClosing offset).span, same,
    fun x read => ?_, fun err read => ?_⟩
  · rw [compile, Template.compile, body, statements_expressionTag r rfl read]
  · rw [compile, Template.compile, body, statements_expressionTag_error r read]
    rfl

end Stencil
