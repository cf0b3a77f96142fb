import Stencil.Engine.Standard
import Stencil.Proofs.ExpressionTags
import Stencil.Proofs.IntegerLiterals
import Stencil.Render

/-!
# Tags of number literals

A number literal is a whole number in one of four radices, with an optional sign in front and maybe
blanks between the two. In a tag of its own it is read and printed exactly up to both ends of the
range of 64 bits. Beyond, it is never read as a whole number.

- `NumberLiteral`: a sign, and the text of a number behind it.
- `NumberLiteral.tag`: the source that prints a literal.
- `NumberLiteral.exists_expression`: what is read of the tokens of a literal.
- `NumberLiteral.exists_compile_tag`: the template of a tag.
- `Engine.render_literal`: what such a template prints.
- `NumberLiteral.exact_value`: literals within the range and beyond.
-/

namespace Stencil

open Lexer Parse Literal

/-- A number with an optional sign in front, and maybe blanks between the two. -/
structure NumberLiteral where
  sign : Sign
  gap : List Char
  radix : Radix
  magnitude : Nat
  text : List Char
  blank : ∀ c ∈ gap, isSpace c
  writes : radix.Writes magnitude text

/-! ## Tokens -/

namespace Literal

variable {r : Radix} {m : Nat} {text : List Char}

/-- The number that a text writes begins with a digit. -/
theorem Radix.Writes.exists_cons (h : r.Writes m text) :
    ∃ c cs, text = c :: cs ∧ c.isDigit := by
  obtain @⟨cs, xs, written, nonempty, -, first⟩ := h
  cases r with
  | decimal =>
    cases cs with
    | nil =>
      cases written
      exact absurd rfl nonempty
    | cons c cs =>
      rcases eq_or_isDigit_of_mem written List.mem_cons_self with rfl | ⟨x, digit⟩
      · exact absurd rfl (first rfl)
      · exact ⟨c, cs, rfl, (isDigit_of_isDigit digit).1⟩
  | _ => exact ⟨'0', _ :: cs, rfl, rfl⟩

/-- A number is a token of its own. -/
theorem lexeme_of_writes (h : r.Writes m text) : lexeme false text = .ok (.number, text) := by
  have parts : ∀ c ∈ text, isNumberPart c := by
    intro c hc
    rcases h.eq_or_isAlphanum hc with rfl | alphanum
    · rfl
    · rw [isNumberPart, alphanum]
      rfl
  obtain ⟨c, cs, rfl, digit⟩ := h.exists_cons
  have mark : single? c = none := by
    cases found : single? c with
    | none => rfl
    | some kind =>
      have others : ∀ m ∈ marks, m.1.isDigit = false := by decide
      cases (others _ (mem_marks_of_single? found)).symm.trans digit
  have other : c ≠ '?' ∧ c ≠ '"' := by
    constructor <;> rintro rfl <;> cases digit
  rw [lexeme.eq_def]
  dsimp only
  rw [mark]
  dsimp only
  rw [if_neg other.1, if_neg other.2, Bool.and_false, if_neg Bool.false_ne_true, if_pos digit,
    List.takeWhile_eq_self_iff.2 fun d hd => parts d (List.mem_cons_of_mem c hd)]

/-- The token of a sign. -/
def Sign.lexemes : Sign → List Lexeme
  | .none => []
  | .plus => [(.plus, String.ofList ['+'])]
  | .minus => [(.minus, String.ofList ['-'])]

end Literal

namespace NumberLiteral

variable (l : NumberLiteral)

/-- The number that is meant. -/
def value : Int := signed l.sign.isNegative l.magnitude

/-- The literal as it is written. -/
def chars : List Char := l.sign.chars ++ (l.gap ++ l.text)

/-- The source that prints the literal. -/
def tag : String := "\x7b\x7b " ++ String.ofList l.chars ++ " \x7d\x7d"

/-- The tokens of the literal. -/
def lexemes : List Lexeme := l.sign.lexemes ++ [(.number, String.ofList l.text)]

theorem settled_lexemes : Settled (kinds l.lexemes) := by
  rw [lexemes]
  cases l.sign with
  | none => exact .single rfl
  | plus => exact @Settled.sign false [] .nil
  | minus => exact @Settled.sign true [] .nil

theorem spelled_chars : Spelled false (l.chars ++ [' ']) l.lexemes := by
  have nothing (path : Bool) : Spelled path [' '] [] := .blank rfl .nil
  have number : Spelled false l.text [(.number, String.ofList l.text)] := by
    refine .token (lexeme_of_writes l.writes) nofun ?_
    rw [List.drop_length]
    exact .nil
  have behind : Spelled false (l.gap ++ (l.text ++ [' '])) [(.number, String.ofList l.text)] :=
    .blanks l.blank (number.append (breaks_cons rfl) nothing)
  rw [chars, lexemes, List.append_assoc, List.append_assoc]
  cases l.sign with
  | none => exact behind
  | plus => exact .mark rfl nofun behind
  | minus => exact .mark rfl nofun behind

theorem toList_tag :
    l.tag.toList = '\x7b' :: '\x7b' :: ' ' :: (l.chars ++ [' '] ++ ['\x7d', '\x7d']) := by
  simp only [tag, String.toList_append, String.toList_ofList, List.append_assoc]
  rfl

/-! ## Expressions -/

theorem term_number {s : Surroundings} {t : Token} {n : Nat} (kind : t.kind = .number)
    (R : List Token) : term s (n + 1) (t :: R) =
      (lift (number s.source t.text.toList t.span false)).map fun v => (.literal v t.span, R) := by
  rw [term, any_cons_bind]
  simp only [kind]
  cases lift (number s.source t.text.toList t.span false) <;> rfl

theorem signed_number {s : Surroundings} {sign t : Token} {negative : Bool}
    (kind : t.kind = .number) (R : List Token) : Parse.signed s sign negative (t :: R) =
      (lift (number s.source t.text.toList (sign.span.join t.span) negative)).map fun v =>
        (.literal v (sign.span.join t.span), R) := by
  rw [Parse.signed, expect_cons kind, ok_bind]
  dsimp only
  cases lift (number s.source t.text.toList (sign.span.join t.span) negative) <;> rfl

theorem term_signed {s : Surroundings} {sign t : Token} {negative : Bool} {n : Nat}
    (hsign : sign.kind = if negative then .minus else .plus) (kind : t.kind = .number)
    (R : List Token) : term s (n + 1) (sign :: t :: R) =
      (lift (number s.source t.text.toList (sign.span.join t.span) negative)).map fun v =>
        (.literal v (sign.span.join t.span), R) := by
  rw [term, any_cons_bind]
  cases negative with
  | true =>
    rw [if_pos rfl] at hsign
    simp only [hsign]
    exact signed_number kind R
  | false =>
    rw [if_neg Bool.false_ne_true] at hsign
    simp only [hsign]
    exact signed_number kind R

/-- What is read of the tokens of a literal: the number, or the error in it. -/
theorem exists_term (s : Surroundings) {C : List Token} (hC : C.map Token.lexeme = l.lexemes) :
    ∃ span, ∀ n R, term s (n + 1) (C ++ R) =
      (lift (number s.source l.text span l.sign.isNegative)).map fun v =>
        (.literal v span, R) := by
  have number {C' : List Token} (hC' : C'.map Token.lexeme = [(.number, String.ofList l.text)]) :
      ∃ t, C' = [t] ∧ t.kind = .number ∧ t.text.toList = l.text := by
    obtain ⟨t, rfl, ht⟩ := List.map_eq_singleton_iff.1 hC'
    obtain ⟨kind, text⟩ := Prod.mk.inj ht
    exact ⟨t, rfl, kind, by rw [text, String.toList_ofList]⟩
  have behind {k : Lexeme} (hC : C.map Token.lexeme = k :: [(.number, String.ofList l.text)]) :
      ∃ sign t, C = [sign, t] ∧ sign.kind = k.1 ∧ t.kind = .number ∧ t.text.toList = l.text := by
    obtain ⟨sign, C', rfl, rfl, hC'⟩ := List.map_eq_cons_iff.1 hC
    obtain ⟨t, rfl, kind, text⟩ := number hC'
    exact ⟨sign, t, rfl, rfl, kind, text⟩
  rw [lexemes] at hC
  cases hsign : l.sign with
  | none =>
    rw [hsign] at hC
    obtain ⟨t, rfl, kind, text⟩ := number hC
    exact ⟨t.span, fun n R => text ▸ term_number kind R⟩
  | plus =>
    rw [hsign] at hC
    obtain ⟨sign, t, rfl, plus, kind, text⟩ := behind hC
    exact ⟨sign.span.join t.span, fun n R => text ▸ term_signed plus kind R⟩
  | minus =>
    rw [hsign] at hC
    obtain ⟨sign, t, rfl, minus, kind, text⟩ := behind hC
    exact ⟨sign.span.join t.span, fun n R => text ▸ term_signed minus kind R⟩

/-- The same up to the end of a tag. -/
theorem exists_expression {s : Surroundings} (hs : s.failure = none) {C : List Token}
    (hC : C.map Token.lexeme = l.lexemes) (offset : Nat) :
    ∃ span, expression s (C ++ [expressionClosing offset]) =
      (lift (number s.source l.text span l.sign.isNegative)).map fun v =>
        (.literal v span, [expressionClosing offset]) := by
  obtain ⟨span, read⟩ := l.exists_term s hC
  refine ⟨span, ?_⟩
  have last : startsWith .pipe [expressionClosing offset] = false := rfl
  rw [expression, bound, expr, read]
  cases lift (number s.source l.text span l.sign.isNegative) with
  | ok v => exact filters_eq_self hs (by omega) _ last
  | error f => rfl

/-! ## Templates -/

/-- The template of the tag of a literal, or the error in it. -/
theorem exists_compile_tag {e : Engine} (he : e.delimiters = .standard) :
    ∃ span whole, e.compile l.tag =
      match number l.tag l.text span l.sign.isNegative with
      | .ok v => .ok ⟨none, l.tag, [.output (.literal v span) whole]⟩
      | .error err => .error (.error err) := by
  obtain ⟨C, offset, whole, hC, ok, error⟩ :=
    Engine.compile_expressionTag he l.toList_tag l.spelled_chars l.settled_lexemes
  obtain ⟨span, read⟩ := @exists_expression l ⟨l.tag, none⟩ rfl C hC offset
  refine ⟨span, whole, ?_⟩
  dsimp only at read
  cases found : number l.tag l.text span l.sign.isNegative with
  | ok v =>
    rw [found] at read
    exact ok _ read
  | error err =>
    rw [found] at read
    exact error err read

end NumberLiteral

/-- What the tag of a literal prints: the text of its value. -/
theorem Engine.render_literal (e : Engine) {job : Job} {data : Value} (hdata : job.data = .ok data)
    (hroom : job.room = none) (source : String) {v : Value} (span whole : Span) {text : String}
    (written : e.defaultFormatter v = .written text) :
    e.render ⟨none, source, [.output (.literal v span) whole]⟩ job =
      ⟨.ok .empty, (Output.empty none).append text, []⟩ := by
  let t : Template := ⟨none, source, [.output (.literal v span) whole]⟩
  have format : Step.format t e.defaultFormatter v span =
      Render.write text >>= fun _ => pure () := by
    rw [Step.format, written]
    rfl
  have body : t.renderAt e (e.depthLimit job) (e.depthLimit job - 1 + 1) =
      Render.named none (Step.format t e.defaultFormatter v span) >>= fun _ => pure () := rfl
  rw [format] at body
  rw [render, run, hdata]
  dsimp only
  rw [Job.initial, hroom, body]
  rfl

/-! ## The range -/

namespace NumberLiteral

variable (l : NumberLiteral) {e : Engine}

/-- The number has 64 bits with a sign. -/
def InRange : Prop := -2 ^ 63 ≤ l.value ∧ l.value < 2 ^ 63

/-- There is a mark of the radix or an underscore in the literal. -/
def IsMarked : Prop := l.radix ≠ .decimal ∨ '_' ∈ l.text

instance : Decidable l.InRange :=
  inferInstanceAs (Decidable (-2 ^ 63 ≤ l.value ∧ l.value < 2 ^ 63))

instance : Decidable l.IsMarked :=
  inferInstanceAs (Decidable (l.radix ≠ .decimal ∨ '_' ∈ l.text))

/-- The value or the error that is read where the literal stands. -/
def read (source : String) (span : Span) : Except Error Value :=
  number source l.text span l.sign.isNegative

/-- The template of the tag, with a value for the literal. -/
def template (v : Value) (span whole : Span) : Template :=
  ⟨none, l.tag, [.output (.literal v span) whole]⟩

theorem fitsSigned_value : Word.fitsSigned l.value ↔ l.InRange := by
  rw [Word.fitsSigned, Bool.and_eq_true, decide_eq_true_iff, decide_eq_true_iff, InRange]
  exact Iff.rfl

/-- Whole numbers within the range are read and printed exactly. -/
theorem exact_of_inRange (he : e.delimiters = .standard) (hf : e.defaultFormatter = .standard)
    {job : Job} {data : Value} (hdata : job.data = .ok data) (hroom : job.room = none)
    (inRange : l.InRange) :
    ∃ k : Int64, k.toInt = l.value ∧ (∀ source span, l.read source span = .ok (.int k)) ∧
      ∃ span whole, e.compile l.tag = .ok (l.template (.int k) span whole) ∧
        (e.render (l.template (.int k) span whole) job).result = .ok .empty ∧
        (e.render (l.template (.int k) span whole) job).body = toString l.value := by
  have fits := l.fitsSigned_value.2 inRange
  have read (source : String) (span : Span) : l.read source span = .ok (.int (.ofInt l.value)) :=
    number_eq_int l.writes fits
  obtain ⟨span, whole, compiled⟩ := l.exists_compile_tag he
  refine ⟨.ofInt l.value, toInt_ofInt fits, read, span, whole, ?_, ?_⟩
  · rw [compiled, ← NumberLiteral.read, read]
    rfl
  · have written : e.defaultFormatter (.int (.ofInt l.value)) = .written (toString l.value) := by
      rw [hf, Formatter.standard, toInt_ofInt fits]
    rw [template, Engine.render_literal e hdata hroom l.tag span whole written]
    exact ⟨rfl, String.empty_append⟩

/-- Beyond the range, marked literals are errors. -/
theorem error_of_isMarked (he : e.delimiters = .standard) (beyond : ¬ l.InRange)
    (marked : l.IsMarked) :
    (∀ source span, l.read source span =
        .error (Error.syntaxAt (.integerOutOfRange l.radix.base) source span)) ∧
      ∃ span, e.compile l.tag =
        .error (.error (Error.syntaxAt (.integerOutOfRange l.radix.base) l.tag span)) := by
  have read (source : String) (span : Span) : l.read source span =
      .error (Error.syntaxAt (.integerOutOfRange l.radix.base) source span) :=
    number_eq_error l.writes (fun fits => beyond (l.fitsSigned_value.1 fits)) marked
  obtain ⟨span, whole, compiled⟩ := l.exists_compile_tag he
  refine ⟨read, span, ?_⟩
  rw [compiled, ← NumberLiteral.read, read]

/-- Beyond the range, plain decimals are doubles. -/
theorem float_of_not_isMarked (he : e.delimiters = .standard) (beyond : ¬ l.InRange)
    (plain : ¬ l.IsMarked) :
    ∃ x, Decimal.readFloat l.text = some x ∧
      (∀ source span, l.read source span = .ok (.float (if l.sign.isNegative then -x else x))) ∧
      ∃ span whole, e.compile l.tag =
        .ok (l.template (.float (if l.sign.isNegative then -x else x)) span whole) := by
  have decimal : l.radix = .decimal ∧ '_' ∉ l.text := by
    rw [IsMarked, not_or, not_not] at plain
    exact plain
  have read (source : String) (span : Span) : l.read source span = .ok (.float
      (if l.sign.isNegative then -Decimal.toFloat l.magnitude 0
        else Decimal.toFloat l.magnitude 0)) :=
    number_eq_float l.writes (fun fits => beyond (l.fitsSigned_value.1 fits)) decimal
  obtain ⟨span, whole, compiled⟩ := l.exists_compile_tag he
  refine ⟨_, readFloat_of_writes l.writes decimal, read, span, whole, ?_⟩
  rw [compiled, ← NumberLiteral.read, read]
  rfl

/-- Within the range of 64 bits a literal is the number that it writes, in every radix, and its tag
prints this number. Beyond, it is never a whole number: with a mark or an underscore it is an error,
and otherwise the double that is read from its digits. -/
theorem exact_value (he : e.delimiters = .standard) (hf : e.defaultFormatter = .standard) {job : Job}
    {data : Value} (hdata : job.data = .ok data) (hroom : job.room = none) :
    (l.InRange → ∃ k : Int64, k.toInt = l.value ∧
      (∀ source span, l.read source span = .ok (.int k)) ∧
      ∃ span whole, e.compile l.tag = .ok (l.template (.int k) span whole) ∧
        (e.render (l.template (.int k) span whole) job).result = .ok .empty ∧
        (e.render (l.template (.int k) span whole) job).body = toString l.value) ∧
    (¬ l.InRange → l.IsMarked →
      (∀ source span, l.read source span =
        .error (Error.syntaxAt (.integerOutOfRange l.radix.base) source span)) ∧
      ∃ span, e.compile l.tag =
        .error (.error (Error.syntaxAt (.integerOutOfRange l.radix.base) l.tag span))) ∧
    (¬ l.InRange → ¬ l.IsMarked → ∃ x, Decimal.readFloat l.text = some x ∧
      (∀ source span, l.read source span = .ok (.float (if l.sign.isNegative then -x else x))) ∧
      ∃ span whole, e.compile l.tag =
        .ok (l.template (.float (if l.sign.isNegative then -x else x)) span whole)) :=
  ⟨l.exact_of_inRange he hf hdata hroom, l.error_of_isMarked he, l.float_of_not_isMarked he⟩

/-- The number at the lower end of the range has no counterpart at the upper end. -/
def lowest : NumberLiteral where
  sign := .minus
  gap := [' ']
  radix := .hexadecimal
  magnitude := 0x8000000000000000
  text := "0x8000_0000_0000_0000".toList
  blank := List.forall_mem_singleton.2 rfl
  writes := @Radix.Writes.intro .hexadecimal _ "8000_0000_0000_0000".toList
    (8 :: List.replicate 15 0) (by decide) (by decide) (by decide) (by decide)

/-- The same number as a decimal without a sign. -/
def beyond : NumberLiteral where
  sign := .none
  gap := []
  radix := .decimal
  magnitude := 9223372036854775808
  text := "9223372036854775808".toList
  blank := List.forall_mem_nil _
  writes := @Radix.Writes.intro .decimal _ "9223372036854775808".toList
    [9, 2, 2, 3, 3, 7, 2, 0, 3, 6, 8, 5, 4, 7, 7, 5, 8, 0, 8] (by decide) (by decide) (by decide)
    (by decide)

theorem exact_value_lowest :
    (∃ t, (Engine.new .standard).compile "{{ - 0x8000_0000_0000_0000 }}" = .ok t ∧
      ((Engine.new .standard).render t (.ofData .none)).body = "-9223372036854775808") ∧
    (∃ span, (Engine.new .standard).compile "{{  0x8000_0000_0000_0000 }}" =
      .error (.error (Error.syntaxAt (.integerOutOfRange 16)
        "{{  0x8000_0000_0000_0000 }}" span))) ∧
    ∃ x, Decimal.readFloat beyond.text = some x ∧ ∀ source span,
      beyond.read source span = .ok (.float x) := by
  obtain ⟨k, -, -, span, whole, compiled, -, printed⟩ :=
    (@exact_value lowest (.new .standard) rfl rfl (.ofData .none) .none rfl rfl).1 (by decide)
  obtain ⟨-, failed⟩ := (@exact_value { lowest with sign := .none } (.new .standard) rfl rfl
    (.ofData .none) .none rfl rfl).2.1 (by decide) (by decide)
  obtain ⟨x, double, read, -⟩ := (@exact_value beyond (.new .standard) rfl rfl
    (.ofData .none) .none rfl rfl).2.2 (by decide) (by decide)
  exact ⟨⟨_, compiled, printed⟩, failed, x, double, read⟩

end NumberLiteral

end Stencil
