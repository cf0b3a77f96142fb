import Mathlib.Data.List.Forall2
import Stencil.Proofs.Completeness

/-!
# The grammar of argument lists

The arguments of a directive are read from all of its tokens. They are read from tokens that the
following grammar derives, and from no others, and what is read is what is derived.

    arguments = (expr (',' expr)*)?
    expr      = base ('|' name (':' base (',' base)*)?)*
    base      = 'true' | 'false' | 'none' | ('+' | '-')? number | string
              | name (('.' | '?.') (name | keyword | index))*
              | '[' (expr (',' expr)* ','?)? ']'
              | '{' (key ':' expr (',' key ':' expr)* ','?)? '}'
    key       = name | keyword | string

A comma behind the arguments of a filter belongs to them, so that one that separates expressions, or
that ends a list or a map, does not stand there.

- `Expr.written_iff_piped`: an expression is a base with filters behind it, applied one after the
  other.
- `Expr.WrittenArguments`: the tokens that arguments are written with.
- `Parse.writtenArguments_of_callArgs`: arguments that are read are written with the tokens.
- `Parse.reads_arguments`: arguments are read where they are written.
- `Parse.callArgs_grammar`: arguments are read where the grammar derives some, which are the only
  ones then.
-/

namespace Stencil

/-! ## Filters -/

/-- A filter behind an expression. -/
structure FilterCall where
  name : Ident
  args : List Expr
  /-- The place of the expression with the filter. -/
  span : Span

/-- A filter is written with some tokens: a bar, its name, and its arguments, which are bases,
behind a colon if there are any. -/
def FilterCall.Written (f : FilterCall) (ks : List Lexeme) : Prop :=
  ∃ bar rest, Expr.WrittenArgs .colon f.args rest ∧
    ks = (.pipe, bar) :: (.identifier, f.name.name) :: rest

namespace Expr

/-- An expression with filters applied to it, the first of them first. -/
def piped (x : Expr) (fs : List FilterCall) : Expr :=
  fs.foldl (fun x f => .filter x f.name f.args f.span) x

theorem written_piped {x : Expr} {front : List Lexeme} {fs : List FilterCall}
    {kss : List (List Lexeme)} (h : x.Written front)
    (hfs : List.Forall₂ FilterCall.Written fs kss) :
    (x.piped fs).Written (front ++ kss.flatten) := by
  induction hfs generalizing x front with
  | nil => rwa [List.flatten_nil, List.append_nil]
  | @cons f ks fs kss written _ ih =>
    obtain ⟨bar, rest, writtenArgs, rfl⟩ := written
    rw [List.flatten_cons, ← List.append_assoc]
    exact ih ⟨front, bar, rest, h, writtenArgs, rfl⟩

/-- An expression is a base with filters applied to it, and is written with the tokens of the base
and then those of the filters. -/
def WrittenPiped (x : Expr) (ks : List Lexeme) : Prop :=
  ∃ (base : Expr) (fs : List FilterCall) (front : List Lexeme) (kss : List (List Lexeme)),
    x = base.piped fs ∧ base.isFilter = false ∧ base.Written front ∧
      List.Forall₂ FilterCall.Written fs kss ∧ ks = front ++ kss.flatten

theorem writtenPiped_of_written (x : Expr) {ks : List Lexeme} (h : x.Written ks) :
    x.WrittenPiped ks := by
  cases x with
  | filter receiver name args span =>
    obtain ⟨_, bar, rest, written, writtenArgs, rfl⟩ := h
    obtain ⟨base, fs, front, kss, rfl, isBase, writtenBase, filters, rfl⟩ :=
      writtenPiped_of_written receiver written
    refine ⟨base, fs ++ [⟨name, args, span⟩], front, kss ++ [_], ?_, isBase, writtenBase,
      List.rel_append filters (.cons ⟨bar, rest, writtenArgs, rfl⟩ .nil), ?_⟩
    · simp only [piped, List.foldl_append, List.foldl_cons, List.foldl_nil]
    · simp only [List.flatten_append, List.flatten_cons, List.flatten_nil, List.append_nil,
        List.append_assoc]
  | _ => exact ⟨_, [], ks, [], rfl, rfl, h, .nil, (List.append_nil ks).symm⟩

/-- An expression is written as a base with filters behind it. -/
theorem written_iff_piped {x : Expr} {ks : List Lexeme} : x.Written ks ↔ x.WrittenPiped ks := by
  refine ⟨writtenPiped_of_written x, ?_⟩
  rintro ⟨base, fs, front, kss, rfl, -, written, filters, rfl⟩
  exact written_piped written filters

/-- A complete list of arguments is written with some tokens. An argument with a comma behind it
does not end in the arguments of a filter. -/
def WrittenArguments : List Expr → List Lexeme → Prop
  | [], ks => ks = []
  | [x], ks => x.Written ks
  | x :: y :: xs, ks =>
    ∃ front sign rest, x.Written front ∧ x.endsInArguments = false ∧
      WrittenArguments (y :: xs) rest ∧ ks = front ++ (.comma, sign) :: rest

theorem writtenArguments_cons {x : Expr} {xs : List Expr} {front rest : List Lexeme} {sign : String}
    (first : x.Written front) (apart : x.endsInArguments = false) (nonempty : xs ≠ [])
    (others : WrittenArguments xs rest) :
    WrittenArguments (x :: xs) (front ++ (.comma, sign) :: rest) := by
  cases xs with
  | nil => exact absurd rfl nonempty
  | cons y xs => exact ⟨front, sign, rest, first, apart, others, rfl⟩

end Expr

namespace Parse

variable {s : Surroundings} {ts : List Token}

/-! ## What is read is derived -/

theorem next?_of_nil (hs : s.failure = none) : next? s [] = .ok none := by
  rw [next?, hs]

theorem failure_of_next? (h : next? s ts = .ok none) : s.failure = none := by
  cases ts with
  | cons t ts => cases h
  | nil =>
    rw [next?] at h
    split at h
    · cases h
    · assumption

/-- An expression with a comma behind it does not end in the arguments of a filter. -/
theorem apart_of_next {x : Expr} {t : Token} {rest : List Token}
    (ends : x.endsInArguments → startsWith .comma ts = false)
    (next : next? s ts = .ok (some (t, rest))) (comma : t.kind = .comma) :
    x.endsInArguments = false := by
  refine Sound.apart_of_comma (s := s) ends ?_
  rw [isNext, next]
  show Except.ok (decide (t.kind = .comma)) = _
  rw [comma]
  rfl

/-- Arguments that are read are written with the tokens, and the tokens end with the source. -/
theorem writtenArguments_of_callArgsFrom {n : Nat} {xs : List Expr}
    (h : callArgsFrom s n ts = .ok xs) :
    s.failure = none ∧ xs ≠ [] ∧ Expr.WrittenArguments xs (ts.map Token.lexeme) := by
  -- on the bound, which goes down with every argument
  induction n generalizing ts xs with
  | zero => cases h
  | succ n ih =>
    obtain ⟨⟨x, rest⟩, readFirst, h₁⟩ := bind_eq_ok h
    obtain ⟨next, readNext, h₂⟩ := bind_eq_ok h₁
    obtain ⟨taken, rfl, written, ends⟩ := written_of_expression readFirst
    cases next with
    | none =>
      cases h₂
      obtain rfl : rest = [] := next?_eq_none readNext
      rw [List.append_nil]
      exact ⟨failure_of_next? readNext, List.cons_ne_nil x [], written⟩
    | some first =>
      obtain ⟨t, rest'⟩ := first
      dsimp only at h₂
      split at h₂
      · next comma =>
        obtain ⟨xs', others, h₃⟩ := bind_eq_ok h₂
        cases h₃
        obtain ⟨ending, nonempty, writtenOthers⟩ := ih others
        have apart := apart_of_next ends readNext comma
        obtain rfl : rest = t :: rest' := next?_eq_some readNext
        rw [List.map_append, List.map_cons, Token.lexeme, comma]
        exact ⟨ending, List.cons_ne_nil x xs',
          Expr.writtenArguments_cons written apart nonempty writtenOthers⟩
      · cases h₂

theorem writtenArguments_of_callArgs {xs : List Expr} (h : callArgs s ts = .ok xs) :
    s.failure = none ∧ Expr.WrittenArguments xs (ts.map Token.lexeme) := by
  obtain ⟨next, readNext, h⟩ := bind_eq_ok h
  cases next with
  | none =>
    cases h
    obtain rfl : ts = [] := next?_eq_none readNext
    exact ⟨failure_of_next? readNext, rfl⟩
  | some first =>
    obtain ⟨ending, -, written⟩ := writtenArguments_of_callArgsFrom h
    exact ⟨ending, written⟩

/-! ## What is derived is read -/

/-- An expression is read if no other token is left. -/
theorem reads_last (hs : s.failure = none) {x : Expr} (h : x.Written (ts.map Token.lexeme)) :
    Reads (expression s ts) x [] := by
  have read := reads_expression hs h stops_nil fun _ => rfl
  rwa [List.append_nil] at read

/-- An expression is read in front of a comma, unless it takes the comma. -/
theorem reads_before_comma (hs : s.failure = none) {x : Expr} {C D : List Token} {comma : Token}
    (h : x.Written (C.map Token.lexeme)) (kind : comma.kind = .comma)
    (apart : x.endsInArguments = false) :
    Reads (expression s (C ++ comma :: D)) x (comma :: D) :=
  reads_expression hs h (stops_cons (.inl kind)) fun ending => absurd ending (by simp [apart])

/-- Arguments are read where they are written, if the bound is enough. -/
theorem reads_argumentsFrom (hs : s.failure = none) : ∀ {n : Nat} {xs : List Expr}
    {ts : List Token}, xs ≠ [] → Expr.WrittenArguments xs (ts.map Token.lexeme) → ts.length < n →
    ∃ ys, callArgsFrom s n ts = .ok ys ∧ Expr.placelessAll ys = Expr.placelessAll xs
  | _, [], _, nonempty, _, _ => absurd rfl nonempty
  | 0, _, _, _, _, room => absurd room (Nat.not_lt_zero _)
  | n + 1, [x], ts, _, h, _ => by
    obtain ⟨y, read, same⟩ := reads_last hs h
    refine ⟨[y], ?_, ?_⟩
    · simp only [callArgsFrom, read, ok_bind, next?_of_nil hs]
    · rw [Expr.placelessAll, Expr.placelessAll, same]
      rfl
  | n + 1, x :: x' :: xs, ts, _, h, room => by
    obtain ⟨front, sign, rest, written, apart, others, hts⟩ := h
    obtain ⟨C, D, rfl, rfl, hD⟩ := List.map_eq_append_iff.1 hts
    obtain ⟨comma, D, rfl, hcomma, rfl⟩ := List.map_eq_cons_iff.1 hD
    have kind : comma.kind = .comma := (Prod.mk.inj hcomma).1
    have shorter : D.length < n := by
      rw [List.length_append, List.length_cons] at room
      omega
    obtain ⟨y, read, same⟩ := reads_before_comma (D := D) hs written kind apart
    obtain ⟨ys, readOthers, sameOthers⟩ :=
      reads_argumentsFrom hs (List.cons_ne_nil x' xs) others shorter
    refine ⟨y :: ys, ?_, ?_⟩
    · simp only [callArgsFrom, read, ok_bind, next?, kind, if_true, readOthers]
    · rw [Expr.placelessAll, Expr.placelessAll, same, sameOthers]

theorem reads_arguments (hs : s.failure = none) {xs : List Expr}
    (h : Expr.WrittenArguments xs (ts.map Token.lexeme)) :
    ∃ ys, callArgs s ts = .ok ys ∧ Expr.placelessAll ys = Expr.placelessAll xs := by
  cases xs with
  | nil =>
    obtain rfl := List.map_eq_nil_iff.1 h
    refine ⟨[], ?_, rfl⟩
    simp only [callArgs, next?_of_nil hs, ok_bind]
  | cons x xs =>
    obtain ⟨ys, read, same⟩ :=
      reads_argumentsFrom hs (List.cons_ne_nil x xs) h (Nat.lt_succ_self ts.length)
    cases ts with
    | nil =>
      -- there is an argument, and it takes a token
      obtain ⟨⟨y, rest⟩, readFirst, -⟩ := bind_eq_ok read
      obtain ⟨taken, eq, written, -⟩ := written_of_expression readFirst
      have pos := length_pos_of_written written
      rw [(List.append_eq_nil_iff.1 eq.symm).1] at pos
      cases pos
    | cons t ts => exact ⟨ys, read, same⟩

/-! ## The grammar -/

/-- The arguments of a directive are read if and only if the grammar derives all of its tokens. Then
the arguments that are read are derived, and up to places no others are. -/
theorem callArgs_grammar (s : Surroundings) (ts : List Token) :
    ((∃ ys, callArgs s ts = .ok ys) ↔
      s.failure = none ∧ ∃ xs, Expr.WrittenArguments xs (ts.map Token.lexeme)) ∧
    ∀ ys, callArgs s ts = .ok ys → Expr.WrittenArguments ys (ts.map Token.lexeme) ∧
      ∀ xs, Expr.WrittenArguments xs (ts.map Token.lexeme) →
        Expr.placelessAll xs = Expr.placelessAll ys := by
  refine ⟨⟨?_, ?_⟩, fun ys read => ?_⟩
  · rintro ⟨ys, read⟩
    obtain ⟨ending, written⟩ := writtenArguments_of_callArgs read
    exact ⟨ending, ys, written⟩
  · rintro ⟨ending, xs, written⟩
    obtain ⟨ys, read, -⟩ := reads_arguments ending written
    exact ⟨ys, read⟩
  · obtain ⟨ending, written⟩ := writtenArguments_of_callArgs read
    refine ⟨written, fun xs derived => ?_⟩
    obtain ⟨ys', read', same⟩ := reads_arguments ending derived
    cases read.symm.trans read'
    exact same.symm

/-- The comma in `a | f: b, c` belongs to the filter, so one argument is derived. In `[a | f: b,]`
it does so as well, and nothing is derived. -/
theorem callArgs_grammar_comma :
    let s : Surroundings := ⟨"", none⟩
    let token (kind : TokenKind) (text : String) : Token := ⟨kind, ⟨0, 0⟩, text⟩
    let call := [token .identifier "a", token .pipe "|", token .identifier "f", token .colon ":",
      token .identifier "b", token .comma ","]
    (∃ y, callArgs s (call ++ [token .identifier "c"]) = .ok [y] ∧
      Expr.WrittenArguments [y] ((call ++ [token .identifier "c"]).map Token.lexeme)) ∧
    ¬ ∃ xs, Expr.WrittenArguments xs
      ((token .leftBracket "[" :: (call ++ [token .rightBracket "]"])).map Token.lexeme) := by
  intro s token call
  refine ⟨?_, fun derived => ?_⟩
  · have read : callArgs s (call ++ [token .identifier "c"]) = .ok [.filter
        (.variable ⟨"a", ⟨0, 0⟩⟩ []) ⟨"f", ⟨0, 0⟩⟩
        [.variable ⟨"b", ⟨0, 0⟩⟩ [], .variable ⟨"c", ⟨0, 0⟩⟩ []] ⟨0, 0⟩] := rfl
    exact ⟨_, read, ((callArgs_grammar s _).2 _ read).1⟩
  · obtain ⟨ys, read⟩ := (callArgs_grammar s _).1.2 ⟨rfl, derived⟩
    have fails : (callArgs s
        (token .leftBracket "[" :: (call ++ [token .rightBracket "]"]))).isOk = false := rfl
    rw [read] at fails
    cases fails

end Parse

end Stencil
