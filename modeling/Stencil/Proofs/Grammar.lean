import Stencil.Expr.Parser

/-!
# The grammar of expressions

Which tokens an expression is written with is said here by recursion on the expression. Only the
kinds and the texts of the tokens matter, and of the expression all but its spans. What the parser
reads is written with the tokens that it takes.

- `Lexeme`: the kind and the text of a token.
- `Expr.Written`: the tokens that an expression is written with.
- `Parse.Sound`: what the parser reads is written with the tokens that it takes.
- `Parse.written_of_expression`: this holds of expressions.
-/

namespace Stencil

/-- The kind and the text of a token. -/
abbrev Lexeme := TokenKind × String

/-- A token without its place. -/
def Token.lexeme (t : Token) : Lexeme := (t.kind, t.text)

/-! ## Results -/

namespace Parse

variable {ε α β : Type}

/-- A reading that has succeeded consists of two that have. -/
theorem bind_eq_ok {x : Except ε α} {f : α → Except ε β} {y : β} (h : (x >>= f) = .ok y) :
    ∃ a, x = .ok a ∧ f a = .ok y := by
  cases x with
  | error e => cases h
  | ok a => exact ⟨a, rfl, h⟩

theorem map_eq_ok {x : Except ε α} {f : α → β} {y : β} (h : x.map f = .ok y) :
    ∃ a, x = .ok a ∧ f a = y := by
  cases x with
  | error e => cases h
  | ok a =>
    cases h
    exact ⟨a, rfl, rfl⟩

theorem toOption_eq_some {x : Except ε α} {a : α} : x.toOption = some a ↔ x = .ok a := by
  cases x with
  | ok b => simp [Except.toOption]
  | error e => simp [Except.toOption]

end Parse

/-! ## Literals -/

namespace Literal

open Parse

variable {source source' : String} {span span' : Span} {negative : Bool}

theorem toOption_integer (text : List Char) :
    (integer source text span negative).toOption =
      (digits (splitRadix text).2.2 negative 0 0 (splitRadix text).1).toOption := by
  unfold integer
  dsimp only
  cases digits (splitRadix text).2.2 negative 0 0 (splitRadix text).1 with
  | ok n => rfl
  | error fault =>
    cases fault with
    | digit i => rfl
    | range => rfl

theorem toOption_decimal (text : List Char) :
    (decimal source text span negative).toOption =
      (Decimal.readFloat text).map fun x => if negative then -x else x := by
  unfold decimal
  cases Decimal.readFloat text with
  | none => rfl
  | some x => rfl

theorem toOption_number (text : List Char) :
    (number source text span negative).toOption =
      ((integer source text span negative).toOption.map fun n => .int (Int64.ofInt n)).or
        ((decimal source text span negative).toOption.map .float) := by
  unfold number
  cases integer source text span negative with
  | ok n => rfl
  | error e =>
    cases decimal source text span negative with
    | ok x => rfl
    | error e' => rfl

/-- The value of a number does not depend on its place. -/
theorem number_eq_ok {text : List Char} {v : Value}
    (h : number source text span negative = .ok v) :
    number source' text span' negative = .ok v := by
  rw [← toOption_eq_some, toOption_number, toOption_integer, toOption_decimal] at h ⊢
  exact h

theorem unescape_eq_ok {offset offset' : Nat} {cs out : List Char}
    (h : unescape offset cs = .ok out) : unescape offset' cs = .ok out := by
  induction offset, cs using unescape.induct generalizing out offset' with
  | case1 => exact h
  | case2 offset => cases h
  | case3 offset d ds hd =>
    rw [unescape, if_pos rfl, hd] at h
    cases h
  | case4 offset d ds x hd ih =>
    simp only [unescape, if_true, hd] at h ⊢
    obtain ⟨cs, inner, rfl⟩ := map_eq_ok h
    rw [ih inner]
    rfl
  | case5 offset c cs hc ih =>
    rw [unescape.eq_def] at h ⊢
    simp only [if_neg hc] at h ⊢
    obtain ⟨cs', inner, rfl⟩ := map_eq_ok h
    rw [ih inner]
    rfl

/-- The text of a string does not depend on its place. -/
theorem string_eq_ok {text : String} {v : String} (h : string source text span = .ok v) :
    string source' text span' = .ok v := by
  unfold string at h ⊢
  split at h
  · cases h
  · split at h
    · next cs hcs =>
      rw [unescape_eq_ok hcs]
      exact h
    · cases h

end Literal

/-! ## What is written -/

/-- The tokens of a literal. -/
inductive LiteralText : Value → List Lexeme → Prop
  | truth : LiteralText (.bool true) [(.keyword, "true")]
  | falsehood : LiteralText (.bool false) [(.keyword, "false")]
  | nothing : LiteralText .none [(.keyword, "none")]
  | number {text : String} {v : Value} (h : Literal.number "" text.toList ⟨0, 0⟩ false = .ok v) :
      LiteralText v [(.number, text)]
  | signed {sign text : String} {v : Value} (negative : Bool)
      (h : Literal.number "" text.toList ⟨0, 0⟩ negative = .ok v) :
      LiteralText v [(if negative then .minus else .plus, sign), (.number, text)]
  | string {text v : String} (h : Literal.string "" text ⟨0, 0⟩ = .ok v) :
      LiteralText (.text v) [(.string, text)]

/-- The token of what a member access names. -/
inductive AccessText : Access → Lexeme → Prop
  | index {text : String} {n : Nat} {span : Span}
      (h : Decimal.readWord text.toList = some n) : AccessText (.index n span) (.index, text)
  | key {kind : TokenKind} {text : String} {span : Span}
      (h : kind = .identifier ∨ kind = .keyword) : AccessText (.key ⟨text, span⟩) (kind, text)

/-- The tokens of a path of members. -/
inductive PathText : List Member → List Lexeme → Prop
  | nil : PathText [] []
  | cons {m : Member} {ms : List Member} {op : String} {name : Lexeme} {rest : List Lexeme}
      (access : AccessText m.access name) (h : PathText ms rest) :
      PathText (m :: ms) ((if m.isOptional then .questionDot else .dot, op) :: name :: rest)

/-- The token of a key in a map literal. -/
inductive KeyText : String → Lexeme → Prop
  | name {kind : TokenKind} {text : String} (h : kind = .identifier ∨ kind = .keyword) :
      KeyText text (kind, text)
  | string {text key : String} (h : Literal.string "" text ⟨0, 0⟩ = .ok key) :
      KeyText key (.string, text)

namespace Expr

/-- A filter is applied last. -/
def isFilter : Expr → Bool
  | .filter _ _ _ _ => true
  | _ => false

/-- The last token belongs to the arguments of a filter. A comma behind it does, too. -/
def endsInArguments : Expr → Bool
  | .filter _ _ (_ :: _) _ => true
  | _ => false

mutual

/-- An expression is written with some tokens. -/
def Written : Expr → List Lexeme → Prop
  | .variable first path, ks => ∃ rest, ks = (.identifier, first.name) :: rest ∧ PathText path rest
  | .literal v _, ks => LiteralText v ks
  | .list items _, ks =>
    ∃ opening inside closing, WrittenItems items inside ∧
      ks = (.leftBracket, opening) :: (inside ++ [(.rightBracket, closing)])
  | .map entries _, ks =>
    ∃ opening inside closing, WrittenEntries entries inside ∧
      ks = (.leftBrace, opening) :: (inside ++ [(.rightBrace, closing)])
  | .filter receiver name args _, ks =>
    ∃ front bar rest, Written receiver front ∧ WrittenArgs .colon args rest ∧
      ks = front ++ (.pipe, bar) :: (.identifier, name.name) :: rest

/-- The arguments of a filter are written with some tokens, the first one behind a colon and the
others behind commas. They are no filters themselves. -/
def WrittenArgs (separator : TokenKind) : List Expr → List Lexeme → Prop
  | [], ks => ks = []
  | x :: xs, ks =>
    ∃ sign front rest, Written x front ∧ x.isFilter = false ∧ WrittenArgs .comma xs rest ∧
      ks = (separator, sign) :: (front ++ rest)

/-- The items of a list are written with some tokens. There may be a comma behind the last one. An
expression with a comma behind it does not end in the arguments of a filter. -/
def WrittenItems : List Expr → List Lexeme → Prop
  | [], ks => ks = []
  | x :: xs, ks =>
    ∃ front rest, Written x front ∧ ks = front ++ rest ∧
      (xs = [] ∧ rest = [] ∨
        x.endsInArguments = false ∧ ∃ sign more, rest = (.comma, sign) :: more ∧
          WrittenItems xs more)

/-- The entries of a map are written with some tokens, likewise. -/
def WrittenEntries : List (String × Expr) → List Lexeme → Prop
  | [], ks => ks = []
  | (key, x) :: es, ks =>
    ∃ name sign front rest, KeyText key name ∧ Written x front ∧
      ks = name :: (.colon, sign) :: (front ++ rest) ∧
      (es = [] ∧ rest = [] ∨
        x.endsInArguments = false ∧ ∃ sign more, rest = (.comma, sign) :: more ∧
          WrittenEntries es more)

end

end Expr

/-! ## Kinds of tokens -/

/-- A token that stands by itself in an expression: neither a sign nor a brace. -/
def TokenKind.isPlain : TokenKind → Bool
  | .raw | .opening _ | .closing _ | .plus | .minus | .leftBrace | .rightBrace | .whitespace =>
    false
  | _ => true

/-- A sign stands before a number, and braces are closed and do not begin with another one. -/
inductive Settled : List TokenKind → Prop
  | nil : Settled []
  | plain {k : TokenKind} {ks : List TokenKind} (hk : k.isPlain) (h : Settled ks) :
      Settled (k :: ks)
  | sign {negative : Bool} {ks : List TokenKind} (h : Settled ks) :
      Settled ((if negative then .minus else .plus) :: .number :: ks)
  | braces {inside ks : List TokenKind} (hinside : Settled inside)
      (head : inside.head? ≠ some .leftBrace) (h : Settled ks) :
      Settled (.leftBrace :: (inside ++ .rightBrace :: ks))

namespace Settled

variable {ks ls : List TokenKind}

theorem append (h : Settled ks) (h' : Settled ls) : Settled (ks ++ ls) := by
  induction h with
  | nil => exact h'
  | plain hk _ ih => exact .plain hk ih
  | sign _ ih => exact .sign ih
  | @braces inside ks hinside head _ _ ih =>
    rw [List.cons_append, List.append_assoc, List.cons_append]
    exact .braces hinside head ih

theorem single {k : TokenKind} (hk : k.isPlain) : Settled [k] := .plain hk .nil

/-- No tag begins or ends. -/
theorem inner (h : Settled ks) : ∀ k ∈ ks, k ≠ .raw ∧ k ≠ .whitespace ∧
    ∀ tag, k ≠ .opening tag ∧ k ≠ .closing tag := by
  induction h with
  | nil => exact nofun
  | @plain k ks hk _ ih =>
    refine List.forall_mem_cons.2 ⟨?_, ih⟩
    refine ⟨?_, ?_, fun tag => ⟨?_, ?_⟩⟩ <;> rintro rfl <;> cases hk
  | @sign negative ks _ ih =>
    refine List.forall_mem_cons.2 ⟨?_, List.forall_mem_cons.2 ⟨by simp, ih⟩⟩
    cases negative <;> simp
  | braces _ _ _ ihInside ih =>
    refine List.forall_mem_cons.2 ⟨by simp, List.forall_mem_append.2 ⟨ihInside, ?_⟩⟩
    exact List.forall_mem_cons.2 ⟨by simp, ih⟩

end Settled

/-- The kinds of some tokens. -/
def kinds (ks : List Lexeme) : List TokenKind := ks.map Prod.fst

@[simp] theorem kinds_nil : kinds [] = [] := rfl

@[simp] theorem kinds_cons (k : Lexeme) (ks : List Lexeme) :
    kinds (k :: ks) = k.1 :: kinds ks := rfl

@[simp] theorem kinds_append (ks ls : List Lexeme) : kinds (ks ++ ls) = kinds ks ++ kinds ls :=
  List.map_append

theorem LiteralText.settled {v : Value} {ks : List Lexeme} (h : LiteralText v ks) :
    Settled (kinds ks) := by
  cases h with
  | signed negative _ => exact .sign .nil
  | _ => exact .single rfl

theorem AccessText.isPlain {a : Access} {k : Lexeme} (h : AccessText a k) : k.1.isPlain := by
  cases h with
  | index => rfl
  | key h => rcases h with rfl | rfl <;> rfl

theorem KeyText.isPlain {key : String} {k : Lexeme} (h : KeyText key k) : k.1.isPlain := by
  cases h with
  | name h => rcases h with rfl | rfl <;> rfl
  | string => rfl

theorem PathText.settled {ms : List Member} {ks : List Lexeme} (h : PathText ms ks) :
    Settled (kinds ks) := by
  induction h with
  | nil => exact .nil
  | @cons m ms op name rest access _ ih =>
    refine .plain ?_ (.plain access.isPlain ih)
    dsimp only
    split <;> rfl

namespace Expr

/-- The entries of a map do not begin with a brace. -/
theorem head_of_writtenEntries {es : List (String × Expr)} {ks : List Lexeme}
    (h : WrittenEntries es ks) : (kinds ks).head? ≠ some .leftBrace := by
  cases es with
  | nil =>
    cases h
    exact nofun
  | cons entry es =>
    obtain ⟨name, _, _, _, key, _, rfl, _⟩ := h
    intro head
    have plain := key.isPlain
    rw [Option.some.inj head] at plain
    cases plain

mutual

/-- The tokens of an expression are settled. -/
theorem settled_of_written : ∀ (x : Expr) {ks : List Lexeme}, x.Written ks → Settled (kinds ks)
  | .variable _ _, _, h => by
    obtain ⟨rest, rfl, path⟩ := h
    exact .plain rfl path.settled
  | .literal _ _, _, h => LiteralText.settled h
  | .list items _, _, h => by
    obtain ⟨opening, inside, closing, written, rfl⟩ := h
    rw [kinds_cons, kinds_append]
    exact .plain rfl ((settled_of_writtenItems items written).append (.single rfl))
  | .map entries _, _, h => by
    obtain ⟨opening, inside, closing, written, rfl⟩ := h
    rw [kinds_cons, kinds_append]
    exact .braces (settled_of_writtenEntries entries written) (head_of_writtenEntries written) .nil
  | .filter receiver name args _, _, h => by
    obtain ⟨front, bar, rest, written, writtenArgs, rfl⟩ := h
    rw [kinds_append, kinds_cons, kinds_cons]
    refine (settled_of_written receiver written).append (.plain rfl (.plain rfl ?_))
    exact settled_of_writtenArgs args rfl writtenArgs

theorem settled_of_writtenArgs : ∀ (xs : List Expr) {separator : TokenKind} {ks : List Lexeme},
    separator.isPlain → WrittenArgs separator xs ks → Settled (kinds ks)
  | [], _, _, _, h => by
    cases h
    exact .nil
  | x :: xs, _, _, plain, h => by
    obtain ⟨sign, front, rest, written, -, others, rfl⟩ := h
    rw [kinds_cons, kinds_append]
    exact .plain plain ((settled_of_written x written).append
      (settled_of_writtenArgs xs rfl others))

theorem settled_of_writtenItems : ∀ (xs : List Expr) {ks : List Lexeme},
    WrittenItems xs ks → Settled (kinds ks)
  | [], _, h => by
    cases h
    exact .nil
  | x :: xs, _, h => by
    obtain ⟨front, rest, written, rfl, behind⟩ := h
    rw [kinds_append]
    refine (settled_of_written x written).append ?_
    rcases behind with ⟨-, rfl⟩ | ⟨-, sign, more, rfl, others⟩
    · exact .nil
    · exact .plain rfl (settled_of_writtenItems xs others)

theorem settled_of_writtenEntries : ∀ (es : List (String × Expr)) {ks : List Lexeme},
    WrittenEntries es ks → Settled (kinds ks)
  | [], _, h => by
    cases h
    exact .nil
  | (_, x) :: es, _, h => by
    obtain ⟨name, sign, front, rest, key, written, rfl, behind⟩ := h
    rw [kinds_cons, kinds_cons, kinds_append]
    refine .plain key.isPlain (.plain rfl ((settled_of_written x written).append ?_))
    rcases behind with ⟨-, rfl⟩ | ⟨-, sign, more, rfl, others⟩
    · exact .nil
    · exact .plain rfl (settled_of_writtenEntries es others)

end

end Expr

/-! ## Single tokens -/

namespace Parse

variable {s : Surroundings} {ts rest : List Token} {t : Token}

/-- The first of some tokens is of a kind. -/
def startsWith (kind : TokenKind) (ts : List Token) : Bool := ts.head?.any fun t => t.kind = kind

theorem next?_eq_some (h : next? s ts = .ok (some (t, rest))) : ts = t :: rest := by
  cases ts with
  | cons u us =>
    cases h
    rfl
  | nil =>
    rw [next?] at h
    split at h
    · cases h
    · cases h

theorem next?_eq_none (h : next? s ts = .ok none) : ts = [] := by
  cases ts with
  | nil => rfl
  | cons u us => cases h

theorem any_eq_ok (h : any s ts = .ok (t, rest)) : ts = t :: rest := by
  unfold any at h
  obtain ⟨next, read, h⟩ := bind_eq_ok h
  cases next with
  | none => cases h
  | some first =>
    cases h
    exact next?_eq_some read

theorem expect_eq_ok {kind : TokenKind} (h : expect s kind ts = .ok (t, rest)) :
    ts = t :: rest ∧ t.kind = kind := by
  unfold expect at h
  obtain ⟨next, read, h⟩ := bind_eq_ok h
  cases next with
  | none => cases h
  | some first =>
    obtain ⟨u, us⟩ := first
    dsimp only at h
    split at h
    · next hkind =>
      cases h
      exact ⟨next?_eq_some read, hkind⟩
    · cases h

theorem ident_eq_ok {name : Ident} (h : ident s ts = .ok (name, rest)) :
    ∃ t, ts = t :: rest ∧ t.lexeme = (.identifier, name.name) := by
  obtain ⟨⟨t, rest'⟩, taken, read⟩ := bind_eq_ok h
  obtain ⟨first, kind⟩ := expect_eq_ok taken
  cases read
  exact ⟨t, first, by rw [Token.lexeme, kind]⟩

theorem isNext_eq_ok {kind : TokenKind} {b : Bool} (h : isNext s kind ts = .ok b) :
    startsWith kind ts = b := by
  obtain ⟨next, read, rfl⟩ := map_eq_ok h
  cases next with
  | none =>
    rw [next?_eq_none read]
    rfl
  | some first =>
    rw [next?_eq_some read]
    rfl

theorem lift_eq_ok {α : Type} {r : Except Error α} {a : α} (h : lift r = .ok a) : r = .ok a := by
  cases r with
  | error e => cases h
  | ok b =>
    cases h
    rfl

/-! ## Terms -/

theorem literalText_of_keyword {v : Value} (h : keywordLiteral s t = .ok v)
    (kind : t.kind = .keyword) : LiteralText v [t.lexeme] := by
  unfold keywordLiteral at h
  split at h
  · next k =>
    cases h
    rw [Token.lexeme, kind, ← Keyword.text_of_ofString? k]
    exact .truth
  · next k =>
    cases h
    rw [Token.lexeme, kind, ← Keyword.text_of_ofString? k]
    exact .falsehood
  · next k =>
    cases h
    rw [Token.lexeme, kind, ← Keyword.text_of_ofString? k]
    exact .nothing
  · cases h
  · cases h

theorem accessText_of_access {a : Access} (h : access s ts = .ok (a, rest)) :
    ∃ t, ts = t :: rest ∧ AccessText a t.lexeme := by
  obtain ⟨⟨t, rest'⟩, taken, read⟩ := bind_eq_ok h
  have first := any_eq_ok taken
  dsimp only at read
  split at read
  · next kind =>
    split at read
    · next n word =>
      cases read
      exact ⟨t, first, by rw [Token.lexeme, kind]; exact .index word⟩
    · cases read
  · next kind =>
    cases read
    exact ⟨t, first, .key (.inl kind)⟩
  · next kind =>
    cases read
    exact ⟨t, first, .key (.inr kind)⟩
  · cases read

theorem pathText_of_path {n : Nat} {ms : List Member} (h : path s n ts = .ok (ms, rest)) :
    ∃ taken, ts = taken ++ rest ∧ PathText ms (taken.map Token.lexeme) := by
  -- on the bound, which goes down with every access
  induction n generalizing ts ms with
  | zero => cases h
  | succ n ih =>
    unfold path at h
    obtain ⟨next, read, h⟩ := bind_eq_ok h
    cases next with
    | none =>
      cases h
      exact ⟨[], rfl, .nil⟩
    | some first =>
      obtain ⟨op, ts'⟩ := first
      dsimp only at h
      split at h
      · next kind =>
        obtain ⟨⟨a, ts''⟩, read', h⟩ := bind_eq_ok h
        obtain ⟨⟨ms', rest'⟩, readPath, h⟩ := bind_eq_ok h
        cases h
        obtain ⟨name, rfl, accessed⟩ := accessText_of_access read'
        obtain ⟨taken, rfl, written⟩ := ih readPath
        refine ⟨op :: name :: taken, next?_eq_some read, ?_⟩
        have sign : op.lexeme =
            (if decide (op.kind = .questionDot) then .questionDot else .dot, op.text) := by
          rcases kind with kind | kind <;> simp [Token.lexeme, kind]
        rw [List.map_cons, List.map_cons, sign]
        exact .cons accessed written
      · cases h
        exact ⟨[], rfl, .nil⟩

theorem keyText_of_mapKey {key : String} (h : mapKey s ts = .ok (key, rest)) :
    ∃ t, ts = t :: rest ∧ KeyText key t.lexeme := by
  obtain ⟨⟨t, rest'⟩, taken, read⟩ := bind_eq_ok h
  have first := any_eq_ok taken
  dsimp only at read
  split at read
  · next kind =>
    cases read
    exact ⟨t, first, .name (.inl kind)⟩
  · next kind =>
    cases read
    exact ⟨t, first, .name (.inr kind)⟩
  · next kind =>
    obtain ⟨k, readKey, read⟩ := bind_eq_ok read
    cases read
    refine ⟨t, first, ?_⟩
    rw [Token.lexeme, kind]
    exact .string (Literal.string_eq_ok readKey)
  · cases read

theorem written_of_signed {negative : Bool} {x : Expr} {sign : Token}
    (h : signed s sign negative ts = .ok (x, rest))
    (kind : sign.kind = if negative then .minus else .plus) :
    ∃ taken, sign :: ts = taken ++ rest ∧ x.Written (taken.map Token.lexeme) ∧
      x.isFilter = false := by
  unfold signed at h
  obtain ⟨⟨t, rest'⟩, taken, read⟩ := bind_eq_ok h
  obtain ⟨v, number, read⟩ := bind_eq_ok read
  cases read
  obtain ⟨rfl, kind'⟩ := expect_eq_ok taken
  refine ⟨[sign, t], rfl, ?_, rfl⟩
  rw [List.map_cons, List.map_singleton, Token.lexeme, Token.lexeme, kind, kind']
  exact .signed negative (Literal.number_eq_ok (lift_eq_ok number))

/-! ## Expressions -/

/-- With one bound, what the parser reads is written with the tokens that it takes. It leaves no
comma behind the arguments of a filter. -/
structure Sound (s : Surroundings) (n : Nat) : Prop where
  term : ∀ {ts rest x}, term s n ts = .ok (x, rest) →
    ∃ taken, ts = taken ++ rest ∧ x.Written (taken.map Token.lexeme) ∧ x.isFilter = false
  expr : ∀ {ts rest x}, expr s n ts = .ok (x, rest) →
    ∃ taken, ts = taken ++ rest ∧ x.Written (taken.map Token.lexeme) ∧
      (x.endsInArguments → startsWith .comma rest = false)
  filters : ∀ {ts rest e x front}, filters s n e ts = .ok (x, rest) → e.Written front →
    (e.endsInArguments → startsWith .comma ts = false) →
    ∃ taken, ts = taken ++ rest ∧ x.Written (front ++ taken.map Token.lexeme) ∧
      (x.endsInArguments → startsWith .comma rest = false)
  args : ∀ {ts rest xs} (separator : TokenKind) (sign : String), args s n ts = .ok (xs, rest) →
    ∃ taken, ts = taken ++ rest ∧ xs ≠ [] ∧ startsWith .comma rest = false ∧
      Expr.WrittenArgs separator xs ((separator, sign) :: taken.map Token.lexeme)
  items : ∀ {ts rest xs}, items s n ts = .ok (xs, rest) →
    ∃ taken, ts = taken ++ rest ∧ Expr.WrittenItems xs (taken.map Token.lexeme)
  entries : ∀ {ts rest es}, entries s n ts = .ok (es, rest) →
    ∃ taken, ts = taken ++ rest ∧ Expr.WrittenEntries es (taken.map Token.lexeme)

namespace Sound

variable {n : Nat}

theorem zero : Sound s 0 :=
  ⟨nofun, nofun, nofun, nofun, nofun, nofun⟩

theorem term_succ (h : Sound s n) {x : Expr} (read : Parse.term s (n + 1) ts = .ok (x, rest)) :
    ∃ taken, ts = taken ++ rest ∧ x.Written (taken.map Token.lexeme) ∧ x.isFilter = false := by
  unfold Parse.term at read
  obtain ⟨⟨t, ts'⟩, first, behind⟩ := bind_eq_ok read
  clear read
  obtain rfl := any_eq_ok first
  dsimp only at behind
  split at behind
  · next kind =>
    obtain ⟨v, literal, behind⟩ := bind_eq_ok behind
    cases behind
    exact ⟨[t], rfl, literalText_of_keyword literal kind, rfl⟩
  · next kind => exact written_of_signed behind kind
  · next kind => exact written_of_signed behind kind
  · next kind =>
    obtain ⟨v, literal, behind⟩ := bind_eq_ok behind
    cases behind
    refine ⟨[t], rfl, ?_, rfl⟩
    rw [List.map_singleton, Token.lexeme, kind]
    exact .number (Literal.number_eq_ok (lift_eq_ok literal))
  · next kind =>
    obtain ⟨text, literal, behind⟩ := bind_eq_ok behind
    cases behind
    refine ⟨[t], rfl, ?_, rfl⟩
    rw [List.map_singleton, Token.lexeme, kind]
    exact .string (Literal.string_eq_ok literal)
  · next kind =>
    obtain ⟨⟨xs, ts''⟩, readItems, behind⟩ := bind_eq_ok behind
    obtain ⟨⟨close, rest'⟩, closes, behind⟩ := bind_eq_ok behind
    cases behind
    obtain ⟨inside, rfl, written⟩ := h.items readItems
    obtain ⟨rfl, kind'⟩ := expect_eq_ok closes
    refine ⟨t :: (inside ++ [close]), by simp, ⟨t.text, _, close.text, written, ?_⟩, rfl⟩
    simp [Token.lexeme, kind, kind']
  · next kind =>
    obtain ⟨⟨es, ts''⟩, readEntries, behind⟩ := bind_eq_ok behind
    obtain ⟨⟨close, rest'⟩, closes, behind⟩ := bind_eq_ok behind
    cases behind
    obtain ⟨inside, rfl, written⟩ := h.entries readEntries
    obtain ⟨rfl, kind'⟩ := expect_eq_ok closes
    refine ⟨t :: (inside ++ [close]), by simp, ⟨t.text, _, close.text, written, ?_⟩, rfl⟩
    simp [Token.lexeme, kind, kind']
  · next kind =>
    obtain ⟨⟨ms, ts''⟩, readPath, behind⟩ := bind_eq_ok behind
    cases behind
    obtain ⟨taken, rfl, written⟩ := pathText_of_path readPath
    refine ⟨t :: taken, rfl, ⟨_, ?_, written⟩, rfl⟩
    rw [List.map_cons, Token.lexeme, kind]
  · cases behind

theorem expr_succ (h : Sound s n) {x : Expr} (read : Parse.expr s (n + 1) ts = .ok (x, rest)) :
    ∃ taken, ts = taken ++ rest ∧ x.Written (taken.map Token.lexeme) ∧
      (x.endsInArguments → startsWith .comma rest = false) := by
  unfold Parse.expr at read
  obtain ⟨⟨e, ts'⟩, readTerm, readFilters⟩ := bind_eq_ok read
  obtain ⟨front, rfl, written, isTerm⟩ := h.term readTerm
  have ends : e.endsInArguments → startsWith .comma ts' = false := by
    intro ends
    cases e with
    | filter => cases isTerm
    | _ => cases ends
  obtain ⟨taken, rfl, written', last⟩ := h.filters readFilters written ends
  refine ⟨front ++ taken, by rw [List.append_assoc], ?_, last⟩
  rw [List.map_append]
  exact written'

theorem filters_succ (h : Sound s n) {e x : Expr} {front : List Lexeme}
    (read : Parse.filters s (n + 1) e ts = .ok (x, rest)) (written : e.Written front)
    (ends : e.endsInArguments → startsWith .comma ts = false) :
    ∃ taken, ts = taken ++ rest ∧ x.Written (front ++ taken.map Token.lexeme) ∧
      (x.endsInArguments → startsWith .comma rest = false) := by
  unfold Parse.filters at read
  obtain ⟨isPipe, next, read⟩ := bind_eq_ok read
  cases isPipe with
  | false =>
    cases read
    exact ⟨[], rfl, by simpa using written, ends⟩
  | true =>
    rw [if_pos rfl] at read
    obtain ⟨⟨bar, ts₁⟩, readBar, read₁⟩ := bind_eq_ok read
    obtain ⟨⟨name, ts₂⟩, readName, read₂⟩ := bind_eq_ok read₁
    obtain ⟨isColon, next', read₃⟩ := bind_eq_ok read₂
    obtain ⟨rfl, barKind⟩ := expect_eq_ok readBar
    obtain ⟨nameToken, rfl, nameLexeme⟩ := ident_eq_ok readName
    have barLexeme : bar.lexeme = (.pipe, bar.text) := by rw [Token.lexeme, barKind]
    cases isColon with
    | false =>
      rw [if_neg Bool.false_ne_true] at read₃
      obtain ⟨taken, rfl, written', last⟩ := h.filters read₃
        ⟨front, bar.text, [], written, rfl, rfl⟩ nofun
      refine ⟨bar :: nameToken :: taken, rfl, ?_, last⟩
      rw [List.map_cons, List.map_cons, barLexeme, nameLexeme]
      simpa using written'
    | true =>
      rw [if_pos rfl] at read₃
      obtain ⟨⟨colon, ts₃⟩, readColon, read₄⟩ := bind_eq_ok read₃
      obtain ⟨⟨as, ts₄⟩, readArgs, read₅⟩ := bind_eq_ok read₄
      obtain ⟨place, -, readRest⟩ := bind_eq_ok read₅
      obtain ⟨rfl, colonKind⟩ := expect_eq_ok readColon
      obtain ⟨inside, rfl, -, behind, writtenArgs⟩ :=
        h.args .colon colon.text readArgs
      obtain ⟨taken, rfl, written', last⟩ := h.filters readRest
        ⟨front, bar.text, _, written, writtenArgs, rfl⟩ fun _ => behind
      have colonLexeme : colon.lexeme = (.colon, colon.text) := by rw [Token.lexeme, colonKind]
      refine ⟨bar :: nameToken :: colon :: (inside ++ taken), by simp, ?_, last⟩
      rw [List.map_cons, List.map_cons, List.map_cons, List.map_append, barLexeme, nameLexeme,
        colonLexeme]
      simpa using written'

theorem args_succ (h : Sound s n) {xs : List Expr} (separator : TokenKind) (sign : String)
    (read : Parse.args s (n + 1) ts = .ok (xs, rest)) :
    ∃ taken, ts = taken ++ rest ∧ xs ≠ [] ∧ startsWith .comma rest = false ∧
      Expr.WrittenArgs separator xs ((separator, sign) :: taken.map Token.lexeme) := by
  unfold Parse.args at read
  obtain ⟨⟨e, ts₁⟩, readTerm, read₁⟩ := bind_eq_ok read
  obtain ⟨isComma, next, read₂⟩ := bind_eq_ok read₁
  obtain ⟨front, rfl, written, isTerm⟩ := h.term readTerm
  cases isComma with
  | false =>
    cases read₂
    refine ⟨front, rfl, List.cons_ne_nil _ _, isNext_eq_ok next, sign, _, [], written, isTerm, rfl,
      ?_⟩
    rw [List.append_nil]
  | true =>
    rw [if_pos rfl] at read₂
    obtain ⟨⟨comma, ts₂⟩, readComma, read₃⟩ := bind_eq_ok read₂
    obtain ⟨⟨es, ts₃⟩, readArgs, read₄⟩ := bind_eq_ok read₃
    cases read₄
    obtain ⟨rfl, kind⟩ := expect_eq_ok readComma
    obtain ⟨taken, rfl, -, behind, writtenArgs⟩ := h.args .comma comma.text readArgs
    refine ⟨front ++ comma :: taken, by simp, List.cons_ne_nil _ _, behind, sign, _, _, written,
      isTerm, writtenArgs, ?_⟩
    rw [List.map_append, List.map_cons, Token.lexeme, kind]

/-- An expression with a comma behind it does not end in the arguments of a filter. -/
theorem apart_of_comma {x : Expr}
    (ends : x.endsInArguments → startsWith .comma ts = false)
    (comma : isNext s .comma ts = .ok true) : x.endsInArguments = false := by
  cases ending : x.endsInArguments with
  | false => rfl
  | true => exact (isNext_eq_ok comma).symm.trans (ends ending)

theorem items_succ (h : Sound s n) {xs : List Expr}
    (read : Parse.items s (n + 1) ts = .ok (xs, rest)) :
    ∃ taken, ts = taken ++ rest ∧ Expr.WrittenItems xs (taken.map Token.lexeme) := by
  unfold Parse.items at read
  obtain ⟨closes, next, read₁⟩ := bind_eq_ok read
  cases closes with
  | true =>
    cases read₁
    exact ⟨[], rfl, rfl⟩
  | false =>
    rw [if_neg Bool.false_ne_true] at read₁
    obtain ⟨⟨e, ts₁⟩, readExpr, read₂⟩ := bind_eq_ok read₁
    obtain ⟨isComma, next', read₃⟩ := bind_eq_ok read₂
    obtain ⟨front, rfl, written, ends⟩ := h.expr readExpr
    cases isComma with
    | false =>
      cases read₃
      exact ⟨front, rfl, _, [], written, (List.append_nil _).symm, .inl ⟨rfl, rfl⟩⟩
    | true =>
      rw [if_pos rfl] at read₃
      obtain ⟨⟨comma, ts₂⟩, readComma, read₄⟩ := bind_eq_ok read₃
      obtain ⟨⟨es, ts₃⟩, readItems, read₅⟩ := bind_eq_ok read₄
      cases read₅
      have apart := apart_of_comma ends next'
      obtain ⟨rfl, kind⟩ := expect_eq_ok readComma
      obtain ⟨taken, rfl, writtenItems⟩ := h.items readItems
      refine ⟨front ++ comma :: taken, by simp, _, comma.lexeme :: taken.map Token.lexeme, written,
        by simp, .inr ⟨apart, comma.text, _, ?_, writtenItems⟩⟩
      rw [Token.lexeme, kind]

theorem entries_succ (h : Sound s n) {es : List (String × Expr)}
    (read : Parse.entries s (n + 1) ts = .ok (es, rest)) :
    ∃ taken, ts = taken ++ rest ∧ Expr.WrittenEntries es (taken.map Token.lexeme) := by
  unfold Parse.entries at read
  obtain ⟨closes, next, read₁⟩ := bind_eq_ok read
  cases closes with
  | true =>
    cases read₁
    exact ⟨[], rfl, rfl⟩
  | false =>
    rw [if_neg Bool.false_ne_true] at read₁
    obtain ⟨⟨key, ts₁⟩, readKey, read₂⟩ := bind_eq_ok read₁
    obtain ⟨⟨colon, ts₂⟩, readColon, read₃⟩ := bind_eq_ok read₂
    obtain ⟨⟨e, ts₃⟩, readExpr, read₄⟩ := bind_eq_ok read₃
    obtain ⟨isComma, next', read₅⟩ := bind_eq_ok read₄
    obtain ⟨name, rfl, writtenKey⟩ := keyText_of_mapKey readKey
    obtain ⟨rfl, colonKind⟩ := expect_eq_ok readColon
    have colonLexeme : colon.lexeme = (.colon, colon.text) := by rw [Token.lexeme, colonKind]
    obtain ⟨front, rfl, written, ends⟩ := h.expr readExpr
    cases isComma with
    | false =>
      cases read₅
      refine ⟨name :: colon :: front, rfl, _, colon.text, _, [], writtenKey, written, ?_,
        .inl ⟨rfl, rfl⟩⟩
      rw [List.map_cons, List.map_cons, colonLexeme, List.append_nil]
    | true =>
      rw [if_pos rfl] at read₅
      obtain ⟨⟨comma, ts₄⟩, readComma, read₆⟩ := bind_eq_ok read₅
      obtain ⟨⟨es', ts₅⟩, readEntries, read₇⟩ := bind_eq_ok read₆
      cases read₇
      have apart := apart_of_comma ends next'
      obtain ⟨rfl, kind⟩ := expect_eq_ok readComma
      obtain ⟨taken, rfl, writtenEntries⟩ := h.entries readEntries
      refine ⟨name :: colon :: (front ++ comma :: taken), by simp, _, colon.text, _,
        comma.lexeme :: taken.map Token.lexeme, writtenKey, written, ?_,
        .inr ⟨apart, comma.text, _, ?_, writtenEntries⟩⟩
      · rw [List.map_cons, List.map_cons, List.map_append, List.map_cons, colonLexeme]
      · rw [Token.lexeme, kind]

end Sound

/-- What the parser reads is written with the tokens that it takes, whatever the bound. -/
theorem sound (s : Surroundings) (n : Nat) : Sound s n := by
  -- the functions call each other, so all of them go through the bound together
  induction n with
  | zero => exact .zero
  | succ n ih =>
    exact ⟨ih.term_succ, ih.expr_succ, ih.filters_succ, ih.args_succ, ih.items_succ,
      ih.entries_succ⟩

/-- A filter with a colon has an argument, so its arguments have a place. -/
theorem exists_argsSpan {n : Nat} {xs : List Expr} (colon : Span)
    (h : args s n ts = .ok (xs, rest)) : ∃ place, argsSpan colon xs = .ok place := by
  obtain ⟨-, -, ne, -⟩ := (sound s n).args .colon "" h
  rw [argsSpan, List.getLast?_eq_some_getLast ne]
  exact ⟨_, rfl⟩

/-- An expression is written with the tokens that are taken for it. -/
theorem written_of_expression {x : Expr} (h : expression s ts = .ok (x, rest)) :
    ∃ taken, ts = taken ++ rest ∧ x.Written (taken.map Token.lexeme) ∧
      (x.endsInArguments → startsWith .comma rest = false) := (sound s (bound ts)).expr h

end Parse

end Stencil
