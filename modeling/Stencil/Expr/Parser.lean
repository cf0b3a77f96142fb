import Stencil.Expr.Literal

/-!
# From tokens to expressions

The parser takes tokens off a list. What happens where the list ends is part of its surroundings:
either the source ends there, or the lexer failed.

- `Parse.Surroundings`: the source, and the failure of the lexer behind the last token, if any.
- `Parse.Taken`: what is read, and the tokens behind it.
- `Parse.next?`, `Parse.any`, `Parse.expect`: single tokens.
- `Parse.expr`: an expression.
- `Parse.callArgs`, `Parse.assignArgs`: complete argument lists.

The mutually recursive functions carry a bound on their depth; `Parse.bound` of the tokens is always
enough, since every third call takes a token.

Specification: section E1; `parse_expr`, `parse_base_expr`, `parse_list`, `parse_map`, `parse_var`,
`parse_args`, `parse_call_args` and `parse_assign_args`.
-/

namespace Stencil.Parse

/-- The source of the tokens, and why they end. -/
structure Surroundings where
  source : String
  failure : Option Failure

/-- What is read from the start of some tokens, and the tokens behind it. -/
abbrev Taken (α : Type) := α × List Token

/-! ## Single tokens -/

/-- A fault at a place. -/
def fault {α : Type} (s : Surroundings) (f : SyntaxFault) (span : Span) : Except Failure α :=
  .error (.error (Error.syntaxAt f s.source span))

/-- Something was wanted where the source ends. -/
def faultAtEnd {α : Type} (s : Surroundings) (wanted : String) : Except Failure α :=
  fault s (.expected wanted none) (Span.point s.source.utf8ByteSize)

/-- Something else was wanted than this token. -/
def unexpected {α : Type} (s : Surroundings) (wanted : String) (t : Token) : Except Failure α :=
  fault s (.expected wanted (some t.kind)) t.span

/-- The result or error of reading a literal. -/
def lift {α : Type} : Except Error α → Except Failure α
  | .ok a => .ok a
  | .error e => .error (.error e)

/-- The next token, unless the source ends. -/
def next? (s : Surroundings) : List Token → Except Failure (Option (Taken Token))
  | t :: ts => .ok (some (t, ts))
  | [] =>
    match s.failure with
    | some f => .error f
    | none => .ok none

/-- Whether the next token is of a kind. -/
def isNext (s : Surroundings) (kind : TokenKind) (ts : List Token) : Except Failure Bool :=
  (next? s ts).map fun r => r.any fun p => p.1.kind = kind

/-- Whether the next token is a keyword. -/
def isNextKeyword (s : Surroundings) (k : Keyword) (ts : List Token) : Except Failure Bool :=
  (next? s ts).map fun r => r.any fun p => p.1.kind = .keyword && p.1.text == k.text

/-- The next token of any kind. -/
def any (s : Surroundings) (ts : List Token) : Except Failure (Taken Token) := do
  match ← next? s ts with
  | some r => .ok r
  | none => faultAtEnd s "token"

/-- The next token, which has to be of a kind. -/
def expect (s : Surroundings) (kind : TokenKind) (ts : List Token) :
    Except Failure (Taken Token) := do
  match ← next? s ts with
  | some (t, ts) => if t.kind = kind then .ok (t, ts) else unexpected s kind.word t
  | none => faultAtEnd s kind.word

/-- A name. -/
def ident (s : Surroundings) (ts : List Token) : Except Failure (Taken Ident) := do
  let (t, ts) ← expect s .identifier ts
  .ok (⟨t.text, t.span⟩, ts)

/-- A keyword and its place. -/
def keyword (s : Surroundings) (ts : List Token) : Except Failure (Taken (Keyword × Span)) := do
  let (t, ts) ← expect s .keyword ts
  match Keyword.ofString? t.text with
  | some k => .ok ((k, t.span), ts)
  | none => .error .broken

/-- A given keyword. -/
def expectKeyword (s : Surroundings) (wanted : Keyword) (ts : List Token) :
    Except Failure (Taken Unit) := do
  let ((k, span), ts) ← keyword s ts
  if k = wanted then .ok ((), ts) else fault s (.expectedKeyword wanted k) span

/-! ## Expressions -/

/-- The value of a keyword that stands for one. -/
def keywordLiteral (s : Surroundings) (t : Token) : Except Failure Value :=
  match Keyword.ofString? t.text with
  | some .true => .ok (.bool true)
  | some .false => .ok (.bool false)
  | some .none => .ok .none
  | some k => fault s (.unexpectedKeyword k) t.span
  | none => .error .broken

/-- What follows a member access operator. -/
def access (s : Surroundings) (ts : List Token) : Except Failure (Taken Access) := do
  let (t, ts) ← any s ts
  match t.kind with
  | .index =>
    match Decimal.readWord t.text.toList with
    | some n => .ok (.index n t.span, ts)
    | none => fault s .indexOutOfRange t.span
  | .identifier | .keyword => .ok (.key ⟨t.text, t.span⟩, ts)
  | _ => unexpected s "identifier or index" t

/-- The members accessed in a variable. -/
def path (s : Surroundings) : Nat → List Token → Except Failure (Taken (List Member))
  | 0, _ => .error .broken
  | n + 1, ts => do
    match ← next? s ts with
    | some (op, rest) =>
      if op.kind = .dot ∨ op.kind = .questionDot then
        let (a, rest) ← access s rest
        let (ms, rest) ← path s n rest
        .ok (⟨op.kind = .questionDot, a, op.span.join a.span⟩ :: ms, rest)
      else .ok ([], ts)
    | none => .ok ([], ts)

/-- A number behind an optional sign. -/
def signed (s : Surroundings) (sign : Token) (negative : Bool) (ts : List Token) :
    Except Failure (Taken Expr) := do
  let (t, ts) ← expect s .number ts
  let span := sign.span.join t.span
  let v ← lift (Literal.number s.source t.text.toList span negative)
  .ok (.literal v span, ts)

/-- The key of a map entry. -/
def mapKey (s : Surroundings) (ts : List Token) : Except Failure (Taken String) := do
  let (t, ts) ← any s ts
  match t.kind with
  | .identifier | .keyword => .ok (t.text, ts)
  | .string => do
    let key ← Literal.string s.source t.text t.span
    .ok (key, ts)
  | _ => unexpected s "map key" t

/-- The span of filter arguments, from the colon to the last of them. -/
def argsSpan (colon : Span) (args : List Expr) : Except Failure Span :=
  match args.getLast? with
  | none => .error .broken
  | some e => .ok (colon.join e.span)

mutual

/-- A variable, a literal, a list or a map. -/
def term (s : Surroundings) : Nat → List Token → Except Failure (Taken Expr)
  | 0, _ => .error .broken
  | n + 1, ts => do
    let (t, ts) ← any s ts
    match t.kind with
    | .keyword =>
      let v ← keywordLiteral s t
      .ok (.literal v t.span, ts)
    | .minus => signed s t true ts
    | .plus => signed s t false ts
    | .number =>
      let v ← lift (Literal.number s.source t.text.toList t.span false)
      .ok (.literal v t.span, ts)
    | .string =>
      let text ← Literal.string s.source t.text t.span
      .ok (.literal (.text text) t.span, ts)
    | .leftBracket =>
      let (es, ts) ← items s n ts
      let (close, ts) ← expect s .rightBracket ts
      .ok (.list es (t.span.join close.span), ts)
    | .leftBrace =>
      let (es, ts) ← entries s n ts
      let (close, ts) ← expect s .rightBrace ts
      .ok (.map es (t.span.join close.span), ts)
    | .identifier =>
      let (ms, ts) ← path s (ts.length + 1) ts
      .ok (.variable ⟨t.text, t.span⟩ ms, ts)
    | _ => unexpected s "expression" t

/-- A term piped through any number of filters. -/
def expr (s : Surroundings) : Nat → List Token → Except Failure (Taken Expr)
  | 0, _ => .error .broken
  | n + 1, ts => do
    let (e, ts) ← term s n ts
    filters s n e ts

/-- The filters behind an expression. -/
def filters (s : Surroundings) : Nat → Expr → List Token → Except Failure (Taken Expr)
  | 0, _, _ => .error .broken
  | n + 1, e, ts => do
    if ← isNext s .pipe ts then
      let (_, ts) ← expect s .pipe ts
      let (name, ts) ← ident s ts
      if ← isNext s .colon ts then
        let (colon, ts) ← expect s .colon ts
        let (as, ts) ← args s n ts
        let place ← argsSpan colon.span as
        filters s n (.filter e name as (e.span.join place)) ts
      else filters s n (.filter e name [] (e.span.join name.span)) ts
    else .ok (e, ts)

/-- The arguments of a filter: terms with commas between them. -/
def args (s : Surroundings) : Nat → List Token → Except Failure (Taken (List Expr))
  | 0, _ => .error .broken
  | n + 1, ts => do
    let (e, ts) ← term s n ts
    if ← isNext s .comma ts then
      let (_, ts) ← expect s .comma ts
      let (es, ts) ← args s n ts
      .ok (e :: es, ts)
    else .ok ([e], ts)

/-- The items of a list literal up to its closing bracket. -/
def items (s : Surroundings) : Nat → List Token → Except Failure (Taken (List Expr))
  | 0, _ => .error .broken
  | n + 1, ts => do
    if ← isNext s .rightBracket ts then .ok ([], ts)
    else
      let (e, ts) ← expr s n ts
      if ← isNext s .comma ts then
        let (_, ts) ← expect s .comma ts
        let (es, ts) ← items s n ts
        .ok (e :: es, ts)
      else .ok ([e], ts)

/-- The entries of a map literal up to its closing brace. -/
def entries (s : Surroundings) : Nat → List Token → Except Failure (Taken (List (String × Expr)))
  | 0, _ => .error .broken
  | n + 1, ts => do
    if ← isNext s .rightBrace ts then .ok ([], ts)
    else
      let (key, ts) ← mapKey s ts
      let (_, ts) ← expect s .colon ts
      let (e, ts) ← expr s n ts
      if ← isNext s .comma ts then
        let (_, ts) ← expect s .comma ts
        let (es, ts) ← entries s n ts
        .ok ((key, e) :: es, ts)
      else .ok ([(key, e)], ts)

end

/-- A depth that is enough for the tokens. -/
def bound (ts : List Token) : Nat := 4 * ts.length + 4

/-- An expression at the start of the tokens. -/
def expression (s : Surroundings) (ts : List Token) : Except Failure (Taken Expr) :=
  expr s (bound ts) ts

/-! ## Argument lists -/

/-- Expressions with commas between them, up to the end. The first argument bounds their number. -/
def callArgsFrom (s : Surroundings) : Nat → List Token → Except Failure (List Expr)
  | 0, _ => .error .broken
  | n + 1, ts => do
    let (e, ts) ← expression s ts
    match ← next? s ts with
    | none => .ok [e]
    | some (t, ts) =>
      if t.kind = .comma then
        let es ← callArgsFrom s n ts
        .ok (e :: es)
      else unexpected s "comma" t

/-- A complete list of arguments, which may be empty. -/
def callArgs (s : Surroundings) (ts : List Token) : Except Failure (List Expr) := do
  match ← next? s ts with
  | none => .ok []
  | some _ => callArgsFrom s (ts.length + 1) ts

/-- Bindings with commas between them, up to the end. The first argument bounds their number. -/
def assignArgsFrom (s : Surroundings) :
    Nat → List Token → Except Failure (List (Ident × Expr))
  | 0, _ => .error .broken
  | n + 1, ts => do
    let (name, ts) ← ident s ts
    let (_, ts) ← expect s .equals ts
    let (e, ts) ← expression s ts
    match ← next? s ts with
    | none => .ok [(name, e)]
    | some (t, ts) =>
      if t.kind = .comma then
        let es ← assignArgsFrom s n ts
        .ok ((name, e) :: es)
      else unexpected s "comma" t

/-- A complete list of bindings, at least one. -/
def assignArgs (s : Surroundings) (ts : List Token) : Except Failure (List (Ident × Expr)) :=
  assignArgsFrom s (ts.length + 1) ts

end Stencil.Parse
