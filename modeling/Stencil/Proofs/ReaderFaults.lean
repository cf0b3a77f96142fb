import Stencil.Proofs.Markup

/-!
# Why readers fail

A reader of tokens has few reasons to fail. The tokens end, or the lexer has failed behind them; or
a token is not what is wanted where it stands; or a literal has no value. A number with a sign in
front is one literal, and its two tokens are next to each other.

- `SyntaxFault.Concerns`: what may be wrong with a token.
- `Parse.Blamed`: what a reader may fail with over some tokens.
- `Parse.Fails`, `Parse.Blames`: if there is no result, there is a reason.
- `Parse.Answers`: a reader leaves the last ones of its tokens, or fails with something of the kind.
- `Parse.Answering`: the readers of expressions, by induction on their depth.
- `Parse.blames_callArgs`, `Parse.blames_assignArgs`: lists of arguments.
- `Parse.answers_markup`: a text or a tag.
-/

namespace Stencil

/-- What may be wrong with a token of a kind where it stands. -/
inductive SyntaxFault.Concerns : TokenKind → SyntaxFault → Prop
  | unexpected (wanted : String) (kind : TokenKind) : Concerns kind (.expected wanted (some kind))
  | keyword (found : Keyword) : Concerns .keyword (.unexpectedKeyword found)
  | otherKeyword (wanted found : Keyword) : Concerns .keyword (.expectedKeyword wanted found)
  | index : Concerns .index .indexOutOfRange

namespace Parse

/-- What a reader may fail with over some tokens. -/
inductive Blamed (s : Surroundings) (ts : List Token) : Failure → Prop
  | broken : Blamed s ts .broken
  | lexer {f : Failure} (failed : s.failure = some f) : Blamed s ts f
  | atEnd (wanted : String) : Blamed s ts
      (.error (Error.syntaxAt (.expected wanted none) s.source (Span.point s.source.utf8ByteSize)))
  | token {t : Token} {fault : SyntaxFault} (mem : t ∈ ts) (concerns : fault.Concerns t.kind) :
      Blamed s ts (.error (Error.syntaxAt fault s.source t.span))
  | string {t : Token} {err : Error} (mem : t ∈ ts) (kind : t.kind = .string)
      (failed : Literal.string s.source t.text t.span = .error (.error err)) :
      Blamed s ts (.error err)
  | number {t : Token} {err : Error} (mem : t ∈ ts) (kind : t.kind = .number)
      (failed : Literal.number s.source t.text.toList t.span false = .error err) :
      Blamed s ts (.error err)
  | signed {sign t : Token} {negative : Bool} {err : Error} (near : [sign, t] <:+: ts)
      (hsign : sign.kind = if negative then .minus else .plus) (kind : t.kind = .number)
      (failed : Literal.number s.source t.text.toList (sign.span.join t.span) negative =
        .error err) :
      Blamed s ts (.error err)

variable {α β γ : Type} {s : Surroundings} {ts ts' : List Token} {t : Token} {f : Failure} {n : Nat}

/-- The reason stands among more tokens as well. -/
theorem Blamed.mono (h : Blamed s ts f) (part : ts <:+: ts') : Blamed s ts' f := by
  cases h with
  | broken => exact .broken
  | lexer failed => exact .lexer failed
  | atEnd wanted => exact .atEnd wanted
  | token mem concerns => exact .token (part.subset mem) concerns
  | string mem kind failed => exact .string (part.subset mem) kind failed
  | number mem kind failed => exact .number (part.subset mem) kind failed
  | signed near hsign kind failed => exact .signed (near.trans part) hsign kind failed

/-- If there is no result, the failure is of some kind. -/
def Fails (P : Failure → Prop) (r : Except Failure α) : Prop := ∀ f, r = .error f → P f

/-- If there is no result, the tokens are the reason. -/
abbrev Blames (s : Surroundings) (ts : List Token) (r : Except Failure α) : Prop :=
  Fails (Blamed s ts) r

/-- What is read leaves the last ones of the tokens. If nothing is read, the tokens are the
reason. -/
def Answers (s : Surroundings) (ts : List Token) : Except Failure (Taken α) → Prop
  | .ok (_, rest) => rest <:+ ts
  | .error f => Blamed s ts f

namespace Fails

variable {P Q : Failure → Prop}

theorem ok (a : α) : Fails P (.ok a) := by
  intro f failed
  cases failed

theorem error (h : P f) : Fails P (.error f : Except Failure α) := by
  intro g failed
  cases failed
  exact h

theorem imp {r : Except Failure α} (h : Fails P r) (hPQ : ∀ f, P f → Q f) : Fails Q r :=
  fun f failed => hPQ f (h f failed)

theorem map {r : Except Failure α} (h : Fails P r) (g : α → β) : Fails P (r.map g) := by
  cases r with
  | ok a => exact ok (g a)
  | error f => exact error (h f rfl)

theorem bind {x : Except Failure α} {g : α → Except Failure β} (hx : Fails P x)
    (hg : ∀ a, x = .ok a → Fails P (g a)) : Fails P (x >>= g) := by
  cases x with
  | ok a => exact hg a rfl
  | error f => exact error (hx f rfl)

end Fails

theorem Blames.mono {r : Except Failure α} (h : Blames s ts r) (part : ts <:+: ts') :
    Blames s ts' r :=
  h.imp fun _ blamed => blamed.mono part

namespace Answers

theorem ok {a : α} : Answers s ts (.ok (a, ts)) := List.suffix_refl ts

theorem tail {a : α} : Answers s (t :: ts) (.ok (a, ts)) := List.suffix_cons t ts

theorem blames {r : Except Failure (Taken α)} (h : Answers s ts r) : Blames s ts r := by
  rintro f rfl
  exact h

theorem suffix {r : Except Failure (Taken α)} {a : α} (h : Answers s ts r)
    (read : r = .ok (a, ts')) : ts' <:+ ts := by
  subst read
  exact h

theorem of_suffix {r : Except Failure (Taken α)} (h : Answers s ts r) (part : ts <:+ ts') :
    Answers s ts' r := by
  cases r with
  | ok taken => exact List.IsSuffix.trans h part
  | error f => exact Blamed.mono h part.isInfix

/-- One reading after another. -/
theorem bind {x : Except Failure (Taken α)} {g : Taken α → Except Failure (Taken β)}
    (hx : Answers s ts x) (hg : ∀ a ts', x = .ok (a, ts') → Answers s ts' (g (a, ts'))) :
    Answers s ts (x >>= g) := by
  cases x with
  | ok taken => exact (hg taken.1 taken.2 rfl).of_suffix hx
  | error f => exact hx

/-- Something that is done with what is read. -/
theorem blames_bind {x : Except Failure (Taken α)} {g : Taken α → Except Failure β}
    (hx : Answers s ts x) (hg : ∀ a ts', x = .ok (a, ts') → Blames s ts' (g (a, ts'))) :
    Blames s ts (x >>= g) := by
  refine hx.blames.bind fun taken read => ?_
  exact (hg taken.1 taken.2 read).mono (hx.suffix read).isInfix

/-- Reading after something that takes no token. -/
theorem after {x : Except Failure γ} {g : γ → Except Failure (Taken α)} (hx : Blames s ts x)
    (hg : ∀ c, x = .ok c → Answers s ts (g c)) : Answers s ts (x >>= g) := by
  cases x with
  | ok c => exact hg c rfl
  | error f => exact hx f rfl

end Answers

/-! ## Single tokens -/

/-- Something else is wanted than the first token. -/
theorem blamed_head {fault : SyntaxFault} (concerns : fault.Concerns t.kind) :
    Blamed s (t :: ts) (.error (Error.syntaxAt fault s.source t.span)) :=
  .token List.mem_cons_self concerns

theorem blamed_unexpected (wanted : String) : Blamed s (t :: ts)
    (.error (Error.syntaxAt (.expected wanted (some t.kind)) s.source t.span)) :=
  blamed_head (.unexpected wanted t.kind)

theorem blames_next : Blames s ts (next? s ts) := by
  intro f failed
  cases ts with
  | cons t ts => cases failed
  | nil =>
    rw [next?] at failed
    split at failed
    · next ended =>
      cases failed
      exact .lexer ended
    · cases failed

theorem blames_isNext (kind : TokenKind) : Blames s ts (isNext s kind ts) := blames_next.map _

theorem blames_isNextKeyword (k : Keyword) : Blames s ts (isNextKeyword s k ts) := blames_next.map _

/-- Reading after the next token. -/
theorem answers_bind_any {g : Taken Token → Except Failure (Taken α)}
    (hg : ∀ t ts', ts = t :: ts' → Answers s ts (g (t, ts'))) : Answers s ts (any s ts >>= g) := by
  have blames : Blames s ts (any s ts) := .bind blames_next fun next _ => by
    cases next with
    | none => exact .error (.atEnd _)
    | some taken => exact .ok taken
  exact .after blames fun taken read => hg taken.1 taken.2 (any_eq_ok read)

theorem answers_expect (kind : TokenKind) : Answers s ts (expect s kind ts) := by
  refine .after blames_next fun next first => ?_
  cases next with
  | none => exact Blamed.atEnd kind.word
  | some taken =>
    obtain rfl := next?_eq_some first
    dsimp only
    split
    · exact .tail
    · exact blamed_unexpected kind.word

/-- Reading after a token of a kind. -/
theorem answers_bind_expect {kind : TokenKind} {g : Taken Token → Except Failure (Taken α)}
    (hg : ∀ t ts', ts = t :: ts' → t.kind = kind → Answers s ts (g (t, ts'))) :
    Answers s ts (expect s kind ts >>= g) := by
  refine .after (answers_expect kind).blames fun taken read => ?_
  obtain ⟨first, same⟩ := expect_eq_ok read
  exact hg taken.1 taken.2 first same

theorem answers_ident : Answers s ts (ident s ts) :=
  (answers_expect _).bind fun _ _ _ => .ok

/-- Reading after a keyword. -/
theorem answers_bind_keyword {g : Taken (Keyword × Span) → Except Failure (Taken α)}
    (hg : ∀ t ts' k, ts = t :: ts' → t.kind = .keyword → Answers s ts (g ((k, t.span), ts'))) :
    Answers s ts (keyword s ts >>= g) := by
  rw [keyword, bind_assoc]
  refine answers_bind_expect fun t ts' first kind => ?_
  dsimp only
  split
  · next k _ => exact hg t ts' k first kind
  · exact Blamed.broken

theorem answers_expectKeyword (k : Keyword) : Answers s ts (expectKeyword s k ts) := by
  refine answers_bind_keyword fun t ts' k' first kind => ?_
  subst first
  dsimp only
  split
  · exact .tail
  · exact blamed_head (kind ▸ .otherKeyword k k')

/-! ## Expressions -/

theorem answers_access : Answers s ts (access s ts) := by
  refine answers_bind_any fun t ts' first => ?_
  subst first
  dsimp only
  split
  · next kind =>
    split
    · exact .tail
    · exact blamed_head (kind ▸ .index)
  · exact .tail
  · exact .tail
  · exact blamed_unexpected _

theorem answers_path : Answers s ts (path s n ts) := by
  induction n generalizing ts with
  | zero => exact Blamed.broken
  | succ n ih =>
    unfold path
    refine .after blames_next fun next first => ?_
    cases next with
    | none => exact .ok
    | some taken =>
      obtain rfl := next?_eq_some first
      dsimp only
      split
      · refine Answers.of_suffix ?_ (List.suffix_cons taken.1 taken.2)
        exact answers_access.bind fun _ _ _ => ih.bind fun _ _ _ => .ok
      · exact .ok

theorem blames_keywordLiteral (kind : t.kind = .keyword) :
    Blames s (t :: ts) (keywordLiteral s t) := by
  unfold keywordLiteral
  split
  · exact .ok _
  · exact .ok _
  · exact .ok _
  · exact .error (blamed_head (kind ▸ .keyword _))
  · exact .error .broken

theorem blames_lift {r : Except Error α} (h : ∀ err, r = .error err → Blamed s ts (.error err)) :
    Blames s ts (lift r) := by
  cases r with
  | ok a => exact .ok a
  | error err => exact .error (h err rfl)

theorem blames_string (kind : t.kind = .string) :
    Blames s (t :: ts) (Literal.string s.source t.text t.span) := by
  intro f failed
  cases f with
  | error err => exact .string List.mem_cons_self kind failed
  | broken => exact .broken

theorem blames_argsSpan {colon : Span} {xs : List Expr} : Blames s ts (argsSpan colon xs) := by
  unfold argsSpan
  split
  · exact .error .broken
  · exact .ok _

/-- A number behind its sign. -/
theorem answers_signed {sign : Token} {negative : Bool}
    (hsign : sign.kind = if negative then .minus else .plus) :
    Answers s (sign :: ts) (signed s sign negative ts) := by
  cases read : expect s .number ts with
  | error f =>
    rw [signed, read]
    have blamed : Blamed s ts f := (answers_expect _).blames f read
    exact blamed.mono (List.infix_cons (List.infix_refl ts))
  | ok taken =>
    obtain ⟨t, ts'⟩ := taken
    obtain ⟨rfl, kind⟩ := expect_eq_ok read
    have near : [sign, t] <:+: sign :: t :: ts' := ⟨[], ts', rfl⟩
    rw [signed, read, ok_bind]
    dsimp only
    refine .after (blames_lift fun _ failed => .signed near hsign kind failed) fun _ _ => ?_
    exact ((List.suffix_cons t ts').trans (List.suffix_cons sign _) : ts' <:+ sign :: t :: ts')

theorem answers_mapKey : Answers s ts (mapKey s ts) := by
  refine answers_bind_any fun t ts' first => ?_
  subst first
  dsimp only
  split
  · exact .tail
  · exact .tail
  · next kind => exact .after (blames_string kind) fun _ _ => .tail
  · exact blamed_unexpected _

/-- The readers of expressions have no other reasons to fail, at some depth. -/
structure Answering (s : Surroundings) (n : Nat) : Prop where
  term : ∀ {ts}, Answers s ts (term s n ts)
  expr : ∀ {ts}, Answers s ts (expr s n ts)
  filters : ∀ {ts x}, Answers s ts (filters s n x ts)
  args : ∀ {ts}, Answers s ts (args s n ts)
  items : ∀ {ts}, Answers s ts (items s n ts)
  entries : ∀ {ts}, Answers s ts (entries s n ts)

namespace Answering

theorem zero : Answering s 0 := by
  constructor
  all_goals
    intros
    exact Blamed.broken

theorem term_succ (h : Answering s n) : Answers s ts (Parse.term s (n + 1) ts) := by
  unfold Parse.term
  refine answers_bind_any fun t ts' first => ?_
  subst first
  have rest : ts' <:+ t :: ts' := List.suffix_cons t ts'
  dsimp only
  split
  · next kind => exact .after (blames_keywordLiteral kind) fun _ _ => .tail
  · next kind => exact answers_signed kind
  · next kind => exact answers_signed kind
  · next kind =>
    refine .after (blames_lift fun _ failed => ?_) fun _ _ => .tail
    exact .number List.mem_cons_self kind failed
  · next kind => exact .after (blames_string kind) fun _ _ => .tail
  · refine Answers.of_suffix ?_ rest
    exact h.items.bind fun _ _ _ => (answers_expect _).bind fun _ _ _ => .ok
  · refine Answers.of_suffix ?_ rest
    exact h.entries.bind fun _ _ _ => (answers_expect _).bind fun _ _ _ => .ok
  · refine Answers.of_suffix ?_ rest
    exact answers_path.bind fun _ _ _ => .ok
  · exact blamed_unexpected _

theorem filters_succ (h : Answering s n) {x : Expr} :
    Answers s ts (Parse.filters s (n + 1) x ts) := by
  unfold Parse.filters
  refine .after (blames_isNext .pipe) fun isPipe _ => ?_
  split
  · refine (answers_expect _).bind fun _ _ _ => answers_ident.bind fun name _ _ =>
      .after (blames_isNext .colon) fun isColon _ => ?_
    dsimp only
    split
    · exact (answers_expect _).bind fun _ _ _ => h.args.bind fun _ _ _ =>
        .after blames_argsSpan fun _ _ => h.filters
    · exact h.filters
  · exact .ok

theorem args_succ (h : Answering s n) : Answers s ts (Parse.args s (n + 1) ts) := by
  unfold Parse.args
  refine h.term.bind fun x _ _ => .after (blames_isNext .comma) fun isComma _ => ?_
  dsimp only
  split
  · exact (answers_expect _).bind fun _ _ _ => h.args.bind fun _ _ _ => .ok
  · exact .ok

theorem items_succ (h : Answering s n) : Answers s ts (Parse.items s (n + 1) ts) := by
  unfold Parse.items
  refine .after (blames_isNext .rightBracket) fun closes _ => ?_
  split
  · exact .ok
  · refine h.expr.bind fun x _ _ => .after (blames_isNext .comma) fun isComma _ => ?_
    dsimp only
    split
    · exact (answers_expect _).bind fun _ _ _ => h.items.bind fun _ _ _ => .ok
    · exact .ok

theorem entries_succ (h : Answering s n) : Answers s ts (Parse.entries s (n + 1) ts) := by
  unfold Parse.entries
  refine .after (blames_isNext .rightBrace) fun closes _ => ?_
  split
  · exact .ok
  · refine answers_mapKey.bind fun key _ _ => (answers_expect _).bind fun _ _ _ =>
      h.expr.bind fun x _ _ => .after (blames_isNext .comma) fun isComma _ => ?_
    dsimp only
    split
    · exact (answers_expect _).bind fun _ _ _ => h.entries.bind fun _ _ _ => .ok
    · exact .ok

theorem succ (h : Answering s n) : Answering s (n + 1) where
  term := h.term_succ
  expr := h.term.bind fun _ _ _ => h.filters
  filters := h.filters_succ
  args := h.args_succ
  items := h.items_succ
  entries := h.entries_succ

end Answering

theorem answering (s : Surroundings) : ∀ n, Answering s n
  | 0 => .zero
  | n + 1 => (answering s n).succ

theorem answers_expression : Answers s ts (expression s ts) := (answering s _).expr

/-! ## Arguments -/

theorem blames_callArgsFrom : Blames s ts (callArgsFrom s n ts) := by
  induction n generalizing ts with
  | zero => exact .error .broken
  | succ n ih =>
    unfold callArgsFrom
    refine answers_expression.blames_bind fun x ts₁ _ => .bind blames_next fun next first => ?_
    cases next with
    | none => exact .ok _
    | some taken =>
      obtain rfl := next?_eq_some first
      dsimp only
      split
      · refine .bind (ih.mono ?_) fun _ _ => .ok _
        exact (List.suffix_cons _ _).isInfix
      · exact .error (blamed_unexpected _)

theorem blames_callArgs : Blames s ts (callArgs s ts) := by
  refine .bind blames_next fun next first => ?_
  cases next with
  | none => exact .ok _
  | some taken => exact blames_callArgsFrom

theorem blames_assignArgsFrom : Blames s ts (assignArgsFrom s n ts) := by
  induction n generalizing ts with
  | zero => exact .error .broken
  | succ n ih =>
    unfold assignArgsFrom
    refine answers_ident.blames_bind fun name _ _ => (answers_expect _).blames_bind fun sign _ _ =>
      answers_expression.blames_bind fun x ts₁ _ => .bind blames_next fun next first => ?_
    cases next with
    | none => exact .ok _
    | some taken =>
      obtain rfl := next?_eq_some first
      dsimp only
      split
      · refine .bind (ih.mono ?_) fun _ _ => .ok _
        exact (List.suffix_cons _ _).isInfix
      · exact .error (blamed_unexpected _)

theorem blames_assignArgs : Blames s ts (assignArgs s ts) := blames_assignArgsFrom

/-! ## Texts and tags -/

theorem answers_condition : Answers s ts (condition s ts) := by
  refine .after (blames_isNextKeyword .not) fun negated _ => ?_
  split
  · exact (answers_expectKeyword _).bind fun _ _ _ => answers_expression.bind fun _ _ _ => .ok
  · exact answers_expression.bind fun _ _ _ => .ok

theorem answers_loopVars : Answers s ts (loopVars s ts) := by
  refine answers_ident.bind fun key _ _ => .after (blames_isNext .comma) fun isComma _ => ?_
  split
  · exact (answers_expect _).bind fun _ _ _ => answers_ident.bind fun _ _ _ => .ok
  · exact .ok

theorem answers_blockTag : Answers s ts (blockTag s ts) := by
  refine answers_bind_keyword fun t ts' k first kind => ?_
  subst first
  have rest : ts' <:+ t :: ts' := List.suffix_cons t ts'
  dsimp only
  split
  · refine Answers.of_suffix ?_ rest
    exact answers_condition.bind fun _ _ _ => .ok
  · refine Answers.of_suffix ?_ rest
    refine .after (blames_isNextKeyword .if) fun isIf _ => ?_
    split
    · exact (answers_expectKeyword _).bind fun _ _ _ => answers_condition.bind fun _ _ _ => .ok
    · exact .ok
  · exact .tail
  · refine Answers.of_suffix ?_ rest
    exact answers_loopVars.bind fun _ _ _ => (answers_expectKeyword _).bind fun _ _ _ =>
      answers_expression.bind fun _ _ _ => .ok
  · exact .tail
  · refine Answers.of_suffix ?_ rest
    refine answers_bind_expect fun u ts₂ next kind => ?_
    subst next
    refine .after (blames_string kind) fun name _ => Answers.of_suffix ?_ (List.suffix_cons u ts₂)
    refine .after (blames_isNextKeyword .with) fun isWith _ => ?_
    split
    · exact (answers_expectKeyword _).bind fun _ _ _ => answers_expression.bind fun _ _ _ => .ok
    · exact .ok
  · exact blamed_head (kind ▸ .keyword k)

theorem answers_rawArgs {raw : Span} : Answers s ts (rawArgs s raw ts) := by
  induction ts generalizing raw with
  | nil =>
    rw [rawArgs]
    split
    · next ended => exact Blamed.lexer ended
    · exact Blamed.atEnd _
  | cons t ts ih =>
    rw [rawArgs]
    split
    · exact .tail
    · exact ih.of_suffix (List.suffix_cons t ts)

/-- A text or a tag leaves what is behind it, or the tokens behind its first one are the reason. -/
theorem answers_markup : Answers s ts (markup s t ts) := by
  unfold markup
  split
  · exact .ok
  · refine .after (blames_isNext .raw) fun isRaw _ => ?_
    split
    · refine .after ((answers_expect .raw).blames.map _) fun ts' read => ?_
      obtain ⟨taken, first, rfl⟩ := map_eq_ok read
      refine Answers.of_suffix ?_ ((answers_expect .raw).suffix first)
      exact (answers_expect _).bind fun _ _ _ => .ok
    · exact (answers_expect _).bind fun _ _ _ => .ok
  · exact answers_expression.bind fun _ _ _ => (answers_expect _).bind fun _ _ _ => .ok
  · refine .after (blames_isNext .identifier) fun isName _ => ?_
    split
    · exact answers_ident.bind fun _ _ _ => answers_rawArgs.bind fun _ _ _ => .ok
    · exact answers_blockTag.bind fun _ _ _ => (answers_expect _).bind fun _ _ _ => .ok
  · exact Blamed.broken

end Parse

end Stencil
