import Stencil.Proofs.Grammar

/-!
# The parser reads what is written

Where an expression is written with some tokens, the parser reads it there, up to spans, whatever
stands behind them, unless what stands behind continues it.

- `Expr.placeless`: an expression without its spans.
- `Parse.Ends`, `Parse.Stops`: neither a path nor a filter goes on.
- `Parse.reads_expr`: an expression is read up to the filters behind it.
- `Parse.reads_expression`: an expression is read as a whole.
-/

namespace Stencil

/-! ## Spans -/

/-- What a member access names, without its place. -/
def Access.placeless : Access → Access
  | .index n _ => .index n (Span.point 0)
  | .key name => .key ⟨name.name, Span.point 0⟩

/-- A member access without its place. -/
def Member.placeless (m : Member) : Member := ⟨m.isOptional, m.access.placeless, Span.point 0⟩

namespace Expr

mutual

/-- An expression without its spans. -/
def placeless : Expr → Expr
  | .variable first path => .variable ⟨first.name, Span.point 0⟩ (path.map Member.placeless)
  | .literal v _ => .literal v (Span.point 0)
  | .list items _ => .list (placelessAll items) (Span.point 0)
  | .map entries _ => .map (placelessEntries entries) (Span.point 0)
  | .filter receiver name args _ =>
    .filter receiver.placeless ⟨name.name, Span.point 0⟩ (placelessAll args) (Span.point 0)

/-- Expressions without their spans. -/
def placelessAll : List Expr → List Expr
  | [] => []
  | x :: xs => x.placeless :: placelessAll xs

/-- Entries of a map without their spans. -/
def placelessEntries : List (String × Expr) → List (String × Expr)
  | [] => []
  | (key, x) :: es => (key, x.placeless) :: placelessEntries es

end

theorem placelessAll_eq_map (xs : List Expr) : placelessAll xs = xs.map placeless := by
  induction xs with
  | nil => rfl
  | cons x xs ih => rw [placelessAll, ih, List.map_cons]

theorem placelessEntries_eq_map (es : List (String × Expr)) :
    placelessEntries es = es.map fun e => (e.1, e.2.placeless) := by
  induction es with
  | nil => rfl
  | cons e es ih => rw [placelessEntries, ih, List.map_cons]

theorem endsInArguments_placeless (x : Expr) : x.placeless.endsInArguments = x.endsInArguments := by
  cases x with
  | filter receiver name args span =>
    cases args with
    | nil => rfl
    | cons a as => rfl
  | _ => rfl

end Expr

/-! ## Single tokens -/

namespace Parse

variable {s : Surroundings} {t : Token} {C R : List Token} {n : Nat}

@[simp] theorem startsWith_cons (kind : TokenKind) (t : Token) (ts : List Token) :
    startsWith kind (t :: ts) = decide (t.kind = kind) := rfl

theorem isNext_eq (hs : s.failure = none) (kind : TokenKind) (ts : List Token) :
    isNext s kind ts = .ok (startsWith kind ts) := by
  cases ts with
  | nil =>
    rw [isNext, next?, hs]
    rfl
  | cons t ts => rfl

theorem expect_cons {kind : TokenKind} (h : t.kind = kind) (ts : List Token) :
    expect s kind (t :: ts) = .ok (t, ts) := by
  show (if t.kind = kind then _ else _) = _
  rw [if_pos h]

theorem ident_cons (h : t.kind = .identifier) (ts : List Token) :
    ident s (t :: ts) = .ok (⟨t.text, t.span⟩, ts) := by
  rw [ident, expect_cons h]
  rfl

/-- Neither a path nor a filter without arguments goes on. -/
structure Ends (R : List Token) : Prop where
  dot : startsWith .dot R = false
  questionDot : startsWith .questionDot R = false
  colon : startsWith .colon R = false

theorem ends_nil : Ends [] := ⟨rfl, rfl, rfl⟩

theorem ends_cons (h : t.kind ≠ .dot ∧ t.kind ≠ .questionDot ∧ t.kind ≠ .colon) :
    Ends (t :: R) := by
  constructor <;> simp [h]

/-- No expression goes on. -/
structure Stops (R : List Token) : Prop extends Ends R where
  pipe : startsWith .pipe R = false

theorem stops_nil : Stops [] := ⟨ends_nil, rfl⟩

theorem stops_cons (h : t.kind = .comma ∨ t.kind = .rightBracket ∨ t.kind = .rightBrace) :
    Stops (t :: R) := by
  rcases h with h | h | h <;> exact ⟨ends_cons (by simp [h]), by simp [h]⟩

/-! ## Terms -/

theorem ok_bind {ε α β : Type} (a : α) (f : α → Except ε β) : (.ok a >>= f) = f a := rfl

theorem any_cons_bind {α : Type} (ts : List Token) (f : Taken Token → Except Failure α) :
    (any s (t :: ts) >>= f) = f (t, ts) := rfl

theorem keywordLiteral_eq {k : Keyword} {v : Value} (h : t.text = k.text)
    (hk : (k = .true ∧ v = .bool true) ∨ (k = .false ∧ v = .bool false) ∨ (k = .none ∧ v = .none)) :
    keywordLiteral s t = .ok v := by
  rw [keywordLiteral, h, Keyword.ofString?_text]
  rcases hk with ⟨rfl, rfl⟩ | ⟨rfl, rfl⟩ | ⟨rfl, rfl⟩ <;> rfl

theorem term_keyword {k : Keyword} {v : Value} (h : t.lexeme = (.keyword, k.text))
    (hk : (k = .true ∧ v = .bool true) ∨ (k = .false ∧ v = .bool false) ∨ (k = .none ∧ v = .none)) :
    term s (n + 1) (t :: R) = .ok (.literal v t.span, R) := by
  obtain ⟨kind, text⟩ := Prod.mk.inj h
  rw [term, any_cons_bind]
  simp only [kind]
  rw [keywordLiteral_eq text hk]
  rfl

theorem term_literal {v : Value} (h : LiteralText v (C.map Token.lexeme)) :
    ∃ span, term s (n + 1) (C ++ R) = .ok (.literal v span, R) := by
  generalize hC : C.map Token.lexeme = ks at h
  cases h with
  | truth =>
    obtain ⟨t, rfl, h⟩ := List.map_eq_singleton_iff.1 hC
    exact ⟨t.span, term_keyword (k := .true) h (.inl ⟨rfl, rfl⟩)⟩
  | falsehood =>
    obtain ⟨t, rfl, h⟩ := List.map_eq_singleton_iff.1 hC
    exact ⟨t.span, term_keyword (k := .false) h (.inr (.inl ⟨rfl, rfl⟩))⟩
  | nothing =>
    obtain ⟨t, rfl, h⟩ := List.map_eq_singleton_iff.1 hC
    exact ⟨t.span, term_keyword (k := .none) h (.inr (.inr ⟨rfl, rfl⟩))⟩
  | number h =>
    obtain ⟨t, rfl, ht⟩ := List.map_eq_singleton_iff.1 hC
    obtain ⟨kind, rfl⟩ := Prod.mk.inj ht
    refine ⟨t.span, ?_⟩
    rw [List.singleton_append, term, any_cons_bind]
    simp only [kind]
    rw [Literal.number_eq_ok h]
    rfl
  | signed negative h =>
    obtain ⟨sign, C', rfl, hsign, hC'⟩ := List.map_eq_cons_iff.1 hC
    obtain ⟨t, rfl, ht⟩ := List.map_eq_singleton_iff.1 hC'
    obtain ⟨signKind, -⟩ := Prod.mk.inj hsign
    obtain ⟨kind, rfl⟩ := Prod.mk.inj ht
    have read : signed s sign negative (t :: R) = .ok (.literal v (sign.span.join t.span), R) := by
      rw [signed, expect_cons kind]
      show (lift (Literal.number _ _ _ _) >>= _) = _
      rw [Literal.number_eq_ok h]
      rfl
    refine ⟨sign.span.join t.span, ?_⟩
    rw [List.cons_append, List.singleton_append, term, any_cons_bind]
    cases negative with
    | true =>
      rw [if_pos rfl] at signKind
      simp only [signKind]
      exact read
    | false =>
      rw [if_neg Bool.false_ne_true] at signKind
      simp only [signKind]
      exact read
  | string h =>
    obtain ⟨t, rfl, ht⟩ := List.map_eq_singleton_iff.1 hC
    obtain ⟨kind, rfl⟩ := Prod.mk.inj ht
    refine ⟨t.span, ?_⟩
    rw [List.singleton_append, term, any_cons_bind]
    simp only [kind]
    rw [Literal.string_eq_ok h]
    rfl

theorem access_of_text {a : Access} (h : AccessText a t.lexeme) :
    ∃ a', access s (t :: R) = .ok (a', R) ∧ a'.placeless = a.placeless := by
  generalize ht : t.lexeme = k at h
  cases h with
  | @index _ i _ h =>
    obtain ⟨kind, rfl⟩ := Prod.mk.inj ht
    refine ⟨.index i t.span, ?_, rfl⟩
    rw [access, any_cons_bind]
    simp only [kind, h]
  | key h =>
    obtain ⟨rfl, rfl⟩ := Prod.mk.inj ht
    refine ⟨.key ⟨t.text, t.span⟩, ?_, rfl⟩
    rw [access, any_cons_bind]
    rcases h with h | h
    · simp only [h]
    · simp only [h]

/-- A path is read up to its end. -/
theorem path_of_text {ms : List Member} (h : PathText ms (C.map Token.lexeme))
    (hs : s.failure = none) (hn : C.length < n) (dot : startsWith .dot R = false)
    (questionDot : startsWith .questionDot R = false) :
    ∃ ms', path s n (C ++ R) = .ok (ms', R) ∧
      ms'.map Member.placeless = ms.map Member.placeless := by
  generalize hC : C.map Token.lexeme = ks at h
  -- on the members; each takes two tokens, and one off the bound
  induction h generalizing C n with
  | nil =>
    obtain rfl := List.map_eq_nil_iff.1 hC
    obtain ⟨n, rfl⟩ := Nat.exists_eq_succ_of_ne_zero (Nat.ne_of_gt hn)
    refine ⟨[], ?_, rfl⟩
    rw [path, List.nil_append]
    cases R with
    | nil =>
      rw [next?, hs]
      rfl
    | cons t R =>
      have stops : ¬ (t.kind = .dot ∨ t.kind = .questionDot) := by
        rw [startsWith_cons, decide_eq_false_iff_not] at dot questionDot
        exact not_or.2 ⟨dot, questionDot⟩
      show (if _ then _ else _) = _
      rw [if_neg stops]
  | @cons m ms op name rest accessed h ih =>
    obtain ⟨opToken, C', rfl, hop, hC'⟩ := List.map_eq_cons_iff.1 hC
    obtain ⟨nameToken, C'', rfl, rfl, hC''⟩ := List.map_eq_cons_iff.1 hC'
    obtain ⟨n, rfl⟩ := Nat.exists_eq_succ_of_ne_zero (Nat.ne_of_gt (Nat.zero_lt_of_lt hn))
    obtain ⟨kind, -⟩ := Prod.mk.inj hop
    obtain ⟨a, readAccess, sameAccess⟩ := access_of_text (s := s) (R := C'' ++ R) accessed
    obtain ⟨ms', readPath, same⟩ := ih (n := n) (by simp only [List.length_cons] at hn; omega) hC''
    refine ⟨⟨opToken.kind = .questionDot, a, opToken.span.join a.span⟩ :: ms', ?_, ?_⟩
    · have continues : opToken.kind = .dot ∨ opToken.kind = .questionDot := by
        rw [kind]
        split
        · exact .inr rfl
        · exact .inl rfl
      rw [path]
      show (if _ then _ else _) = _
      rw [if_pos continues]
      show (access s (nameToken :: (C'' ++ R)) >>= _) = _
      rw [readAccess]
      show (path s n (C'' ++ R) >>= _) = _
      rw [readPath]
      rfl
    · have optional : decide (opToken.kind = .questionDot) = m.isOptional := by
        rw [kind]
        cases m.isOptional <;> rfl
      rw [List.map_cons, List.map_cons, same, Member.placeless, Member.placeless, sameAccess]
      rw [optional]

theorem mapKey_of_text {key : String} (h : KeyText key t.lexeme) :
    mapKey s (t :: R) = .ok (key, R) := by
  generalize ht : t.lexeme = k at h
  cases h with
  | name h =>
    obtain ⟨rfl, rfl⟩ := Prod.mk.inj ht
    rw [mapKey, any_cons_bind]
    rcases h with h | h
    · simp only [h]
    · simp only [h]
  | string h =>
    obtain ⟨kind, rfl⟩ := Prod.mk.inj ht
    rw [mapKey, any_cons_bind]
    simp only [kind]
    rw [Literal.string_eq_ok h]
    rfl

end Parse

/-! ## First tokens -/

/-- A kind of token that an expression can begin with. -/
def TokenKind.begins : TokenKind → Bool
  | .keyword | .identifier | .minus | .plus | .number | .string | .leftBracket | .leftBrace => true
  | _ => false

/-- The first token of an expression is one that it can begin with. -/
theorem Expr.head_of_written : ∀ {ks : List Lexeme} (x : Expr), x.Written ks →
    ∃ k rest, ks = k :: rest ∧ k.1.begins
  | _, .variable _ _, h => by
    obtain ⟨rest, rfl, -⟩ := h
    exact ⟨_, _, rfl, rfl⟩
  | _, .literal _ _, h => by
    cases h with
    | signed negative h => exact ⟨_, _, rfl, by cases negative <;> rfl⟩
    | _ => exact ⟨_, _, rfl, rfl⟩
  | _, .list _ _, h => by
    obtain ⟨_, _, _, -, rfl⟩ := h
    exact ⟨_, _, rfl, rfl⟩
  | _, .map _ _, h => by
    obtain ⟨_, _, _, -, rfl⟩ := h
    exact ⟨_, _, rfl, rfl⟩
  | _, .filter receiver _ _ _, h => by
    obtain ⟨front, _, _, written, -, rfl⟩ := h
    obtain ⟨k, rest, rfl, begins⟩ := head_of_written receiver written
    exact ⟨k, _, rfl, begins⟩

namespace Parse

variable {s : Surroundings} {C R : List Token} {n : Nat}

theorem startsWith_of_written {x : Expr} (h : x.Written (C.map Token.lexeme)) {kind : TokenKind}
    (other : kind.begins = false) : startsWith kind (C ++ R) = false := by
  obtain ⟨k, rest, hC, begins⟩ := x.head_of_written h
  obtain ⟨t, C', rfl, rfl, -⟩ := List.map_eq_cons_iff.1 hC
  rw [List.cons_append, startsWith_cons, decide_eq_false_iff_not]
  rintro rfl
  rw [Token.lexeme, other] at begins
  cases begins

theorem length_pos_of_written {x : Expr} (h : x.Written (C.map Token.lexeme)) : 0 < C.length := by
  obtain ⟨k, rest, hC, -⟩ := x.head_of_written h
  obtain ⟨t, C', rfl, -, -⟩ := List.map_eq_cons_iff.1 hC
  exact Nat.succ_pos _

/-! ## Expressions -/

/-- Behind an expression without a filter behind it, nothing more is read. -/
theorem filters_eq_self (hs : s.failure = none) (hn : 0 < n) (x : Expr)
    (pipe : startsWith .pipe R = false) : filters s n x R = .ok (x, R) := by
  obtain ⟨n, rfl⟩ := Nat.exists_eq_succ_of_ne_zero (Nat.ne_of_gt hn)
  rw [filters, isNext_eq hs, pipe]
  rfl

/-- A filter without arguments is read. -/
theorem filters_bare (hs : s.failure = none) (e : Expr) {bar name : Token}
    (hbar : bar.kind = .pipe) (hname : name.kind = .identifier)
    (colon : startsWith .colon R = false) :
    filters s (n + 1) e (bar :: name :: R) =
      filters s n (.filter e ⟨name.text, name.span⟩ [] (e.span.join name.span)) R := by
  simp only [filters, isNext_eq hs, startsWith_cons, hbar, expect_cons hbar, ident_cons hname,
    colon, decide_true, if_true, Bool.false_eq_true, if_false, ok_bind]

/-- A filter with arguments is read. -/
theorem filters_called (hs : s.failure = none) (e : Expr) {bar name colon : Token}
    (hbar : bar.kind = .pipe) (hname : name.kind = .identifier) (hcolon : colon.kind = .colon)
    {ts : List Token} {as : List Expr} (read : args s n ts = .ok (as, R)) :
    ∃ place, filters s (n + 1) e (bar :: name :: colon :: ts) =
      filters s n (.filter e ⟨name.text, name.span⟩ as place) R := by
  obtain ⟨place, spans⟩ := exists_argsSpan colon.span read
  refine ⟨e.span.join place, ?_⟩
  simp only [filters, isNext_eq hs, startsWith_cons, hbar, expect_cons hbar, ident_cons hname,
    hcolon, expect_cons hcolon, read, spans, decide_true, if_true, ok_bind]

/-- What is said of reading an expression where it is written. -/
def Reads (r : Except Failure (Taken Expr)) (x : Expr) (R : List Token) : Prop :=
  ∃ y, r = .ok (y, R) ∧ y.placeless = x.placeless

/-- A term is read up to the filters behind it. -/
theorem expr_of_term {x : Expr} (h : x.Written (C.map Token.lexeme)) (hn : 2 * C.length + 1 ≤ n)
    (read : ∀ m, 2 * C.length ≤ m + 1 → Reads (term s (m + 1) (C ++ R)) x R) :
    ∃ y m, n ≤ m + C.length ∧ expr s n (C ++ R) = filters s m y R ∧
      y.placeless = x.placeless := by
  have hC := length_pos_of_written h
  obtain ⟨m, rfl⟩ : ∃ m, n = m + 2 := ⟨n - 2, by omega⟩
  obtain ⟨y, read, same⟩ := read m (by omega)
  refine ⟨y, m + 1, by omega, ?_, same⟩
  rw [expr, read]
  rfl

/-- An expression that is read up to the filters behind it is read as a whole if there are none. -/
theorem reads_of_filters {x : Expr} {r : Except Failure (Taken Expr)} (hs : s.failure = none)
    {k : Nat} (h : ∃ y m, n ≤ m + k ∧ r = filters s m y R ∧ y.placeless = x.placeless) (hn : k < n)
    (stops : Stops R) : Reads r x R := by
  obtain ⟨y, m, hm, read, same⟩ := h
  exact ⟨y, read.trans (filters_eq_self hs (by omega) y stops.pipe), same⟩

/-- What is said of reading the items of a list up to its end. -/
def ItemsRead (s : Surroundings) (xs : List Expr) : Prop :=
  ∀ {C R : List Token} {n : Nat} {close : Token}, close.kind = .rightBracket →
    Expr.WrittenItems xs (C.map Token.lexeme) → 2 * C.length + 2 ≤ n →
    ∃ ys, items s n (C ++ close :: R) = .ok (ys, close :: R) ∧
      Expr.placelessAll ys = Expr.placelessAll xs

/-- What is said of reading the entries of a map up to its end. -/
def EntriesRead (s : Surroundings) (es : List (String × Expr)) : Prop :=
  ∀ {C R : List Token} {n : Nat} {close : Token}, close.kind = .rightBrace →
    Expr.WrittenEntries es (C.map Token.lexeme) → 2 * C.length + 2 ≤ n →
    ∃ ys, entries s n (C ++ close :: R) = .ok (ys, close :: R) ∧
      Expr.placelessEntries ys = Expr.placelessEntries es

theorem reads_variable (hs : s.failure = none) {first : Ident} {ms : List Member}
    (h : (Expr.variable first ms).Written (C.map Token.lexeme)) (ends : Ends R) :
    Reads (term s (n + 1) (C ++ R)) (.variable first ms) R := by
  obtain ⟨rest, hC, path⟩ := h
  obtain ⟨t, C, rfl, ht, rfl⟩ := List.map_eq_cons_iff.1 hC
  obtain ⟨kind, text⟩ := Prod.mk.inj ht
  have room : C.length < (C ++ R).length + 1 := by
    rw [List.length_append]
    omega
  obtain ⟨ms', read, same⟩ := path_of_text path hs room ends.dot ends.questionDot
  refine ⟨.variable ⟨t.text, t.span⟩ ms', ?_, ?_⟩
  · simp only [List.cons_append, term, any_cons_bind, kind, read, ok_bind]
  · rw [Expr.placeless, Expr.placeless, same, text]

theorem reads_literal {v : Value} {span : Span}
    (h : (Expr.literal v span).Written (C.map Token.lexeme)) :
    Reads (term s (n + 1) (C ++ R)) (.literal v span) R := by
  obtain ⟨span', read⟩ := term_literal h
  exact ⟨.literal v span', read, rfl⟩

theorem reads_list {xs : List Expr} {span : Span} (hxs : ItemsRead s xs)
    (h : (Expr.list xs span).Written (C.map Token.lexeme)) (hn : 2 * C.length ≤ n + 1) :
    Reads (term s (n + 1) (C ++ R)) (.list xs span) R := by
  obtain ⟨opening, inside, closing, written, hC⟩ := h
  obtain ⟨t, C, rfl, ht, hC⟩ := List.map_eq_cons_iff.1 hC
  obtain ⟨C, D, rfl, rfl, hD⟩ := List.map_eq_append_iff.1 hC
  obtain ⟨close, rfl, hclose⟩ := List.map_eq_singleton_iff.1 hD
  have kind : t.kind = .leftBracket := (Prod.mk.inj ht).1
  have kind' : close.kind = .rightBracket := (Prod.mk.inj hclose).1
  have room : 2 * C.length + 2 ≤ n := by
    simp only [List.length_cons, List.length_append, List.length_nil] at hn
    omega
  obtain ⟨ys, read, same⟩ := hxs (R := R) kind' written room
  refine ⟨.list ys (t.span.join close.span), ?_, ?_⟩
  · simp only [List.cons_append, List.append_assoc, List.nil_append, term, any_cons_bind, kind,
      read, expect_cons kind', ok_bind]
  · rw [Expr.placeless, Expr.placeless, same]

theorem reads_map {es : List (String × Expr)} {span : Span} (hes : EntriesRead s es)
    (h : (Expr.map es span).Written (C.map Token.lexeme)) (hn : 2 * C.length ≤ n + 1) :
    Reads (term s (n + 1) (C ++ R)) (.map es span) R := by
  obtain ⟨opening, inside, closing, written, hC⟩ := h
  obtain ⟨t, C, rfl, ht, hC⟩ := List.map_eq_cons_iff.1 hC
  obtain ⟨C, D, rfl, rfl, hD⟩ := List.map_eq_append_iff.1 hC
  obtain ⟨close, rfl, hclose⟩ := List.map_eq_singleton_iff.1 hD
  have kind : t.kind = .leftBrace := (Prod.mk.inj ht).1
  have kind' : close.kind = .rightBrace := (Prod.mk.inj hclose).1
  have room : 2 * C.length + 2 ≤ n := by
    simp only [List.length_cons, List.length_append, List.length_nil] at hn
    omega
  obtain ⟨ys, read, same⟩ := hes (R := R) kind' written room
  refine ⟨.map ys (t.span.join close.span), ?_, ?_⟩
  · simp only [List.cons_append, List.append_assoc, List.nil_append, term, any_cons_bind, kind,
      read, expect_cons kind', ok_bind]
  · rw [Expr.placeless, Expr.placeless, same]

mutual

/-- A term is read where it is written. -/
theorem reads_term (hs : s.failure = none) : ∀ (x : Expr) {C R : List Token} {n : Nat},
    x.isFilter = false → x.Written (C.map Token.lexeme) → 2 * C.length ≤ n + 1 → Ends R →
    Reads (term s (n + 1) (C ++ R)) x R
  | .variable _ _, _, _, _, _, h, _, ends => reads_variable hs h ends
  | .literal _ _, _, _, _, _, h, _, _ => reads_literal h
  | .list xs _, _, _, _, _, h, hn, _ => reads_list (reads_items hs xs) h hn
  | .map es _, _, _, _, _, h, hn, _ => reads_map (reads_entries hs es) h hn
  | .filter _ _ _ _, _, _, _, isTerm, _, _, _ => nomatch isTerm

/-- An expression is read where it is written, up to the filters behind it. -/
theorem reads_expr (hs : s.failure = none) : ∀ (x : Expr) {C R : List Token} {n : Nat},
    x.Written (C.map Token.lexeme) → 2 * C.length + 1 ≤ n → Ends R →
    (x.endsInArguments → startsWith .comma R = false) →
    ∃ y m, n ≤ m + C.length ∧ expr s n (C ++ R) = filters s m y R ∧ y.placeless = x.placeless
  | .variable _ _, _, _, _, h, hn, ends, _ =>
    expr_of_term h hn fun _ _ => reads_variable hs h ends
  | .literal _ _, _, _, _, h, hn, _, _ => expr_of_term h hn fun _ _ => reads_literal h
  | .list xs _, _, _, _, h, hn, _, _ =>
    expr_of_term h hn fun _ hm => reads_list (reads_items hs xs) h hm
  | .map es _, _, _, _, h, hn, _, _ =>
    expr_of_term h hn fun _ hm => reads_map (reads_entries hs es) h hm
  | .filter receiver name as span, C, R, n, h, hn, ends, comma => by
    obtain ⟨front, bar, rest, written, writtenArgs, hC⟩ := h
    obtain ⟨C, D, rfl, rfl, hD⟩ := List.map_eq_append_iff.1 hC
    obtain ⟨barToken, D, rfl, hbar, hD⟩ := List.map_eq_cons_iff.1 hD
    obtain ⟨nameToken, D, rfl, hname, rfl⟩ := List.map_eq_cons_iff.1 hD
    have barKind : barToken.kind = .pipe := (Prod.mk.inj hbar).1
    obtain ⟨nameKind, nameText⟩ := Prod.mk.inj hname
    have length : (C ++ barToken :: nameToken :: D).length = C.length + 2 + D.length := by
      simp only [List.length_append, List.length_cons]
      omega
    have barEnds : Ends (barToken :: nameToken :: (D ++ R)) := ends_cons (by simp [barKind])
    obtain ⟨y, m, hm, read, same⟩ := reads_expr hs receiver (n := n) written (by omega) barEnds
      fun _ => by rw [startsWith_cons, barKind]; rfl
    obtain ⟨m, rfl⟩ : ∃ k, m = k + 1 := ⟨m - 1, by omega⟩
    rw [List.append_assoc, List.cons_append, List.cons_append, read]
    cases as with
    | nil =>
      obtain rfl := List.map_eq_nil_iff.1 writtenArgs
      refine ⟨_, m, by omega, filters_bare hs y barKind nameKind ends.colon, ?_⟩
      rw [Expr.placeless, Expr.placeless, same, nameText]
    | cons a as =>
      obtain ⟨sign, _, _, -, -, -, hD⟩ := id writtenArgs
      obtain ⟨colon, D, rfl, hcolon, -⟩ := List.map_eq_cons_iff.1 hD
      have colonKind : colon.kind = .colon := (Prod.mk.inj hcolon).1
      rw [List.length_cons] at length
      obtain ⟨ys, readArgs, sameArgs⟩ := reads_args hs (a :: as) (n := m) (List.cons_ne_nil a as)
        writtenArgs (by omega) ends (comma rfl)
      obtain ⟨place, read⟩ := filters_called hs y barKind nameKind colonKind readArgs
      refine ⟨_, m, by omega, read, ?_⟩
      rw [Expr.placeless, Expr.placeless, same, sameArgs, nameText]

theorem reads_args (hs : s.failure = none) : ∀ (xs : List Expr) {separator : TokenKind}
    {t : Token} {C R : List Token} {n : Nat}, xs ≠ [] →
    Expr.WrittenArgs separator xs ((t :: C).map Token.lexeme) → 2 * C.length + 1 ≤ n → Ends R →
    startsWith .comma R = false →
    ∃ ys, args s n (C ++ R) = .ok (ys, R) ∧ Expr.placelessAll ys = Expr.placelessAll xs
  | [], _, _, _, _, _, h, _, _, _, _ => absurd rfl h
  | [x], separator, t, C, R, n, _, h, hn, ends, comma => by
    obtain ⟨sign, front, rest, written, isTerm, rfl, hC⟩ := h
    rw [List.append_nil] at hC
    obtain ⟨-, rfl⟩ := List.cons.inj hC
    have positive := length_pos_of_written written
    obtain ⟨n, rfl⟩ : ∃ k, n = k + 2 := ⟨n - 2, by omega⟩
    obtain ⟨y, read, same⟩ := reads_term hs x (n := n) isTerm written (by omega) ends
    refine ⟨[y], ?_, ?_⟩
    · simp only [args, read, ok_bind, isNext_eq hs, comma, Bool.false_eq_true, if_false]
    · rw [Expr.placelessAll, Expr.placelessAll, same]
      rfl
  | x :: x' :: xs, separator, t, C, R, n, _, h, hn, ends, comma => by
    obtain ⟨sign, front, rest, written, isTerm, others, hC⟩ := h
    obtain ⟨-, hC⟩ := List.cons.inj hC
    obtain ⟨C, D, rfl, rfl, rfl⟩ := List.map_eq_append_iff.1 hC
    obtain ⟨_, _, _, -, -, -, hD⟩ := id others
    obtain ⟨commaToken, D, rfl, hcomma, -⟩ := List.map_eq_cons_iff.1 hD
    have kind : commaToken.kind = .comma := (Prod.mk.inj hcomma).1
    have positive := length_pos_of_written written
    rw [List.length_append, List.length_cons] at hn
    obtain ⟨n, rfl⟩ : ∃ k, n = k + 2 := ⟨n - 2, by omega⟩
    have commaEnds : Ends (commaToken :: (D ++ R)) := ends_cons (by simp [kind])
    obtain ⟨y, read, same⟩ := reads_term hs x (n := n) isTerm written (by omega) commaEnds
    obtain ⟨ys, readArgs, sameArgs⟩ := reads_args hs (x' :: xs) (n := n + 1)
      (List.cons_ne_nil x' xs) others (by omega) ends comma
    refine ⟨y :: ys, ?_, ?_⟩
    · rw [List.append_assoc, List.cons_append, args, read]
      simp only [ok_bind, isNext_eq hs, startsWith_cons, kind, expect_cons kind, readArgs,
        decide_true, if_true]
    · rw [Expr.placelessAll, Expr.placelessAll, same, sameArgs]

theorem reads_items (hs : s.failure = none) : ∀ (xs : List Expr), ItemsRead s xs
  | [], C, R, n, close, kind, h, hn => by
    obtain rfl := List.map_eq_nil_iff.1 h
    obtain ⟨n, rfl⟩ :=
      Nat.exists_eq_succ_of_ne_zero (Nat.ne_of_gt (Nat.lt_of_lt_of_le (by simp) hn))
    refine ⟨[], ?_, rfl⟩
    simp only [List.nil_append, items, isNext_eq hs, startsWith_cons, kind, ok_bind, decide_true,
      if_true]
  | x :: xs, C, R, n, close, kind, h, hn => by
    obtain ⟨front, rest, written, hC, behind⟩ := h
    obtain ⟨C, D, rfl, rfl, rfl⟩ := List.map_eq_append_iff.1 hC
    rw [List.length_append] at hn
    obtain ⟨n, rfl⟩ : ∃ k, n = k + 1 := ⟨n - 1, by omega⟩
    rw [List.append_assoc]
    have opens : startsWith .rightBracket (C ++ (D ++ close :: R)) = false :=
      startsWith_of_written written rfl
    rcases behind with ⟨rfl, hD⟩ | ⟨apart, sign, more, hD, others⟩
    · obtain rfl := List.map_eq_nil_iff.1 hD
      have stops : Stops (close :: R) := stops_cons (.inr (.inl kind))
      have noComma : startsWith .comma (close :: R) = false := by simp [kind]
      obtain ⟨y, read, same⟩ := reads_of_filters hs
        (reads_expr hs x (n := n) written (by omega) stops.toEnds fun _ => noComma) (by omega) stops
      refine ⟨[y], ?_, ?_⟩
      · rw [List.nil_append] at opens ⊢
        simp only [items, isNext_eq hs, opens, read, noComma, ok_bind, Bool.false_eq_true,
          if_false]
      · rw [Expr.placelessAll, Expr.placelessAll, same]
        rfl
    · obtain ⟨comma, D, rfl, hcomma, rfl⟩ := List.map_eq_cons_iff.1 hD
      have commaKind : comma.kind = .comma := (Prod.mk.inj hcomma).1
      rw [List.length_cons] at hn
      rw [List.cons_append] at opens ⊢
      have stops : Stops (comma :: (D ++ close :: R)) := stops_cons (.inl commaKind)
      obtain ⟨y, read, same⟩ := reads_of_filters hs
        (reads_expr hs x (n := n) written (by omega) stops.toEnds
          fun ending => absurd ending (by simp [apart])) (by omega) stops
      obtain ⟨ys, readItems, sameItems⟩ := reads_items hs xs (R := R) (n := n) kind others
        (by omega)
      refine ⟨y :: ys, ?_, ?_⟩
      · simp only [items, isNext_eq hs, opens, read, startsWith_cons, commaKind,
          expect_cons commaKind, readItems, ok_bind, decide_true, if_true, Bool.false_eq_true,
          if_false]
      · rw [Expr.placelessAll, Expr.placelessAll, same, sameItems]

theorem reads_entries (hs : s.failure = none) : ∀ (es : List (String × Expr)), EntriesRead s es
  | [], C, R, n, close, kind, h, hn => by
    obtain rfl := List.map_eq_nil_iff.1 h
    obtain ⟨n, rfl⟩ :=
      Nat.exists_eq_succ_of_ne_zero (Nat.ne_of_gt (Nat.lt_of_lt_of_le (by simp) hn))
    refine ⟨[], ?_, rfl⟩
    simp only [List.nil_append, entries, isNext_eq hs, startsWith_cons, kind, ok_bind, decide_true,
      if_true]
  | (key, x) :: es, C, R, n, close, kind, h, hn => by
    obtain ⟨name, sign, front, rest, keyText, written, hC, behind⟩ := h
    obtain ⟨nameToken, C', rfl, rfl, hC'⟩ := List.map_eq_cons_iff.1 hC
    obtain ⟨colon, C'', rfl, hcolon, hC''⟩ := List.map_eq_cons_iff.1 hC'
    obtain ⟨C, D, rfl, rfl, rfl⟩ := List.map_eq_append_iff.1 hC''
    have colonKind : colon.kind = .colon := (Prod.mk.inj hcolon).1
    rw [List.length_cons, List.length_cons, List.length_append] at hn
    obtain ⟨n, rfl⟩ : ∃ k, n = k + 1 := ⟨n - 1, by omega⟩
    rw [List.cons_append, List.cons_append, List.append_assoc]
    have opens : nameToken.kind ≠ .rightBrace := fun h => by
      have plain := keyText.isPlain
      rw [Token.lexeme, h] at plain
      cases plain
    rcases behind with ⟨rfl, hD⟩ | ⟨apart, sign', more, hD, others⟩
    · obtain rfl := List.map_eq_nil_iff.1 hD
      rw [List.nil_append]
      have stops : Stops (close :: R) := stops_cons (.inr (.inr kind))
      have noComma : startsWith .comma (close :: R) = false := by simp [kind]
      obtain ⟨y, read, same⟩ := reads_of_filters hs
        (reads_expr hs x (n := n) written (by omega) stops.toEnds fun _ => noComma) (by omega) stops
      refine ⟨[(key, y)], ?_, ?_⟩
      · simp only [entries, isNext_eq hs, startsWith_cons, opens, mapKey_of_text keyText,
          expect_cons colonKind, read, noComma, ok_bind, decide_false, Bool.false_eq_true,
          if_false]
      · rw [Expr.placelessEntries, Expr.placelessEntries, same]
        rfl
    · obtain ⟨comma, D, rfl, hcomma, rfl⟩ := List.map_eq_cons_iff.1 hD
      have commaKind : comma.kind = .comma := (Prod.mk.inj hcomma).1
      rw [List.length_cons] at hn
      rw [List.cons_append]
      have stops : Stops (comma :: (D ++ close :: R)) := stops_cons (.inl commaKind)
      obtain ⟨y, read, same⟩ := reads_of_filters hs
        (reads_expr hs x (n := n) written (by omega) stops.toEnds
          fun ending => absurd ending (by simp [apart])) (by omega) stops
      obtain ⟨ys, readEntries, sameEntries⟩ := reads_entries hs es (R := R) (n := n) kind others
        (by omega)
      refine ⟨(key, y) :: ys, ?_, ?_⟩
      · simp only [entries, isNext_eq hs, startsWith_cons, opens, mapKey_of_text keyText,
          expect_cons colonKind, read, commaKind, expect_cons commaKind, readEntries, ok_bind,
          decide_true, if_true, decide_false, Bool.false_eq_true, if_false]
      · rw [Expr.placelessEntries, Expr.placelessEntries, same, sameEntries]

end

/-- An expression is read where it is written, if what stands behind does not continue it. -/
theorem reads_expression {x : Expr} (hs : s.failure = none) (h : x.Written (C.map Token.lexeme))
    (stops : Stops R) (comma : x.endsInArguments → startsWith .comma R = false) :
    Reads (expression s (C ++ R)) x R := by
  have room : 2 * C.length + 1 ≤ bound (C ++ R) := by
    rw [bound, List.length_append]
    omega
  exact reads_of_filters hs (reads_expr hs x h room stops.toEnds comma) (by omega) stops

end Parse

end Stencil
