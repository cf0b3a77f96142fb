import Stencil.Proofs.ParserSteps
import Stencil.Proofs.TokenSpans

/-!
# Readers that do not break down

Some branches of the parser are never taken: the bound on its depth is enough for the tokens, and a
token of the kind of a keyword or of a string has the text of one. So a reader that cannot go on
ends with an error, provided that the tokens do not end with a breakdown of the lexer.

- `Parse.Whole`: a result that is no breakdown.
- `Parse.Worded`: tokens with texts of their kinds.
- `Parse.Below`: what is read leaves fewer tokens than some number.
- `Parse.Steady`: the readers of expressions at a depth, by induction on the depth.
- `Parse.below_expression`, `Parse.below_blockTag`, `Parse.whole_callArgs`,
  `Parse.whole_assignArgs`: expressions, block tags and lists of arguments.
-/

namespace Stencil.Parse

variable {α β : Type} {s : Surroundings} {ts ts' : List Token} {n k : Nat}

/-! ## Results -/

/-- A result that is no breakdown. -/
def Whole (r : Except Failure α) : Prop := r ≠ .error .broken

/-- All of some tokens have texts of their kinds. -/
abbrev Worded (ts : List Token) : Prop := ∀ t ∈ ts, t.Worded

/-- What is read leaves fewer tokens than some number. If nothing is read, there is an error. -/
def Below (n : Nat) : Except Failure (Taken α) → Prop
  | .ok (_, ts) => Worded ts ∧ ts.length < n
  | .error f => f ≠ .broken

namespace Whole

theorem ok (a : α) : Whole (.ok a) := nofun

theorem fault (f : SyntaxFault) (span : Span) : Whole (fault s f span : Except Failure α) := nofun

theorem lift (r : Except Error α) : Whole (lift r) := by
  cases r with
  | ok a => exact nofun
  | error e => exact nofun

theorem map {r : Except Failure α} (h : Whole r) (f : α → β) : Whole (r.map f) := by
  cases r with
  | ok a => exact nofun
  | error g =>
    intro broken
    cases broken
    exact h rfl

theorem bind {x : Except Failure α} {f : α → Except Failure β} (hx : Whole x)
    (hf : ∀ a, x = .ok a → Whole (f a)) : Whole (x >>= f) := by
  cases x with
  | ok a => exact hf a rfl
  | error g =>
    intro broken
    cases broken
    exact hx rfl

end Whole

theorem Worded.tail {t : Token} (h : Worded (t :: ts)) : Worded ts := (List.forall_mem_cons.1 h).2

namespace Below

theorem ok {a : α} (worded : Worded ts) (lt : ts.length < n) : Below n (.ok (a, ts)) := ⟨worded, lt⟩

theorem fault (f : SyntaxFault) (span : Span) :
    Below n (fault s f span : Except Failure (Taken α)) := nofun

theorem mono {r : Except Failure (Taken α)} (h : Below k r) (le : k ≤ n) : Below n r := by
  cases r with
  | ok p => exact ⟨h.1, Nat.lt_of_lt_of_le h.2 le⟩
  | error f => exact h

theorem whole {r : Except Failure (Taken α)} (h : Below n r) : Whole r := by
  rintro rfl
  exact h rfl

/-- One reading after another, which may depend on what has been read. -/
theorem bind_of_ok {x : Except Failure (Taken α)} {f : Taken α → Except Failure (Taken β)}
    (hx : Below k x)
    (hf : ∀ a ts', Worded ts' → ts'.length < k → x = .ok (a, ts') → Below n (f (a, ts'))) :
    Below n (x >>= f) := by
  cases x with
  | ok p => exact hf p.1 p.2 hx.1 hx.2 rfl
  | error g => exact hx

/-- One reading after another. -/
theorem bind {x : Except Failure (Taken α)} {f : Taken α → Except Failure (Taken β)}
    (hx : Below k x) (hf : ∀ a ts', Worded ts' → ts'.length < k → Below n (f (a, ts'))) :
    Below n (x >>= f) :=
  hx.bind_of_ok fun a ts' worded lt _ => hf a ts' worded lt

/-- Something that is done with what is read. -/
theorem whole_bind {x : Except Failure (Taken α)} {f : Taken α → Except Failure β} (hx : Below k x)
    (hf : ∀ a ts', Worded ts' → ts'.length < k → Whole (f (a, ts'))) : Whole (x >>= f) := by
  cases x with
  | ok p => exact hf p.1 p.2 hx.1 hx.2
  | error g =>
    rintro ⟨⟩
    exact hx rfl

/-- Reading after something that takes no token. -/
theorem after {x : Except Failure α} {f : α → Except Failure (Taken β)} (hx : Whole x)
    (hf : ∀ a, x = .ok a → Below n (f a)) : Below n (x >>= f) := by
  cases x with
  | ok a => exact hf a rfl
  | error g =>
    rintro rfl
    exact hx rfl

end Below

/-! ## Tokens -/

section

variable (hs : s.failure ≠ some .broken)
include hs

theorem whole_next : Whole (next? s ts) := by
  unfold next?
  split
  · exact nofun
  · split
    · next f failed =>
      rintro ⟨⟩
      exact hs failed
    · exact nofun

theorem whole_isNext (kind : TokenKind) : Whole (isNext s kind ts) := (whole_next hs).map _

theorem whole_isNextKeyword (k : Keyword) : Whole (isNextKeyword s k ts) := (whole_next hs).map _

/-- Reading after the next token. -/
theorem below_bind_any {f : Taken Token → Except Failure (Taken α)}
    (hf : ∀ t ts', ts = t :: ts' → Below n (f (t, ts'))) : Below n (any s ts >>= f) := by
  cases read : any s ts with
  | ok taken => exact hf taken.1 taken.2 (any_eq_ok read)
  | error g =>
    rintro rfl
    have whole : Whole (any s ts) := .bind (whole_next hs) fun next _ => by
      cases next with
      | none => exact .fault _ _
      | some taken => exact .ok taken
    exact whole read

theorem below_any (worded : Worded ts) : Below ts.length (any s ts) := by
  rw [← bind_pure (any s ts)]
  refine below_bind_any hs fun t ts' eq => ?_
  subst eq
  exact .ok worded.tail (Nat.lt_succ_self _)

theorem below_expect (kind : TokenKind) (worded : Worded ts) :
    Below ts.length (expect s kind ts) := by
  refine .after (whole_next hs) fun next first => ?_
  cases next with
  | none => exact .fault _ _
  | some taken =>
    obtain rfl := next?_eq_some first
    dsimp only
    split
    · exact .ok worded.tail (Nat.lt_succ_self _)
    · exact .fault _ _

theorem below_ident (worded : Worded ts) : Below ts.length (ident s ts) :=
  .bind (below_expect hs _ worded) fun _ _ worded lt => .ok worded lt

/-- A token of the kind of a keyword is one. -/
theorem below_keyword (worded : Worded ts) : Below ts.length (keyword s ts) := by
  refine .after (below_expect hs .keyword worded).whole fun taken read => ?_
  obtain ⟨t, ts'⟩ := taken
  obtain ⟨rfl, kind⟩ := expect_eq_ok read
  have word : (Keyword.ofString? t.text).isSome := (worded t List.mem_cons_self).keyword kind
  dsimp only
  split
  · exact .ok worded.tail (Nat.lt_succ_self _)
  · next none =>
    rw [none] at word
    cases word

theorem below_expectKeyword (k : Keyword) (worded : Worded ts) :
    Below ts.length (expectKeyword s k ts) := by
  refine .bind (below_keyword hs worded) fun k' ts' worded lt => ?_
  dsimp only
  split
  · exact .ok worded lt
  · exact .fault _ _

/-! ## Expressions -/

theorem below_access (worded : Worded ts) : Below ts.length (access s ts) := by
  refine .bind (below_any hs worded) fun t ts' worded lt => ?_
  dsimp only
  split
  · split
    · exact .ok worded lt
    · exact .fault _ _
  · exact .ok worded lt
  · exact .ok worded lt
  · exact .fault _ _

/-- Every member takes two tokens, so there are fewer than the bound. -/
theorem below_path (worded : Worded ts) (enough : ts.length < n) :
    Below (ts.length + 1) (path s n ts) := by
  induction n generalizing ts with
  | zero => cases enough
  | succ n ih =>
    unfold path
    refine .after (whole_next hs) fun next first => ?_
    cases next with
    | none => exact .ok worded (Nat.lt_succ_self _)
    | some taken =>
      obtain rfl := next?_eq_some first
      rw [List.length_cons] at enough ⊢
      dsimp only
      split
      · refine .bind (below_access hs worded.tail) fun a ts₁ worded lt => ?_
        dsimp only
        refine .bind (ih worded (by omega)) fun ms ts₂ worded lt' => ?_
        exact .ok worded (Nat.lt_trans lt' (by omega))
      · exact .ok worded (by rw [List.length_cons]; omega)

theorem below_signed (sign : Token) (negative : Bool) (worded : Worded ts) :
    Below ts.length (signed s sign negative ts) := by
  refine .bind (below_expect hs _ worded) fun t ts' worded lt => ?_
  exact .after (.lift _) fun v _ => .ok worded lt

omit hs in
theorem whole_string {t : Token} (quoted : (Literal.inner? t.text.toList).isSome) :
    Whole (Literal.string s.source t.text t.span) := by
  obtain ⟨cs, inner⟩ := Option.isSome_iff_exists.1 quoted
  rw [Literal.string, inner]
  dsimp only
  split
  · exact .ok _
  · exact .fault _ _

theorem below_mapKey (worded : Worded ts) : Below ts.length (mapKey s ts) := by
  refine below_bind_any hs fun t ts' eq => ?_
  subst eq
  obtain ⟨token, worded⟩ := List.forall_mem_cons.1 worded
  have lt : ts'.length < (t :: ts').length := Nat.lt_succ_self _
  dsimp only
  split
  · exact .ok worded lt
  · exact .ok worded lt
  · next kind =>
    exact .after (whole_string (token.string kind)) fun key _ => .ok worded lt
  · exact .fault _ _

omit hs in
theorem whole_keywordLiteral {t : Token} (word : (Keyword.ofString? t.text).isSome) :
    Whole (keywordLiteral s t) := by
  obtain ⟨k, found⟩ := Option.isSome_iff_exists.1 word
  unfold keywordLiteral
  rw [found]
  cases k <;> nofun

/-- The readers of expressions do not break down at a depth that is enough for the tokens, of which
an expression takes one at least. -/
structure Steady (s : Surroundings) (n : Nat) : Prop where
  term : ∀ {ts}, Worded ts → 4 * ts.length + 1 ≤ n → Below ts.length (term s n ts)
  expr : ∀ {ts}, Worded ts → 4 * ts.length + 2 ≤ n → Below ts.length (expr s n ts)
  filters : ∀ {ts x}, Worded ts → 4 * ts.length + 1 ≤ n → Below (ts.length + 1) (filters s n x ts)
  args : ∀ {ts}, Worded ts → 4 * ts.length + 2 ≤ n → Below ts.length (args s n ts)
  items : ∀ {ts}, Worded ts → 4 * ts.length + 3 ≤ n → Below (ts.length + 1) (items s n ts)
  entries : ∀ {ts}, Worded ts → 4 * ts.length + 3 ≤ n → Below (ts.length + 1) (entries s n ts)

namespace Steady

omit hs in
theorem zero : Steady s 0 := ⟨nofun, nofun, nofun, nofun, nofun, nofun⟩

theorem term_succ (h : Steady s n) (worded : Worded ts) (enough : 4 * ts.length + 1 ≤ n + 1) :
    Below ts.length (Parse.term s (n + 1) ts) := by
  unfold Parse.term
  refine below_bind_any hs fun t ts₁ eq => ?_
  subst eq
  have kept := worded.tail
  rw [List.length_cons] at enough ⊢
  dsimp only
  split
  · next kind =>
    refine .after (whole_keywordLiteral ((worded t List.mem_cons_self).keyword kind)) fun v _ => ?_
    exact .ok kept (Nat.lt_succ_self _)
  · exact (below_signed hs t true kept).mono (Nat.le_succ _)
  · exact (below_signed hs t false kept).mono (Nat.le_succ _)
  · exact .after (.lift _) fun v _ => .ok kept (Nat.lt_succ_self _)
  · next kind =>
    refine .after (whole_string ((worded t List.mem_cons_self).string kind)) fun text _ => ?_
    exact .ok kept (Nat.lt_succ_self _)
  · refine .bind (h.items kept (by omega)) fun xs ts₂ worded lt₂ => ?_
    dsimp only
    refine .bind (below_expect hs _ worded) fun close ts₃ worded lt₃ => ?_
    exact .ok worded (Nat.lt_of_lt_of_le lt₃ (Nat.le_of_lt_succ (Nat.lt_succ_of_lt lt₂)))
  · refine .bind (h.entries kept (by omega)) fun es ts₂ worded lt₂ => ?_
    dsimp only
    refine .bind (below_expect hs _ worded) fun close ts₃ worded lt₃ => ?_
    exact .ok worded (Nat.lt_of_lt_of_le lt₃ (Nat.le_of_lt_succ (Nat.lt_succ_of_lt lt₂)))
  · refine .bind (below_path hs kept (Nat.lt_succ_self _)) fun ms ts₂ worded lt₂ => ?_
    exact .ok worded lt₂
  · exact .fault _ _

theorem filters_succ (h : Steady s n) {x : Expr} (worded : Worded ts)
    (enough : 4 * ts.length + 1 ≤ n + 1) :
    Below (ts.length + 1) (Parse.filters s (n + 1) x ts) := by
  unfold Parse.filters
  refine .after (whole_isNext hs .pipe) fun isPipe _ => ?_
  split
  · refine .bind (below_expect hs _ worded) fun pipe ts₁ worded lt₁ => ?_
    dsimp only
    refine .bind (below_ident hs worded) fun name ts₂ worded lt₂ => ?_
    dsimp only
    refine .after (whole_isNext hs .colon) fun isColon _ => ?_
    split
    · refine .bind (below_expect hs _ worded) fun colon ts₃ worded lt₃ => ?_
      dsimp only
      refine .bind_of_ok (h.args worded (by omega)) fun xs ts₄ worded lt₄ read => ?_
      dsimp only
      obtain ⟨place, spans⟩ := exists_argsSpan colon.span read
      rw [spans]
      exact (h.filters worded (by omega)).mono (by omega)
    · exact (h.filters worded (by omega)).mono (by omega)
  · exact .ok worded (Nat.lt_succ_self _)

theorem args_succ (h : Steady s n) (worded : Worded ts) (enough : 4 * ts.length + 2 ≤ n + 1) :
    Below ts.length (Parse.args s (n + 1) ts) := by
  unfold Parse.args
  refine .bind (h.term worded (by omega)) fun x ts₁ worded lt₁ => ?_
  dsimp only
  refine .after (whole_isNext hs .comma) fun isComma _ => ?_
  split
  · refine .bind (below_expect hs _ worded) fun comma ts₂ worded lt₂ => ?_
    dsimp only
    refine .bind (h.args worded (by omega)) fun xs ts₃ worded lt₃ => ?_
    dsimp only
    exact .ok worded (by omega)
  · exact .ok worded lt₁

theorem items_succ (h : Steady s n) (worded : Worded ts) (enough : 4 * ts.length + 3 ≤ n + 1) :
    Below (ts.length + 1) (Parse.items s (n + 1) ts) := by
  unfold Parse.items
  refine .after (whole_isNext hs .rightBracket) fun closes _ => ?_
  split
  · exact .ok worded (Nat.lt_succ_self _)
  · refine .bind (h.expr worded (by omega)) fun x ts₁ worded lt₁ => ?_
    dsimp only
    refine .after (whole_isNext hs .comma) fun isComma _ => ?_
    split
    · refine .bind (below_expect hs _ worded) fun comma ts₂ worded lt₂ => ?_
      dsimp only
      refine .bind (h.items worded (by omega)) fun xs ts₃ worded lt₃ => ?_
      dsimp only
      exact .ok worded (by omega)
    · exact .ok worded (Nat.lt_succ_of_lt lt₁)

theorem entries_succ (h : Steady s n) (worded : Worded ts) (enough : 4 * ts.length + 3 ≤ n + 1) :
    Below (ts.length + 1) (Parse.entries s (n + 1) ts) := by
  unfold Parse.entries
  refine .after (whole_isNext hs .rightBrace) fun closes _ => ?_
  split
  · exact .ok worded (Nat.lt_succ_self _)
  · refine .bind (below_mapKey hs worded) fun key ts₁ worded lt₁ => ?_
    dsimp only
    refine .bind (below_expect hs _ worded) fun colon ts₂ worded lt₂ => ?_
    dsimp only
    refine .bind (h.expr worded (by omega)) fun x ts₃ worded lt₃ => ?_
    dsimp only
    refine .after (whole_isNext hs .comma) fun isComma _ => ?_
    split
    · refine .bind (below_expect hs _ worded) fun comma ts₄ worded lt₄ => ?_
      dsimp only
      refine .bind (h.entries worded (by omega)) fun es ts₅ worded lt₅ => ?_
      dsimp only
      exact .ok worded (by omega)
    · exact .ok worded (by omega)

theorem succ (h : Steady s n) : Steady s (n + 1) where
  term := h.term_succ hs
  expr worded enough := by
    refine .bind (h.term worded (by omega)) fun x ts₁ worded lt₁ => ?_
    dsimp only
    exact (h.filters worded (by omega)).mono lt₁
  filters := h.filters_succ hs
  args := h.args_succ hs
  items := h.items_succ hs
  entries := h.entries_succ hs

end Steady

theorem steady : ∀ n, Steady s n
  | 0 => .zero
  | n + 1 => (steady n).succ hs

theorem below_expression (worded : Worded ts) : Below ts.length (expression s ts) :=
  (steady hs _).expr worded (by rw [bound]; omega)

/-! ## Block tags -/

theorem below_condition (worded : Worded ts) : Below ts.length (condition s ts) := by
  refine .after (whole_isNextKeyword hs .not) fun negated _ => ?_
  split
  · refine .bind (below_expectKeyword hs .not worded) fun _ ts₁ worded lt₁ => ?_
    dsimp only
    refine .bind (below_expression hs worded) fun x ts₂ worded lt₂ => ?_
    exact .ok worded (Nat.lt_trans lt₂ lt₁)
  · exact .bind (below_expression hs worded) fun x ts₁ worded lt => .ok worded lt

theorem below_loopVars (worded : Worded ts) : Below ts.length (loopVars s ts) := by
  refine .bind (below_ident hs worded) fun key ts₁ worded lt₁ => ?_
  dsimp only
  refine .after (whole_isNext hs .comma) fun isComma _ => ?_
  split
  · refine .bind (below_expect hs _ worded) fun comma ts₂ worded lt₂ => ?_
    dsimp only
    refine .bind (below_ident hs worded) fun value ts₃ worded lt₃ => ?_
    exact .ok worded (Nat.lt_trans lt₃ (Nat.lt_trans lt₂ lt₁))
  · exact .ok worded lt₁

/-- A block tag takes its keyword at least. -/
theorem below_blockTag (worded : Worded ts) : Below ts.length (blockTag s ts) := by
  refine .bind (below_keyword hs worded) fun k ts₁ worded lt₁ => ?_
  obtain ⟨k, span⟩ := k
  dsimp only
  split
  · refine .bind (below_condition hs worded) fun c ts₂ worded lt₂ => ?_
    exact .ok worded (Nat.lt_trans lt₂ lt₁)
  · refine .after (whole_isNextKeyword hs .if) fun isIf _ => ?_
    split
    · refine .bind (below_expectKeyword hs .if worded) fun _ ts₂ worded lt₂ => ?_
      dsimp only
      refine .bind (below_condition hs worded) fun c ts₃ worded lt₃ => ?_
      exact .ok worded (Nat.lt_trans lt₃ (Nat.lt_trans lt₂ lt₁))
    · exact .ok worded lt₁
  · exact .ok worded lt₁
  · refine .bind (below_loopVars hs worded) fun vars ts₂ worded lt₂ => ?_
    dsimp only
    refine .bind (below_expectKeyword hs .in worded) fun _ ts₃ worded lt₃ => ?_
    dsimp only
    refine .bind (below_expression hs worded) fun x ts₄ worded lt₄ => ?_
    exact .ok worded (Nat.lt_trans lt₄ (Nat.lt_trans lt₃ (Nat.lt_trans lt₂ lt₁)))
  · exact .ok worded lt₁
  · refine .bind_of_ok (below_expect hs .string worded) fun t ts₂ left lt₂ read => ?_
    dsimp only
    obtain ⟨rfl, kind⟩ := expect_eq_ok read
    refine .after (whole_string ((worded t List.mem_cons_self).string kind)) fun name _ =>
      .after (whole_isNextKeyword hs .with) fun isWith _ => ?_
    split
    · refine .bind (below_expectKeyword hs .with left) fun _ ts₃ worded lt₃ => ?_
      dsimp only
      refine .bind (below_expression hs worded) fun x ts₄ worded lt₄ => ?_
      exact .ok worded (Nat.lt_trans lt₄ (Nat.lt_trans lt₃ (Nat.lt_trans lt₂ lt₁)))
    · exact .ok left (Nat.lt_trans lt₂ lt₁)
  · exact .fault _ _

/-! ## Arguments -/

theorem whole_callArgsFrom (worded : Worded ts) (enough : ts.length < n) :
    Whole (callArgsFrom s n ts) := by
  induction n generalizing ts with
  | zero => cases enough
  | succ n ih =>
    unfold callArgsFrom
    refine (below_expression hs worded).whole_bind fun x ts₁ worded lt => ?_
    dsimp only
    refine .bind (whole_next hs) fun next first => ?_
    cases next with
    | none => exact .ok _
    | some taken =>
      obtain rfl := next?_eq_some first
      rw [List.length_cons] at lt
      dsimp only
      split
      · exact .bind (ih worded.tail (by omega)) fun xs _ => .ok _
      · exact .fault _ _

/-- A list of arguments does not break down. -/
theorem whole_callArgs (worded : Worded ts) : Whole (callArgs s ts) := by
  refine .bind (whole_next hs) fun next first => ?_
  cases next with
  | none => exact .ok _
  | some taken => exact whole_callArgsFrom hs worded (Nat.lt_succ_self _)

theorem whole_assignArgsFrom (worded : Worded ts) (enough : ts.length < n) :
    Whole (assignArgsFrom s n ts) := by
  induction n generalizing ts with
  | zero => cases enough
  | succ n ih =>
    unfold assignArgsFrom
    refine (below_ident hs worded).whole_bind fun name ts₁ worded lt₁ => ?_
    dsimp only
    refine (below_expect hs _ worded).whole_bind fun sign ts₂ worded lt₂ => ?_
    dsimp only
    refine (below_expression hs worded).whole_bind fun x ts₃ worded lt₃ => ?_
    dsimp only
    refine .bind (whole_next hs) fun next first => ?_
    cases next with
    | none => exact .ok _
    | some taken =>
      obtain rfl := next?_eq_some first
      rw [List.length_cons] at lt₃
      dsimp only
      split
      · exact .bind (ih worded.tail (by omega)) fun bs _ => .ok _
      · exact .fault _ _

/-- Nor does a list of bindings. -/
theorem whole_assignArgs (worded : Worded ts) : Whole (assignArgs s ts) :=
  whole_assignArgsFrom hs worded (Nat.lt_succ_self _)

end

end Stencil.Parse
