import Stencil.Proofs.Completeness
import Stencil.Proofs.Consumption
import Stencil.Proofs.Lexemes

/-!
# Text and tags

What stands in a template, one text or tag after the other, is read without the open blocks; only
what it does depends on them. Between texts and tags the parser is where the lexer is between tags.

- `Parse.Markup`, `Parse.markup`: a text or a tag, as it is written.
- `Parse.statement_eq`: the parser reads a text or a tag, and then does what it says.
- `Parse.compile_of_markup`: a source that is one text or one tag.
- `Framed`: tokens that follow the tags.
- `framed_lex`: the tokens of a source do.
- `Parse.behind_markup`: they still do behind a text or a tag.
-/

namespace Stencil

/-! ## Texts and tags -/

namespace Parse

/-- A text or a tag, as it is written. -/
inductive Markup where
  | raw (span : Span)
  | comment
  | output (e : Expr) (span : Span)
  /-- A directive with the place of its arguments. -/
  | directive (name : Ident) (raw span : Span)
  | block (tag : BlockTag) (span : Span)

/-- The text or the tag that begins with a token. -/
def markup (s : Surroundings) (t : Token) (ts : List Token) : Except Failure (Taken Markup) := do
  match t.kind with
  | .raw => .ok (.raw t.span, ts)
  | .opening .comment =>
    let ts ←
      if ← isNext s .raw ts then (expect s .raw ts).map Prod.snd
      else .ok ts
    let (_, ts) ← expect s (.closing .comment) ts
    .ok (.comment, ts)
  | .opening .expression =>
    let (e, ts) ← expression s ts
    let (close, ts) ← expect s (.closing .expression) ts
    .ok (.output e (t.span.join close.span), ts)
  | .opening .block =>
    if ← isNext s .identifier ts then
      let (name, ts) ← ident s ts
      let ((raw, close), ts) ← rawArgs s (Span.point name.span.stop) ts
      .ok (.directive name raw (t.span.join close), ts)
    else
      let (tag, ts) ← blockTag s ts
      let (close, ts) ← expect s (.closing .block) ts
      .ok (.block tag (t.span.join close.span), ts)
  | _ => .error .broken

/-- What a text or a tag does to a builder. -/
def applyMarkup (r : Reader) (b : Builder) : Markup → Except Failure Builder
  | .raw span => .ok (b.add (.raw span))
  | .comment => .ok b
  | .output e span => .ok (b.add (.output e span))
  | .directive name raw span => applyDirective r b name raw span
  | .block tag span => applyTag r.toSurroundings b span tag

/-- The parser reads a text or a tag, and then does what it says. -/
theorem statement_eq (r : Reader) (b : Builder) (t : Token) (ts : List Token) :
    statement r b t ts =
      markup r.toSurroundings t ts >>= fun m => (applyMarkup r b m.1).map fun b' => (b', m.2) := by
  obtain ⟨kind, span, text⟩ := t
  cases kind with
  | raw => rfl
  | opening tag =>
    cases tag with
    | comment =>
      simp only [statement, markup, bind_assoc]
      refine bind_congr fun isRaw => ?_
      cases isRaw with
      | true =>
        simp only [if_true, bind_assoc]
        rfl
      | false =>
        simp only [Bool.false_eq_true, if_false, bind_assoc]
        rfl
    | expression =>
      simp only [statement, markup, bind_assoc]
      rfl
    | block =>
      -- the builder is changed last, so what it says is a map of the result
      have applied (m : Markup) (ts' : List Token) :
          (do let b' ← applyMarkup r b m; .ok (b', ts')) =
            (applyMarkup r b m).map fun b' => (b', ts') := by
        cases applyMarkup r b m <;> rfl
      simp only [statement, markup, bind_assoc]
      refine bind_congr fun isName => ?_
      cases isName with
      | true =>
        simp only [if_true, bind_assoc]
        exact bind_congr fun named => bind_congr fun args => applied (.directive ..) _
      | false =>
        simp only [Bool.false_eq_true, if_false, bind_assoc]
        exact bind_congr fun tag => bind_congr fun close => applied (.block ..) _
  | _ => rfl

/-- A source that is one text or one tag is compiled to what becomes of a builder that does what it
says. -/
theorem compile_of_markup {l : Language} {name : Option String} {source : String}
    {t : Token} {ts : List Token} {m : Markup} {b : Builder} {body : List Stmt}
    (tokens : (lex l.delimiters source).significant = t :: ts)
    (whole : (lex l.delimiters source).failure = none)
    (read : markup ⟨source, none⟩ t ts = .ok (m, []))
    (applied : applyMarkup ⟨⟨source, none⟩, l, Origin.identityOf name source⟩ .empty m = .ok b)
    (closed : finish ⟨source, none⟩ b = .ok body) :
    Template.compile l name source = .ok ⟨name, source, body⟩ := by
  let r : Reader := ⟨⟨source, none⟩, l, Origin.identityOf name source⟩
  have stated : statement r .empty t ts = .ok (b, []) := by
    rw [statement_eq, read, ok_bind, applied]
    rfl
  have parsed : template l name source = .ok body := by
    rw [template, tokens, whole]
    show statements r (ts.length + 1 + 1) .empty (t :: ts) = _
    rw [statements, next?, ok_bind]
    show (statement r .empty t ts >>= _) = _
    rw [stated, ok_bind]
    show statements r (ts.length + 1) b [] = _
    rw [statements]
    exact closed
  rw [Template.compile, parsed]

end Parse

/-! ## Tokens that follow the tags -/

/-- A token that stands inside a tag. -/
def TokenKind.isInner : TokenKind → Bool
  | .raw | .opening _ | .closing _ => false
  | _ => true

/-- Tokens that follow the tags, from inside a tag or between tags on: every tag that begins ends,
unless the tokens do, and there is no text inside of it, but for that of a comment. -/
inductive Framed : Option TagKind → List Token → Prop
  | nil {place : Option TagKind} : Framed place []
  | raw {t : Token} {ts : List Token} (kind : t.kind = .raw) (h : Framed none ts) :
      Framed none (t :: ts)
  | opening {t : Token} {ts : List Token} {tag : TagKind} (kind : t.kind = .opening tag)
      (h : Framed (some tag) ts) : Framed none (t :: ts)
  | closing {t : Token} {ts : List Token} {tag : TagKind} (kind : t.kind = .closing tag)
      (h : Framed none ts) : Framed (some tag) (t :: ts)
  | inner {t : Token} {ts : List Token} {tag : TagKind} (kind : t.kind.isInner)
      (h : Framed (some tag) ts) : Framed (some tag) (t :: ts)
  | comment {t : Token} {ts : List Token} (kind : t.kind = .raw)
      (h : Framed (some .comment) ts) : Framed (some .comment) (t :: ts)

namespace Framed

variable {place : Option TagKind} {tag tag' : TagKind} {t : Token} {ts us : List Token}

/-- Between tags stands a text or the start of a tag. -/
theorem kind_of_cons (h : Framed none (t :: ts)) :
    t.kind = .raw ∨ ∃ tag, t.kind = .opening tag := by
  cases h with
  | raw kind => exact .inl kind
  | opening kind => exact .inr ⟨_, kind⟩

theorem of_raw (h : Framed none (t :: ts)) (kind : t.kind = .raw) : Framed none ts := by
  cases h with
  | raw _ h => exact h
  | opening kind' => cases kind.symm.trans kind'

theorem of_opening (h : Framed none (t :: ts)) (kind : t.kind = .opening tag) :
    Framed (some tag) ts := by
  cases h with
  | raw kind' => cases kind.symm.trans kind'
  | opening kind' h =>
    cases kind.symm.trans kind'
    exact h

theorem of_closing (h : Framed (some tag) (t :: ts)) (kind : t.kind = .closing tag') :
    Framed none ts := by
  cases h with
  | closing _ h => exact h
  | inner inner => simp [kind, TokenKind.isInner] at inner
  | comment kind' => cases kind.symm.trans kind'

/-- Inside a tag, also behind some of its tokens. -/
theorem of_inner_append (h : Framed (some tag) (ts ++ us)) (inner : ∀ t ∈ ts, t.kind.isInner) :
    Framed (some tag) us := by
  induction ts with
  | nil => exact h
  | cons t ts ih =>
    obtain ⟨first, others⟩ := List.forall_mem_cons.1 inner
    refine ih ?_ others
    cases h with
    | closing kind => simp [kind, TokenKind.isInner] at first
    | inner _ h => exact h
    | comment kind => simp [kind, TokenKind.isInner] at first

/-- Blanks inside tags do not matter. -/
theorem filter (h : Framed place ts) : Framed place (ts.filter fun t => t.kind != .whitespace) := by
  induction h with
  | nil => exact .nil
  | raw kind _ ih =>
    rw [List.filter_cons_of_pos (by rw [kind]; rfl)]
    exact .raw kind ih
  | opening kind _ ih =>
    rw [List.filter_cons_of_pos (by rw [kind]; rfl)]
    exact .opening kind ih
  | closing kind _ ih =>
    rw [List.filter_cons_of_pos (by rw [kind]; rfl)]
    exact .closing kind ih
  | inner kind _ ih =>
    rw [List.filter_cons]
    split
    · exact .inner kind ih
    · exact ih
  | comment kind _ ih =>
    rw [List.filter_cons_of_pos (by rw [kind]; rfl)]
    exact .comment kind ih

end Framed

/-! ## The tokens of a source -/

namespace Lexer

/-- The tag that the lexer is in. -/
def Mode.place : Mode → Option TagKind
  | .text => none
  | .tag kind _ _ _ => some kind
  | .comment _ => some .comment

theorem place_inside (kind : TagKind) (opening : Span) :
    (Mode.inside kind opening).place = some kind := by
  cases kind <;> rfl

theorem isInner_of_lexeme {path : Bool} {cs word : List Char} {kind : TokenKind}
    (h : lexeme path cs = .ok (kind, word)) : kind.isInner := by
  cases firstToken_of_lexeme h with
  | mark mark =>
    have inner : ∀ m ∈ marks, m.2.isInner := by decide
    exact inner _ (mem_marks_of_single? mark)
  | @name c cs =>
    rcases nameKind_eq (c :: cs.takeWhile Text.isIdentifierPart) with name | name
    all_goals
      rw [name]
      rfl
  | _ => rfl

theorem kind_of_rawPart {source : String} {start stop : Nat} {trimsStart : Bool} {t : Token}
    (h : rawPart source start stop trimsStart = some t) : t.kind = .raw := by
  unfold rawPart at h
  split at h
  · obtain ⟨cs, -, h⟩ := Option.bind_eq_some_iff.1 h
    cases h
    rfl
  · cases h
    rfl

theorem kind_of_rawToken {source : String} {start stop : Nat} {trimsEnd trimsStart : Bool}
    {t : Token} (h : rawToken source start stop trimsEnd trimsStart = some t) : t.kind = .raw := by
  rcases rawPart_of_rawToken h with ⟨-, part⟩ | ⟨-, before, -, part⟩
  · exact kind_of_rawPart part
  · exact kind_of_rawPart part

variable {d : Delimiters} {source : String} {beyond : List Char}

/-- The tokens of a step stand before tokens that follow the tags from the next state on. -/
theorem framed_step {s next : Scan} {ts us : List Token}
    (h : step d source beyond s = .tokens ts next) (behind : Framed next.mode.place us) :
    Framed s.mode.place (ts ++ us) := by
  unfold step at h
  obtain ⟨mode, trimsNext, offset, rest⟩ := s
  cases mode with
  | text =>
    simp only [stepText] at h
    split at h
    · split at h
      · cases h
      · next t raw =>
        cases h
        exact .raw (kind_of_rawToken raw) behind
    · next before marker form rest' found =>
      split at h
      · split at h
        · cases h
          rw [place_inside] at behind
          exact .opening rfl behind
        split at h
        · cases h
        · next t raw =>
          cases h
          rw [place_inside] at behind
          exact .raw (kind_of_rawToken raw) (.opening rfl behind)
      · cases h
  | tag kind opening depth path =>
    rcases stepTag_eq_tokens h with ⟨t, rfl, closes, text⟩ | ⟨kind, word, read, rfl, rfl⟩
    · rw [text] at behind
      exact .closing closes behind
    · exact .inner (isInner_of_lexeme read) behind
  | comment opening =>
    simp only [stepComment] at h
    split at h
    · cases h
      exact .comment rfl behind
    · split at h
      · cases h
      split at h
      · split at h
        · cases h
          exact .closing rfl behind
        · cases h
          exact .comment rfl (.closing rfl behind)
      · cases h

theorem framed_run (n : Nat) (s : Scan) :
    Framed s.mode.place (run d source beyond n s).tokens := by
  induction n generalizing s with
  | zero => exact .nil
  | succ n ih =>
    rw [run]
    split
    · exact .nil
    split
    · exact .nil
    · next ts next' stepped => exact framed_step stepped (ih next')

end Lexer

/-- The tokens of a source follow its tags. -/
theorem framed_lex (d : Delimiters) (source : String) : Framed none (lex d source).significant :=
  (Lexer.framed_run (source.toList.length + 1) ⟨.text, false, 0, source.toList⟩).filter

namespace Parse

variable {s : Surroundings} {t : Token} {ts ts' : List Token}

/-- Some of the tokens follow the tags from between tags on, and nothing is behind them but what was
there before. -/
structure Behind (ts ts' : List Token) : Prop where
  framed : Framed none ts'
  suffix : ts' <:+ ts

theorem behind_rawArgs {raw : Span} {args : Span × Span} (h : rawArgs s raw ts = .ok (args, ts'))
    (framed : Framed (some .block) ts) : Behind ts ts' := by
  induction ts generalizing raw with
  | nil =>
    rw [rawArgs] at h
    split at h
    · cases h
    · cases h
  | cons t ts ih =>
    rw [rawArgs] at h
    split at h
    · next closes =>
      cases h
      exact ⟨framed.of_closing closes, List.suffix_cons t ts'⟩
    · next goesOn =>
      have inside : Framed (some .block) ts := by
        cases framed with
        | closing kind => exact absurd kind goesOn
        | inner _ inside => exact inside
      have behind := ih h inside
      exact ⟨behind.framed, behind.suffix.trans (List.suffix_cons t ts)⟩

theorem isInner_of_settled {taken : List Token} (h : Settled (taken.map Token.kind)) :
    ∀ t ∈ taken, t.kind.isInner := by
  intro t ht
  obtain ⟨raw, -, tags⟩ := h.inner t.kind (List.mem_map_of_mem ht)
  unfold TokenKind.isInner
  split
  · next kind => exact absurd kind raw
  · next tag kind => exact absurd kind (tags tag).1
  · next tag kind => exact absurd kind (tags tag).2
  · rfl

/-- Behind the end of a tag, the inside of which has been read. -/
theorem behind_closed {tag kind : TagKind} {ts₁ : List Token} {close : Token}
    (framed : Framed (some tag) ts)
    (leaves : ∃ taken, ts = taken ++ ts₁ ∧ Settled (taken.map Token.kind))
    (closes : expect s (.closing kind) ts₁ = .ok (close, ts')) : Behind ts ts' := by
  obtain ⟨taken, rfl, settled⟩ := leaves
  obtain ⟨rfl, closing⟩ := expect_eq_ok closes
  exact ⟨(framed.of_inner_append (isInner_of_settled settled)).of_closing closing,
    (List.suffix_cons close ts').trans (List.suffix_append taken _)⟩

/-- Behind a text or a tag the tokens still follow the tags. -/
theorem behind_markup {m : Markup} (framed : Framed none (t :: ts))
    (h : markup s t ts = .ok (m, ts')) : Behind ts ts' := by
  obtain ⟨kind, span, text⟩ := t
  cases kind with
  | raw =>
    cases h
    exact ⟨framed.of_raw rfl, List.suffix_refl _⟩
  | opening tag =>
    have inside : Framed (some tag) ts := framed.of_opening rfl
    cases tag with
    | comment =>
      obtain ⟨isRaw, -, h⟩ := bind_eq_ok h
      cases isRaw with
      | false =>
        obtain ⟨_, ⟨⟩, h⟩ := bind_eq_ok h
        obtain ⟨⟨close, ts₁⟩, closes, h⟩ := bind_eq_ok h
        cases h
        exact behind_closed inside ⟨[], rfl, .nil⟩ closes
      | true =>
        obtain ⟨ts₁, read, h⟩ := bind_eq_ok h
        obtain ⟨⟨close, ts₂⟩, closes, h⟩ := bind_eq_ok h
        cases h
        obtain ⟨⟨text, ts₁⟩, taken, rfl⟩ := map_eq_ok read
        obtain ⟨rfl, kind⟩ := expect_eq_ok taken
        have comment : Framed (some .comment) ts₁ := by
          cases inside with
          | closing kind' => cases kind.symm.trans kind'
          | inner inner => simp [kind, TokenKind.isInner] at inner
          | comment _ inside => exact inside
        have behind : Behind ts₁ ts' := behind_closed comment ⟨[], rfl, .nil⟩ closes
        exact ⟨behind.framed, behind.suffix.trans (List.suffix_cons text ts₁)⟩
    | expression =>
      obtain ⟨⟨e, ts₁⟩, read, h⟩ := bind_eq_ok h
      obtain ⟨⟨close, ts₂⟩, closes, h⟩ := bind_eq_ok h
      cases h
      exact behind_closed inside (leaves_expression _ _ read) closes
    | block =>
      obtain ⟨isName, -, h⟩ := bind_eq_ok h
      cases isName with
      | true =>
        obtain ⟨⟨name, ts₁⟩, named, h⟩ := bind_eq_ok h
        obtain ⟨⟨⟨raw, close⟩, ts₂⟩, args, h⟩ := bind_eq_ok h
        cases h
        obtain ⟨taken, rfl, settled⟩ := leaves_ident _ _ named
        have behind : Behind ts₁ ts' :=
          behind_rawArgs args (inside.of_inner_append (isInner_of_settled settled))
        exact ⟨behind.framed, behind.suffix.trans (List.suffix_append taken ts₁)⟩
      | false =>
        obtain ⟨⟨tag, ts₁⟩, read, h⟩ := bind_eq_ok h
        obtain ⟨⟨close, ts₂⟩, closes, h⟩ := bind_eq_ok h
        cases h
        exact behind_closed inside (leaves_blockTag _ _ read) closes
  | _ => cases h

end Parse

end Stencil
