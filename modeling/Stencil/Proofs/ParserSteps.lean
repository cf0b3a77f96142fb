import Stencil.Proofs.Consumption

/-!
# The steps of the parser

What the parser of templates does to its builder with the text or the tag at the start of the
tokens. Invariants of the builder are read off these steps.

- `Parse.Applied`, `Parse.applied_of_applyDirective`: what a directive tag does.
- `Parse.Stated`, `Parse.stated_of_statement`: what a text or a tag does, and what is left.
-/

namespace Stencil.Parse

variable {r : Reader} {s : Surroundings} {b b' : Builder} {name : Ident} {raw span : Span}

/-! ## Block tags -/

/-- Where a block tag has its place, the builder goes on with the next state. -/
theorem placed_eq_ok {tag : String} {next : Option Builder}
    (h : placed s tag span next = .ok b') : next = some b' := by
  cases next with
  | none => cases h
  | some _ =>
    cases h
    rfl

/-! ## Directive tags -/

/-- What a directive tag does to a builder. -/
inductive Applied (r : Reader) (b : Builder) (name : Ident) (raw span : Span) : Builder → Prop
  /-- It is the end of the innermost block. -/
  | closed {start d : Directive} {stop : Compile} {before : List Stmt} {rest : List OpenBlock}
      {o : Occurrence} (blocks : b.blocks = .paired start stop before :: rest)
      (occurs : occurrence r raw = .ok o) (compiled : directive r stop name o span = .ok d) :
      Applied r b name raw span ⟨.block start b.current.reverse d :: before, rest⟩
  /-- It is the end of a cached block, which is the innermost one. -/
  | closedCached {start i : Invocation} {before : List Stmt} {rest : List OpenBlock}
      {o : Occurrence} (blocks : b.blocks = .cached start before :: rest)
      (occurs : occurrence r raw = .ok o) (invoked : invocation r name .bare o span = .ok i) :
      Applied r b name raw span ⟨.cached start b.current.reverse i :: before, rest⟩
  | single {compile : Compile} {d : Directive} {o : Occurrence}
      (found : Dict.get? name.name r.language.directives = some (.single compile))
      (occurs : occurrence r raw = .ok o) (compiled : directive r compile name o span = .ok d) :
      Applied r b name raw span (b.add (.directive d))
  | opened {start stop : Compile} {d : Directive} {o : Occurrence}
      (found : Dict.get? name.name r.language.directives = some (.paired start stop))
      (occurs : occurrence r raw = .ok o) (compiled : directive r start name o span = .ok d) :
      Applied r b name raw span ⟨[], .paired d stop b.current :: b.blocks⟩
  | openedCached {i : Invocation} {o : Occurrence}
      (found : Dict.get? name.name r.language.directives = some .cached)
      (occurs : occurrence r raw = .ok o) (invoked : invocation r name .call o span = .ok i) :
      Applied r b name raw span ⟨[], .cached i b.current :: b.blocks⟩

theorem applied_of_closeDirective {result : Except Failure Builder}
    (h : closeDirective? r b name raw span = some result) (ok : result = .ok b') :
    Applied r b name raw span b' := by
  unfold closeDirective? at h
  split at h
  · next start stop before rest blocks =>
    split at h
    · cases h
      obtain ⟨o, occurs, ok⟩ := bind_eq_ok ok
      obtain ⟨d, compiled, ok⟩ := bind_eq_ok ok
      cases ok
      exact .closed blocks occurs compiled
    · cases h
  · next start before rest blocks =>
    split at h
    · cases h
      obtain ⟨o, occurs, ok⟩ := bind_eq_ok ok
      obtain ⟨i, invoked, ok⟩ := bind_eq_ok ok
      cases ok
      exact .closedCached blocks occurs invoked
    · cases h
  · cases h

theorem applied_of_applyDirective (h : applyDirective r b name raw span = .ok b') :
    Applied r b name raw span b' := by
  unfold applyDirective at h
  split at h
  · next result closes => exact applied_of_closeDirective closes h
  split at h
  · next compile found =>
    obtain ⟨o, occurs, h⟩ := bind_eq_ok h
    obtain ⟨d, compiled, h⟩ := bind_eq_ok h
    cases h
    exact .single found occurs compiled
  · next start stop found =>
    obtain ⟨o, occurs, h⟩ := bind_eq_ok h
    obtain ⟨d, compiled, h⟩ := bind_eq_ok h
    cases h
    exact .opened found occurs compiled
  · next found =>
    obtain ⟨o, occurs, h⟩ := bind_eq_ok h
    obtain ⟨i, invoked, h⟩ := bind_eq_ok h
    cases h
    exact .openedCached found occurs invoked
  · split at h <;> cases h

/-- A directive has the place of its arguments. -/
theorem origin_occurrence {o : Occurrence} (h : occurrence r raw = .ok o) :
    Origin.at? r.identity r.source raw.start = some o.origin := by
  unfold occurrence at h
  split at h
  · next text origin _ place =>
    cases h
    exact place
  · cases h

theorem origin_invocation {mode : Mode} {o : Occurrence} {i : Invocation}
    (h : invocation r name mode o span = .ok i) : i.origin = o.origin := by
  obtain ⟨args, -, h⟩ := bind_eq_ok h
  cases h
  rfl

/-- A directive does what it was compiled to do. -/
theorem exists_fragment {compile : Compile} {o : Occurrence} {d : Directive}
    (h : directive r compile name o span = .ok d) :
    ∃ fragment, compile o = .ok fragment ∧ d.run = fragment.run := by
  unfold directive at h
  split at h
  · cases h
  · next fragment compiled =>
    obtain ⟨i, -, h⟩ := bind_eq_ok h
    cases h
    exact ⟨fragment, compiled, rfl⟩

/-! ## Statements -/

/-- What the text or the tag that begins with a token does to a builder, and the tokens that are
left of those behind it. -/
inductive Stated (r : Reader) (b : Builder) (t : Token) (ts : List Token) :
    Builder → List Token → Prop
  | raw : Stated r b t ts (b.add (.raw t.span)) ts
  | comment {ts' : List Token} (suffix : ts' <:+ ts) : Stated r b t ts b ts'
  | output {ts' : List Token} (x : Expr) (span : Span) (suffix : ts' <:+ ts) :
      Stated r b t ts (b.add (.output x span)) ts'
  | directive {ts₁ ts₂ : List Token} {name : Ident} {raw close span : Span} {b' : Builder}
      (named : ident r.toSurroundings ts = .ok (name, ts₁))
      (args : rawArgs r.toSurroundings (Span.point name.span.stop) ts₁ = .ok ((raw, close), ts₂))
      (applied : applyDirective r b name raw span = .ok b') : Stated r b t ts b' ts₂
  | tag {ts' : List Token} {span : Span} {tag : BlockTag} {b' : Builder} (suffix : ts' <:+ ts)
      (applied : applyTag r.toSurroundings b span tag = .ok b') : Stated r b t ts b' ts'

theorem suffix_of_expect {kind : TokenKind} {ts ts' : List Token} {t : Token}
    (h : expect s kind ts = .ok (t, ts')) : ts' <:+ ts := by
  obtain ⟨rfl, -⟩ := expect_eq_ok h
  exact List.suffix_cons t ts'

theorem stated_of_statement {t : Token} {ts ts' : List Token}
    (h : statement r b t ts = .ok (b', ts')) : Stated r b t ts b' ts' := by
  unfold statement at h
  split at h
  -- raw text
  · cases h
    exact .raw
  -- a comment, with or without text
  · obtain ⟨isRaw, -, h⟩ := bind_eq_ok h
    simp only at h
    split at h
    · obtain ⟨ts₁, text, h⟩ := bind_eq_ok h
      obtain ⟨⟨close, ts₂⟩, closed, h⟩ := bind_eq_ok h
      cases h
      obtain ⟨⟨text, ts₁⟩, taken, rfl⟩ := map_eq_ok text
      exact .comment ((suffix_of_expect closed).trans (suffix_of_expect taken))
    · obtain ⟨ts₁, ⟨⟩, h⟩ := bind_eq_ok h
      obtain ⟨⟨close, ts₂⟩, closed, h⟩ := bind_eq_ok h
      cases h
      exact .comment (suffix_of_expect closed)
  -- an expression
  · obtain ⟨⟨e, ts₁⟩, read, h⟩ := bind_eq_ok h
    obtain ⟨⟨close, ts₂⟩, closed, h⟩ := bind_eq_ok h
    cases h
    exact .output e _ ((suffix_of_expect closed).trans (leaves_expression.suffix read))
  -- a directive, or a tag of the language
  · obtain ⟨isName, -, h⟩ := bind_eq_ok h
    split at h
    · obtain ⟨⟨name, ts₁⟩, named, h⟩ := bind_eq_ok h
      obtain ⟨⟨⟨raw, close⟩, ts₂⟩, args, h⟩ := bind_eq_ok h
      obtain ⟨b₁, applied, h⟩ := bind_eq_ok h
      cases h
      exact .directive named args applied
    · obtain ⟨⟨tag, ts₁⟩, read, h⟩ := bind_eq_ok h
      obtain ⟨⟨close, ts₂⟩, closed, h⟩ := bind_eq_ok h
      obtain ⟨b₁, applied, h⟩ := bind_eq_ok h
      cases h
      exact .tag ((suffix_of_expect closed).trans (leaves_blockTag.suffix read)) applied
  · cases h

end Stencil.Parse
