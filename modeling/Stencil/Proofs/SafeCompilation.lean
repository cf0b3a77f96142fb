import Stencil.Proofs.Layout
import Stencil.Proofs.Nesting
import Stencil.Proofs.Steady

/-!
# Compiling does not break down

Where no tag takes more blanks than there are, every source is compiled to a template or there is an
error: no branch of the lexer, of the parser or of the compiler is taken that has no result. The
texts of a program are those between the tags, so each of them can be cut out of the source.

- `Parse.Readable`: tokens that stand in a source.
- `Parse.whole_markup`, `Parse.whole_applyMarkup`: what a text or a tag is, and what it does.
- `Parse.whole_statements`: the statements of some tokens.
- `Stmt.shown`, `Stmt.shown_of_layoutAll`: statements have the texts and loops of their program.
- `Parse.shown_applyMarkup`, `Parse.shown_of_statements`: each of them has been read by itself.
- `Template.compile_safe`: sources are compiled to templates, or there is an error.
-/

namespace Stencil

/-! ## Regions of a source -/

namespace Span.Fits

variable {source : String} {span : Span}

/-- There is a place for the start of a region. -/
theorem origin (h : span.Fits source) (identity : String) :
    (Origin.at? identity source span.start).isSome := by
  obtain ⟨before, after, eq, start⟩ := h.start
  rw [Origin.at?, eq, ← start, Text.takeBytes_append]
  rfl

/-- A region can be split into tokens. -/
theorem lexRegion (h : span.Fits source) (d : Delimiters) :
    (Stencil.lexRegion d source span).isSome := by
  obtain ⟨cs, cut⟩ : ∃ cs, Text.sliceChars span source.toList = some cs := by
    obtain ⟨text, sliced⟩ := Option.isSome_iff_exists.1 h.slice
    obtain ⟨cs, cut, -⟩ := Option.map_eq_some_iff.1 sliced
    exact ⟨cs, cut⟩
  obtain ⟨before, after, eq, stop⟩ := h.stop
  have behind : Text.dropBytes span.stop source.toList = some after := by
    rw [eq, ← stop, Text.dropBytes_append]
  rw [Stencil.lexRegion, cut, behind]
  rfl

theorem point (h : span.Fits source) : (Span.point span.stop).Fits source :=
  ⟨h.stop, h.stop, Nat.le_refl _⟩

end Span.Fits

/-- Tokens that can be read: all of them have spans in a source and texts of their kinds. -/
structure Parse.Readable (source : String) (ts : List Token) : Prop where
  fits : ∀ t ∈ ts, t.span.Fits source
  worded : Parse.Worded ts

/-- Where no tag takes too many blanks, tokens can be read. -/
theorem Lexer.Legible.readable {d : Delimiters} {source : String} {l : Lexed}
    (h : Lexer.Legible d source l.tokens) (free : ¬ d.Pinches source) :
    Parse.Readable source l.significant where
  fits t mem := ((h t (List.mem_filter.1 mem).1).reads fun _ => free).fits
  worded t mem := (h t (List.mem_filter.1 mem).1).worded

namespace Parse

variable {r : Reader} {s : Surroundings} {b b' : Builder} {name : Ident} {raw span : Span}
  {o : Occurrence} {mode : Mode} {source : String} {t : Token} {ts ts' : List Token}

theorem Readable.of_suffix (h : Readable source ts) (suffix : ts' <:+ ts) : Readable source ts' :=
  ⟨fun t mem => h.fits t (suffix.mem mem), fun t mem => h.worded t (suffix.mem mem)⟩

theorem Readable.tail (h : Readable source (t :: ts)) : Readable source ts :=
  h.of_suffix (List.suffix_cons t ts)

/-! ## Directives -/

theorem whole_occurrence (fits : raw.Fits r.source) : Whole (occurrence r raw) := by
  obtain ⟨text, cut⟩ := Option.isSome_iff_exists.1 fits.slice
  obtain ⟨origin, place⟩ := Option.isSome_iff_exists.1 (fits.origin r.identity)
  rw [occurrence, cut, place]
  exact .ok _

theorem span_of_occurrence (h : occurrence r raw = .ok o) : o.span = raw := by
  unfold occurrence at h
  split at h
  · cases h
    rfl
  · cases h

section

variable (free : ¬ r.language.delimiters.Pinches r.source)
include free

/-- The tokens of the arguments are those of a region of the source. -/
theorem whole_directiveArgs (fits : o.span.Fits r.source) :
    Whole (directiveArgs r name mode o) := by
  obtain ⟨l, region⟩ := Option.isSome_iff_exists.1 (fits.lexRegion r.language.delimiters)
  obtain ⟨legible, breaks⟩ := legible_of_lexRegion region
  have worded : Worded l.significant := (legible.readable free).worded
  have hs : l.failure ≠ some .broken := fun broken => free (breaks broken)
  cases mode with
  | bare =>
    rw [directiveArgs]
    split
    · exact .ok _
    · exact .fault _ _
  | call =>
    simp only [directiveArgs, region]
    exact (whole_callArgs hs worded).map _
  | assign =>
    simp only [directiveArgs, region]
    exact (whole_assignArgs hs worded).map _

theorem whole_invocation (fits : o.span.Fits r.source) : Whole (invocation r name mode o span) :=
  .bind (whole_directiveArgs free fits) fun _ _ => .ok _

theorem whole_directive (fits : o.span.Fits r.source) (compile : Compile) :
    Whole (directive r compile name o span) := by
  unfold directive
  split
  · exact nofun
  · exact .bind (whole_invocation free fits) fun _ _ => .ok _

/-- Something that is done with a directive in its place. -/
theorem whole_compiled (fits : raw.Fits r.source) (compile : Compile) (f : Directive → Builder) :
    Whole (do
      let o ← occurrence r raw
      let d ← directive r compile name o span
      .ok (f d)) := by
  refine .bind (whole_occurrence fits) fun o occurs => ?_
  have inside : o.span.Fits r.source := span_of_occurrence occurs ▸ fits
  exact .bind (whole_directive free inside compile) fun d _ => .ok _

/-- Something that is done with an invocation in its place. -/
theorem whole_invoked (fits : raw.Fits r.source) (mode : Mode) (f : Invocation → Builder) :
    Whole (do
      let o ← occurrence r raw
      let i ← invocation r name mode o span
      .ok (f i)) := by
  refine .bind (whole_occurrence fits) fun o occurs => ?_
  have inside : o.span.Fits r.source := span_of_occurrence occurs ▸ fits
  exact .bind (whole_invocation free inside) fun i _ => .ok _

theorem whole_closeDirective (fits : raw.Fits r.source) {result : Except Failure Builder}
    (h : closeDirective? r b name raw span = some result) : Whole result := by
  unfold closeDirective? at h
  split at h
  · split at h
    · cases h
      exact whole_compiled free fits _ _
    · cases h
  · split at h
    · cases h
      exact whole_invoked free fits _ _
    · cases h
  · cases h

/-- A directive tag does not break down. -/
theorem whole_applyDirective (fits : raw.Fits r.source) :
    Whole (applyDirective r b name raw span) := by
  unfold applyDirective
  split
  · next result closes => exact whole_closeDirective free fits closes
  split
  · exact whole_compiled free fits _ _
  · exact whole_compiled free fits _ _
  · exact whole_invoked free fits _ _
  · split
    · exact .fault _ _
    · exact .fault _ _

end

/-! ## Texts and tags -/

/-- The arguments of a directive have a place in a source. -/
def Markup.Fits (source : String) : Markup → Prop
  | .directive _ raw _ => raw.Fits source
  | _ => True

theorem whole_rawArgs (hs : s.failure ≠ some .broken) : Whole (rawArgs s raw ts) := by
  induction ts generalizing raw with
  | nil =>
    unfold rawArgs
    split
    · next f failed =>
      rintro ⟨⟩
      exact hs failed
    · exact .fault _ _
  | cons t ts ih =>
    unfold rawArgs
    split
    · exact .ok _
    · exact ih

/-- The arguments of a directive are the smallest region that holds their tokens. -/
theorem fits_of_rawArgs {args : Span × Span} (fits : ∀ t ∈ ts, t.span.Fits source)
    (hraw : raw.Fits source) (h : rawArgs s raw ts = .ok (args, ts')) : args.1.Fits source := by
  induction ts generalizing raw with
  | nil =>
    unfold rawArgs at h
    split at h
    · cases h
    · cases h
  | cons t ts ih =>
    obtain ⟨first, others⟩ := List.forall_mem_cons.1 fits
    unfold rawArgs at h
    split at h
    · cases h
      exact hraw
    · refine ih others ?_ h
      split
      · exact first
      · exact hraw.join first

theorem whole_markup (hs : s.failure ≠ some .broken) (worded : Worded ts)
    (begins : t.kind = .raw ∨ ∃ tag, t.kind = .opening tag) : Whole (markup s t ts) := by
  obtain ⟨kind, span, text⟩ := t
  rcases begins with rfl | ⟨tag, rfl⟩
  · exact .ok _
  cases tag with
  | comment =>
    refine .bind (whole_isNext hs .raw) fun isRaw _ => ?_
    cases isRaw with
    | false => exact (below_expect hs _ worded).whole_bind fun close ts₁ _ _ => .ok _
    | true =>
      refine .bind ((below_expect hs .raw worded).whole.map _) fun ts₁ read => ?_
      obtain ⟨⟨text, ts₁⟩, taken, rfl⟩ := map_eq_ok read
      obtain ⟨rfl, -⟩ := expect_eq_ok taken
      exact (below_expect hs _ worded.tail).whole_bind fun close ts₂ _ _ => .ok _
  | expression =>
    refine (below_expression hs worded).whole_bind fun x ts₁ worded _ => ?_
    exact (below_expect hs _ worded).whole_bind fun close ts₂ _ _ => .ok _
  | block =>
    refine .bind (whole_isNext hs .identifier) fun isName _ => ?_
    cases isName with
    | false =>
      refine (below_blockTag hs worded).whole_bind fun tag ts₁ worded _ => ?_
      exact (below_expect hs _ worded).whole_bind fun close ts₂ _ _ => .ok _
    | true =>
      refine (below_ident hs worded).whole_bind fun name ts₁ _ _ => ?_
      exact .bind (whole_rawArgs hs) fun args _ => .ok _

theorem fits_of_ident (fits : ∀ t ∈ ts, t.span.Fits source) (h : ident s ts = .ok (name, ts')) :
    name.span.Fits source ∧ ∀ t ∈ ts', t.span.Fits source := by
  obtain ⟨⟨t, rest⟩, taken, read⟩ := bind_eq_ok h
  obtain ⟨rfl, -⟩ := expect_eq_ok taken
  cases read
  exact List.forall_mem_cons.1 fits

/-- What a text or a tag has been read from. -/
inductive Marked (s : Surroundings) (t : Token) (ts : List Token) : Markup → Prop
  | raw (kind : t.kind = .raw) : Marked s t ts (.raw t.span)
  | comment : Marked s t ts .comment
  | output (e : Expr) (span : Span) : Marked s t ts (.output e span)
  | directive {name : Ident} {raw close : Span} {ts₁ ts₂ : List Token} (span : Span)
      (named : ident s ts = .ok (name, ts₁))
      (args : rawArgs s (Span.point name.span.stop) ts₁ = .ok ((raw, close), ts₂)) :
      Marked s t ts (.directive name raw span)
  | block {tag : BlockTag} {ts₁ : List Token} (span : Span)
      (read : blockTag s ts = .ok (tag, ts₁)) : Marked s t ts (.block tag span)

theorem marked_of_markup {m : Markup} (h : markup s t ts = .ok (m, ts')) : Marked s t ts m := by
  obtain ⟨kind, whole, text⟩ := t
  cases kind with
  | raw =>
    cases h
    exact .raw rfl
  | opening tag =>
    cases tag with
    | comment =>
      obtain ⟨isRaw, -, h⟩ := bind_eq_ok h
      cases isRaw with
      | false =>
        obtain ⟨ts₁, -, h⟩ := bind_eq_ok h
        obtain ⟨close, -, h⟩ := bind_eq_ok h
        cases h
        exact .comment
      | true =>
        obtain ⟨ts₁, -, h⟩ := bind_eq_ok h
        obtain ⟨close, -, h⟩ := bind_eq_ok h
        cases h
        exact .comment
    | expression =>
      obtain ⟨x, -, h⟩ := bind_eq_ok h
      obtain ⟨close, -, h⟩ := bind_eq_ok h
      cases h
      exact .output _ _
    | block =>
      obtain ⟨isName, -, h⟩ := bind_eq_ok h
      cases isName with
      | false =>
        obtain ⟨tag, read, h⟩ := bind_eq_ok h
        obtain ⟨close, -, h⟩ := bind_eq_ok h
        cases h
        exact .block _ read
      | true =>
        obtain ⟨⟨name, ts₁⟩, named, h⟩ := bind_eq_ok h
        obtain ⟨⟨⟨raw, close⟩, ts₂⟩, args, h⟩ := bind_eq_ok h
        cases h
        exact .directive _ named args
  | _ => cases h

theorem fits_of_markup {m : Markup} (fits : ∀ t ∈ ts, t.span.Fits source)
    (h : markup s t ts = .ok (m, ts')) : m.Fits source := by
  cases marked_of_markup h with
  | directive span named args =>
    obtain ⟨first, others⟩ := fits_of_ident fits named
    exact fits_of_rawArgs others first.point args
  | _ => trivial

theorem whole_placed {tag : String} {next : Option Builder} : Whole (placed s tag span next) := by
  cases next with
  | none => exact .fault _ _
  | some b => exact .ok b

theorem whole_applyTag (tag : BlockTag) : Whole (applyTag s b span tag) := by
  cases tag with
  | ifTag negated cond => exact .ok _
  | elseTag => exact whole_placed
  | elseIfTag negated cond => exact whole_placed
  | endifTag => exact whole_placed
  | forTag vars iterable => exact .ok _
  | endforTag => exact whole_placed
  | includeTag name globals => exact .ok _

/-- What a text or a tag does to a builder does not break down. -/
theorem whole_applyMarkup {m : Markup} (free : ¬ r.language.delimiters.Pinches r.source)
    (fits : m.Fits r.source) : Whole (applyMarkup r b m) := by
  cases m with
  | raw span => exact .ok _
  | comment => exact .ok _
  | output e span => exact .ok _
  | directive name raw span => exact whole_applyDirective free fits
  | block tag span => exact whole_applyTag tag

theorem whole_finish : Whole (finish s b) := by
  unfold finish
  split
  · exact .ok _
  · exact .fault _ _

/-- The statements of some tokens do not break down, if the bound is enough for the tokens. -/
theorem whole_statements (free : ¬ r.language.delimiters.Pinches r.source)
    (hs : r.failure ≠ some .broken) {n : Nat} (framed : Framed none ts)
    (readable : Readable r.source ts) (bound : ts.length < n) : Whole (statements r n b ts) := by
  -- on the bound; behind a text or a tag are fewer tokens, which still follow the tags
  induction n generalizing b ts with
  | zero => cases bound
  | succ n ih =>
    unfold statements
    refine .bind (whole_next hs) fun next first => ?_
    cases next with
    | none => exact whole_finish
    | some taken =>
      obtain ⟨t, ts'⟩ := taken
      obtain rfl := next?_eq_some first
      dsimp only
      rw [statement_eq]
      have read : Whole (markup r.toSurroundings t ts') :=
        whole_markup hs readable.worded.tail framed.kind_of_cons
      refine .bind (.bind read fun m found => ?_) fun next stated => ?_
      · exact (whole_applyMarkup free (fits_of_markup readable.tail.fits found)).map _
      · obtain ⟨⟨m, rest⟩, found, stated⟩ := bind_eq_ok stated
        obtain ⟨b', -, rfl⟩ := map_eq_ok stated
        have behind : Behind ts' rest := behind_markup framed found
        refine ih behind.framed (readable.tail.of_suffix behind.suffix) ?_
        exact Nat.lt_of_le_of_lt behind.suffix.length_le (Nat.lt_of_succ_lt_succ bound)

end Parse

/-! ## Texts and loops -/

/-- What a program shows of a part: texts, and the loops that are begun. -/
def Part.shown? : Part → Option Part
  | .stmt (.raw span) => some (.stmt (.raw span))
  | .forTag vars iterable => some (.forTag vars iterable)
  | _ => none

/-- The text that an instruction writes, or the loop that it begins. -/
def Instr.shown? : Instr → Option Part
  | .raw span => some (.stmt (.raw span))
  | .loop vars iterable => some (.forTag vars iterable)
  | _ => none

/-- The text or the start of a loop that has been read. -/
def Parse.Markup.shown? : Parse.Markup → Option Part
  | .raw span => some (.stmt (.raw span))
  | .block tag _ => tag.part.shown?
  | _ => none

/-- The texts and loops of some statements. -/
def Stmt.shown (ss : List Stmt) : List Part := (flattenAll ss).filterMap Part.shown?

/-- The texts and loops of what has been read so far. -/
def Builder.shown (b : Builder) : List Part := b.parts.filterMap Part.shown?

namespace Stmt

mutual

/-- The texts and loops of the instructions of a statement are those of the statement. -/
theorem shown_of_layout : ∀ (s : Stmt) (start : Nat),
    (s.layout start).filterMap Instr.shown? = s.flatten.filterMap Part.shown?
  | .raw _, _ => rfl
  | .output x _, _ => by
    rw [layout]
    unfold Instr.output
    split
    · rfl
    · rfl
  | .include _ _, _ => rfl
  | .ifElse _ _ thenBody none, start => by
    simp only [layout, flatten, List.filterMap_cons, List.filterMap_append, Instr.shown?,
      Part.shown?, shown_of_layoutAll thenBody, List.filterMap_nil, List.append_nil]
  | .ifElse _ _ thenBody (some elseBody), start => by
    simp only [layout, flatten, List.filterMap_cons, List.filterMap_append, Instr.shown?,
      Part.shown?, shown_of_layoutAll thenBody, shown_of_layoutAll elseBody, List.filterMap_nil,
      List.append_nil]
  | .forLoop _ _ body, start => by
    simp only [layout, flatten, List.filterMap_cons, List.filterMap_append, Instr.shown?,
      Part.shown?, shown_of_layoutAll body, List.filterMap_nil]
  | .directive _, _ => rfl
  | .block _ body _, start => by
    simp only [layout, flatten, List.filterMap_cons, List.filterMap_append, Instr.shown?,
      Part.shown?, shown_of_layoutAll body, List.filterMap_nil]
  | .cached _ body _, start => by
    simp only [layout, flatten, List.filterMap_cons, List.filterMap_append, Instr.shown?,
      Part.shown?, shown_of_layoutAll body, List.filterMap_nil]

/-- The texts and loops of the instructions of some statements are those of the statements. -/
theorem shown_of_layoutAll : ∀ (ss : List Stmt) (start : Nat),
    (layoutAll start ss).filterMap Instr.shown? = (flattenAll ss).filterMap Part.shown?
  | [], _ => rfl
  | s :: ss, start => by
    rw [layoutAll, flattenAll, List.filterMap_append, List.filterMap_append, shown_of_layout s,
      shown_of_layoutAll ss]

end

end Stmt

namespace Builder

variable {b b' : Builder} {p : Part}

/-- A part behind what was there before. -/
theorem shown_of_parts (written : b'.parts = b.parts ++ [p]) :
    b'.shown = b.shown ++ p.shown?.toList := by
  rw [shown, written, List.filterMap_append, shown]
  cases found : p.shown? with
  | none => rw [List.filterMap_cons_none found, List.filterMap_nil, Option.toList_none]
  | some part => rw [List.filterMap_cons_some found, List.filterMap_nil, Option.toList_some]

/-- A part that is neither a text nor the start of a loop. -/
theorem shown_of_other (written : b'.parts = b.parts ++ [p]) (other : p.shown? = none) :
    b'.shown = b.shown := by
  rw [shown_of_parts written, other, Option.toList_none, List.append_nil]

theorem shown_add {stmt : Stmt} (flat : stmt.flatten = [.stmt stmt]) :
    (b.add stmt).shown = b.shown ++ (Part.stmt stmt).shown?.toList := by
  refine shown_of_parts ?_
  rw [add, parts_push, flat]

theorem shown_open {o : OpenBlock} (written : o.parts = flattenAll b.current.reverse ++ [p]) :
    (⟨[], o :: b.blocks⟩ : Builder).shown = b.shown ++ p.shown?.toList :=
  shown_of_parts (parts_open b.blocks written)

theorem shown_addElse (h : b.addElse = some b') : b'.shown = b.shown := by
  obtain ⟨current, blocks⟩ := b
  cases blocks with
  | nil => cases h
  | cons o blocks =>
    cases o with
    | thenBranch clause nested before =>
      cases h
      exact shown_of_other (parts_else clause nested current before blocks) rfl
    | _ => cases h

theorem shown_addElseIf {clause : Clause} (h : b.addElseIf clause = some b') :
    b'.shown = b.shown := by
  obtain ⟨current, blocks⟩ := b
  cases blocks with
  | nil => cases h
  | cons o blocks =>
    cases o with
    | thenBranch outer nested before =>
      cases h
      rw [← shown_of_other (parts_else outer nested current before blocks) rfl]
      exact shown_of_other (p := .ifTag clause.negated clause.cond) (parts_open _ rfl) rfl
    | _ => cases h

/-- A condition is closed, and with it the conditions for which it is an `else if`. -/
theorem shown_closeClauses {current : List Stmt} {blocks : List OpenBlock}
    (h : closeClauses current blocks = some b') :
    b'.shown = (⟨current, blocks⟩ : Builder).shown := by
  -- on the blocks; an `else if` is closed into the second branch of the condition below it
  induction blocks generalizing current with
  | nil => cases h
  | cons o blocks ih =>
    cases o with
    | thenBranch clause nested before =>
      rw [← shown_of_other (parts_closeThen clause nested current before blocks) rfl]
      rw [closeClauses] at h
      cases nested with
      | true => exact ih h
      | false =>
        cases h
        rfl
    | elseBranch clause nested thenBody before =>
      rw [← shown_of_other (parts_closeElse clause nested thenBody current before blocks) rfl]
      rw [closeClauses] at h
      cases nested with
      | true => exact ih h
      | false =>
        cases h
        rfl
    | _ => cases h

theorem shown_closeFor (h : b.closeFor = some b') : b'.shown = b.shown := by
  obtain ⟨current, blocks⟩ := b
  cases blocks with
  | nil => cases h
  | cons o blocks =>
    cases o with
    | loop vars iterable span before =>
      cases h
      exact shown_of_other (p := .endforTag)
        (parts_close (by simp [OpenBlock.parts, Stmt.flatten])) rfl
    | _ => cases h

end Builder

namespace Parse

variable {r : Reader} {s : Surroundings} {b b' : Builder} {name : Ident} {raw span : Span}
  {t : Token} {ts ts' : List Token}

theorem shown_applyTag {tag : BlockTag} (h : applyTag s b span tag = .ok b') :
    b'.shown = b.shown ++ tag.part.shown?.toList := by
  cases tag with
  | ifTag negated cond =>
    cases h
    exact Builder.shown_open (p := .ifTag negated cond) rfl
  | elseTag => exact (Builder.shown_addElse (placed_eq_ok h)).trans (List.append_nil _).symm
  | elseIfTag negated cond =>
    exact (Builder.shown_addElseIf (placed_eq_ok h)).trans (List.append_nil _).symm
  | endifTag => exact (Builder.shown_closeClauses (placed_eq_ok h)).trans (List.append_nil _).symm
  | forTag vars iterable =>
    cases h
    exact Builder.shown_open (p := .forTag vars iterable) rfl
  | endforTag => exact (Builder.shown_closeFor (placed_eq_ok h)).trans (List.append_nil _).symm
  | includeTag name globals =>
    cases h
    exact Builder.shown_add (by rw [Stmt.flatten])

theorem shown_applied (h : Applied r b name raw span b') : b'.shown = b.shown := by
  obtain ⟨current, blocks⟩ := b
  cases h with
  | @closed start d stop before rest o same =>
    cases same
    exact Builder.shown_of_other (p := .stop d)
      (Builder.parts_close (by simp [OpenBlock.parts, Stmt.flatten])) rfl
  | @closedCached start i before rest o same =>
    cases same
    exact Builder.shown_of_other (p := .stopCached i)
      (Builder.parts_close (by simp [OpenBlock.parts, Stmt.flatten])) rfl
  | @single compile d o =>
    exact (Builder.shown_add (by rw [Stmt.flatten])).trans (List.append_nil _)
  | @opened start stop d o =>
    exact (Builder.shown_open (p := .start d) rfl).trans (List.append_nil _)
  | @openedCached i o =>
    exact (Builder.shown_open (p := .startCached i) rfl).trans (List.append_nil _)

/-- What a text or a tag shows is added to what has been shown before. -/
theorem shown_applyMarkup {m : Markup} (h : applyMarkup r b m = .ok b') :
    b'.shown = b.shown ++ m.shown?.toList := by
  cases m with
  | raw span =>
    cases h
    exact Builder.shown_add (by rw [Stmt.flatten])
  | comment =>
    cases h
    exact (List.append_nil _).symm
  | output e span =>
    cases h
    exact Builder.shown_add (by rw [Stmt.flatten])
  | directive name raw span =>
    exact (shown_applied (applied_of_applyDirective h)).trans (List.append_nil _).symm
  | block tag span => exact shown_applyTag h

/-- A text between tags is a token. -/
theorem text_of_markup {m : Markup} (h : markup s t ts = .ok (m, ts')) {text : Span}
    (shown : m.shown? = some (.stmt (.raw text))) : t.kind = .raw ∧ t.span = text := by
  cases marked_of_markup h with
  | raw kind =>
    cases shown
    exact ⟨kind, rfl⟩
  | @block tag => cases tag <;> cases shown
  | _ => cases shown

/-- The texts and loops of the statements of some tokens have been read from these, or before. -/
theorem shown_of_statements {n : Nat} {body : List Stmt} (framed : Framed none ts)
    (h : statements r n b ts = .ok body) :
    ∀ part ∈ Stmt.shown body, part ∈ b.shown ∨ ∃ t us us' m, t :: us <:+ ts ∧
      markup r.toSurroundings t us = .ok (m, us') ∧ m.shown? = some part := by
  -- on the bound; what has been read before and what is left vary with the place
  induction n generalizing b ts with
  | zero => cases h
  | succ n ih =>
    obtain ⟨found, first, goesOn⟩ := bind_eq_ok h
    cases found with
    | none =>
      simp only [finish] at goesOn
      split at goesOn
      · next ends =>
        cases goesOn
        obtain ⟨current, blocks⟩ := b
        obtain rfl := List.getLast?_eq_none_iff.1 ends
        exact fun part mem => .inl mem
      · cases goesOn
    | some taken =>
      obtain ⟨t, ts'⟩ := taken
      obtain rfl := next?_eq_some first
      obtain ⟨⟨b₁, rest⟩, stated, goesOn⟩ : ∃ p, statement r b t ts' = .ok p ∧
          statements r n p.1 p.2 = .ok body := bind_eq_ok goesOn
      rw [statement_eq] at stated
      obtain ⟨⟨m, rest'⟩, found, stated⟩ := bind_eq_ok stated
      obtain ⟨b₂, applied, same⟩ := map_eq_ok stated
      cases same
      have behind : Behind ts' rest' := behind_markup framed found
      intro part mem
      rcases ih behind.framed goesOn part mem with before | ⟨u, us, us', m', suffix, read⟩
      · rw [shown_applyMarkup applied] at before
        rcases List.mem_append.1 before with before | added
        · exact .inl before
        · exact .inr ⟨t, ts', rest', m, List.suffix_refl _, found, Option.mem_toList.1 added⟩
      · refine .inr ⟨u, us, us', m', ?_, read⟩
        exact (suffix.trans behind.suffix).trans (List.suffix_cons t ts')

end Parse

/-! ## Templates -/

/-- The parser ends with the statements or with an error. -/
theorem Parse.whole_template {l : Language} {source : String} (name : Option String)
    (free : ¬ l.delimiters.Pinches source) : Whole (template l name source) := by
  obtain ⟨legible, breaks⟩ := legible_of_lex l.delimiters source
  exact whole_statements free (fun broken => free (breaks broken)) (framed_lex l.delimiters source)
    (legible.readable free) (Nat.lt_succ_self _)

/-- The texts that a template writes and the loops that it begins have been read from its source. -/
theorem Template.shown_of_compile {l : Language} {name : Option String} {source : String}
    {t : Template} (h : compile l name source = .ok t) {code : List Instr}
    (program : t.program? = some code) {i : Instr} (mem : i ∈ code) {part : Part}
    (shown : i.shown? = some part) :
    t.source = source ∧ ∃ u us us' m, u :: us <:+ (lex l.delimiters source).significant ∧
      Parse.markup ⟨source, (lex l.delimiters source).failure⟩ u us = .ok (m, us') ∧
      m.shown? = some part := by
  rw [Program.program?_eq] at program
  cases program
  have inBody : part ∈ Stmt.shown t.body := by
    rw [Stmt.shown, ← Stmt.shown_of_layoutAll t.body 0]
    exact List.mem_filterMap.2 ⟨i, mem, shown⟩
  unfold compile at h
  split at h
  · next body read =>
    cases h
    refine ⟨rfl, ?_⟩
    rcases Parse.shown_of_statements (framed_lex l.delimiters source) read part inBody with
      before | found
    · cases before
    · exact found
  · cases h

/-- Unless a tag takes more blanks than there are, nothing breaks down: every token stands in the
source, the parser with its two stacks ends with statements or with an error, and the source is
compiled to a program, each text of which can be cut out of the source, unless there is an error. -/
theorem Template.compile_safe (l : Language) (name : Option String) (source : String)
    (free : ¬ l.delimiters.Pinches source) :
    (∀ u ∈ (lex l.delimiters source).tokens, Text.slice u.span source = some u.text) ∧
      (∀ crash, Stacks.template l name source = .error crash → ∃ e, crash = .failed (.error e)) ∧
      ((∃ e, compile l name source = .error (.error e)) ∨
        ∃ t code, compile l name source = .ok t ∧ t.program? = some code ∧
          ∀ span, Instr.raw span ∈ code → (Text.slice span t.source).isSome) := by
  have reads : ∀ u ∈ (lex l.delimiters source).tokens, Text.slice u.span source = some u.text :=
    fun u mem => (((legible_of_lex l.delimiters source).1 u mem).reads fun _ => free).slice
  have whole : Parse.Whole (Parse.template l name source) := Parse.whole_template name free
  refine ⟨reads, fun crash crashed => ?_, ?_⟩
  · -- with two stacks the parser gives what the other one gives
    rw [Stacks.template_eq] at crashed
    cases read : Parse.template l name source with
    | ok body =>
      rw [read] at crashed
      cases crashed
    | error f =>
      rw [read] at crashed
      cases crashed
      cases f with
      | error e => exact ⟨e, rfl⟩
      | broken => exact absurd read whole
  · cases compiled : compile l name source with
    | error f =>
      left
      unfold compile at compiled
      split at compiled
      · cases compiled
      · next f' read =>
        cases compiled
        cases f' with
        | error e => exact ⟨_, rfl⟩
        | broken => exact absurd read whole
    | ok t =>
      right
      refine ⟨t, _, rfl, Program.program?_eq t, fun span mem => ?_⟩
      obtain ⟨same, u, us, us', m, suffix, read, shown⟩ :=
        shown_of_compile compiled (Program.program?_eq t) mem rfl
      obtain ⟨-, rfl⟩ := Parse.text_of_markup read shown
      have there : u ∈ (lex l.delimiters source).tokens :=
        (List.mem_filter.1 (suffix.mem List.mem_cons_self)).1
      rw [same]
      exact Option.isSome_iff_exists.2 ⟨u.text, reads u there⟩

/-- Delimiters of expressions of which the closing one ends in a blank. -/
def Delimiters.loose : Delimiters where
  expression := standard.expression.map fun p =>
    { p with
      closing := p.closing ++ [' ']
      closing_ne_nil := List.append_ne_nil_of_right_ne_nil _ (List.cons_ne_nil _ _) }
  block := none
  comment := none

/-- A closing delimiter may end in a blank, as long as no tag trims the text behind it. -/
theorem Template.compile_safe_loose :
    let l : Language := ⟨.loose, []⟩
    let source := "\x7b\x7b a \x7d\x7d b"
    ¬ Delimiters.loose.ClosesFirmly ∧ ¬ l.delimiters.Pinches source ∧
      ∃ t code, compile l none source = .ok t ∧ t.program? = some code ∧
        Instr.raw ⟨8, 9⟩ ∈ code ∧ (Text.slice ⟨8, 9⟩ t.source).isSome := by
  intro l source
  have loose : ¬ Delimiters.loose.ClosesFirmly := by
    intro closes
    have firm : Text.EndsFirmly ['\x7d', '\x7d', ' '] :=
      closes (⟨.expression, false, false⟩, _) (List.mem_cons_of_mem _ List.mem_cons_self) rfl
    exact absurd (firm ' ' rfl) (by decide)
  have free : ¬ l.delimiters.Pinches source := by
    rintro ⟨before, closing, blanks, opening, after, eq, -, -, -, -, m, mem, opens, trims⟩
    -- such a tag has a dash in it, and the source has none
    have dash : ∀ p ∈ Delimiters.loose.patterns, p.1.isOpening = true → p.1.trims = true →
        '-' ∈ p.2 := by decide
    have inside : '-' ∈ source.toList := by
      rw [eq]
      simp only [List.mem_append]
      exact .inr (.inr (.inr (.inl (dash _ mem opens trims))))
    exact absurd inside (by decide)
  have lexed : lex .loose "\x7b\x7b a \x7d\x7d b" =
      ⟨[⟨.opening .expression, ⟨0, 2⟩, "\x7b\x7b"⟩, ⟨.whitespace, ⟨2, 3⟩, " "⟩,
        ⟨.identifier, ⟨3, 4⟩, "a"⟩, ⟨.whitespace, ⟨4, 5⟩, " "⟩,
        ⟨.closing .expression, ⟨5, 8⟩, "\x7d\x7d "⟩, ⟨.raw, ⟨8, 9⟩, "b"⟩], none⟩ := rfl
  have compiled : compile l none source =
      .ok ⟨none, source, [.output (.variable ⟨"a", ⟨3, 4⟩⟩ []) ⟨0, 8⟩, .raw ⟨8, 9⟩]⟩ := by
    simp only [compile, Parse.template, l, source, lexed]
    rfl
  obtain ⟨e, failed⟩ | ⟨t, code, compiled', program, slices⟩ :=
    (compile_safe l none source free).2.2
  · cases compiled.symm.trans failed
  · cases compiled.symm.trans compiled'
    have there : Instr.raw ⟨8, 9⟩ ∈ code := by
      cases program
      exact List.mem_cons_of_mem _ List.mem_cons_self
    exact ⟨loose, free, _, code, compiled, program, there, slices _ there⟩

/-- Where a tag trims the text behind such a delimiter, the blank of the delimiter is taken as well,
and the text ends before it starts: the lexer breaks down if the text is trimmed at its start too,
and otherwise the text cannot be cut out of the source. -/
theorem Template.compile_pinched :
    let l : Language := ⟨.loose, []⟩
    compile l none "\x7b\x7b a -\x7d\x7d  \x7b\x7b- a \x7d\x7d " = .error .broken ∧
      ∃ t code, compile l none "\x7b\x7b a \x7d\x7d  \x7b\x7b- a \x7d\x7d " = .ok t ∧
        t.program? = some code ∧ Instr.raw ⟨8, 7⟩ ∈ code ∧ Text.slice ⟨8, 7⟩ t.source = none := by
  intro l
  let a : Span → Expr := fun span => .variable ⟨"a", span⟩ []
  have trimmed : lex .loose "\x7b\x7b a -\x7d\x7d  \x7b\x7b- a \x7d\x7d " =
      ⟨[⟨.opening .expression, ⟨0, 2⟩, "\x7b\x7b"⟩, ⟨.whitespace, ⟨2, 3⟩, " "⟩,
        ⟨.identifier, ⟨3, 4⟩, "a"⟩, ⟨.whitespace, ⟨4, 5⟩, " "⟩,
        ⟨.closing .expression, ⟨5, 9⟩, "-\x7d\x7d "⟩], some .broken⟩ := rfl
  have kept : lex .loose "\x7b\x7b a \x7d\x7d  \x7b\x7b- a \x7d\x7d " =
      ⟨[⟨.opening .expression, ⟨0, 2⟩, "\x7b\x7b"⟩, ⟨.whitespace, ⟨2, 3⟩, " "⟩,
        ⟨.identifier, ⟨3, 4⟩, "a"⟩, ⟨.whitespace, ⟨4, 5⟩, " "⟩,
        ⟨.closing .expression, ⟨5, 8⟩, "\x7d\x7d "⟩, ⟨.raw, ⟨8, 7⟩, ""⟩,
        ⟨.opening .expression, ⟨9, 12⟩, "\x7b\x7b-"⟩, ⟨.whitespace, ⟨12, 13⟩, " "⟩,
        ⟨.identifier, ⟨13, 14⟩, "a"⟩, ⟨.whitespace, ⟨14, 15⟩, " "⟩,
        ⟨.closing .expression, ⟨15, 18⟩, "\x7d\x7d "⟩], none⟩ := rfl
  have breaks : compile l none "\x7b\x7b a -\x7d\x7d  \x7b\x7b- a \x7d\x7d " = .error .broken := by
    simp only [compile, Parse.template, l, trimmed]
    rfl
  have compiled : compile l none "\x7b\x7b a \x7d\x7d  \x7b\x7b- a \x7d\x7d " =
      .ok ⟨none, "\x7b\x7b a \x7d\x7d  \x7b\x7b- a \x7d\x7d ",
        [.output (a ⟨3, 4⟩) ⟨0, 8⟩, .raw ⟨8, 7⟩, .output (a ⟨13, 14⟩) ⟨9, 18⟩]⟩ := by
    simp only [compile, Parse.template, l, kept]
    rfl
  have there : Instr.raw ⟨8, 7⟩ ∈
      Stmt.layoutAll 0 [.output (a ⟨3, 4⟩) ⟨0, 8⟩, .raw ⟨8, 7⟩, .output (a ⟨13, 14⟩) ⟨9, 18⟩] :=
    List.mem_cons_of_mem _ List.mem_cons_self
  exact ⟨breaks, _, _, compiled, Program.program?_eq _, there, rfl⟩

end Stencil
