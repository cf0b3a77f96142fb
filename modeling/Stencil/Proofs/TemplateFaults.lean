import Stencil.Engine.Standard
import Stencil.Proofs.ArgumentFaults
import Stencil.Proofs.SafeCompilation

/-!
# Why templates are not compiled

A source is not compiled for one of few reasons. It cannot be split into tokens; or some of its
tokens cannot be read, be it as a tag or as the arguments of a directive; or a tag has no place
where it stands; or a directive reports an error of its own when it is compiled.

- `SyntaxFault.OfLexer`, `SyntaxFault.OfTag`: what may be wrong with a source, and with its tags.
- `Lexer.Refused`, `Lexer.refused_of_run`: what the lexer fails with.
- `Language.Reports`: the directives of a language report an error.
- `Engine.not_reports_new`: those of a new engine do not.
- `Parse.Rejected`: the reasons why a source is not compiled.
- `Parse.Registered`: open blocks are closed by directives of the language.
- `Parse.exists_directiveTag`: the tag that a directive has been read from.
- `Parse.rejects_template`: there are no other reasons.
-/

namespace Stencil

open Text (byteLength)

/-! ## Faults -/

namespace SyntaxFault

/-- What may be wrong where a source is split into tokens. -/
inductive OfLexer : SyntaxFault → Prop
  | unclosedTag (tag : TagKind) : OfLexer (.unclosedTag tag)
  | unexpectedTag (kind : TokenKind) : OfLexer (.unexpectedTag kind)
  | unexpectedCharacter : OfLexer .unexpectedCharacter
  | undelimitedString : OfLexer .undelimitedString

/-- What may be wrong with a tag that can be read. -/
inductive OfTag : SyntaxFault → Prop
  | unexpectedBlock (name : String) : OfTag (.unexpectedBlock name)
  | unclosedBlock (name : String) : OfTag (.unclosedBlock name)
  | unknownDirective (name : String) : OfTag (.unknownDirective name)
  | unwantedArguments (directive : String) : OfTag (.unwantedArguments directive)

end SyntaxFault

namespace Lexer

variable {d : Delimiters} {source : String} {beyond : List Char} {s : Scan} {f : Failure}

theorem ofLexer_of_lexeme {path : Bool} {cs word : List Char} {fault : SyntaxFault}
    (h : lexeme path cs = .error (fault, word)) : fault.OfLexer := by
  unfold lexeme at h
  split at h
  · cases h
    exact .unexpectedCharacter
  split at h
  · cases h
  split at h
  · split at h
    · cases h
    · cases h
      exact .unexpectedCharacter
    · cases h
      exact .unexpectedCharacter
  split at h
  · split at h
    · cases h
    · cases h
      exact .undelimitedString
  split at h
  · cases h
  split at h
  · cases h
  split at h
  · cases h
  split at h
  · dsimp only at h
    split at h
    · cases h
    · cases h
  · cases h
    exact .unexpectedCharacter

/-- A failure of the lexer is a breakdown or a fault in the source. -/
inductive Refused (source : String) : Failure → Prop
  | broken : Refused source .broken
  | fault {fault : SyntaxFault} (span : Span) (kind : fault.OfLexer) :
      Refused source (.error (Error.syntaxAt fault source span))

theorem refused_of_step (h : step d source beyond s = .failed f) : Refused source f := by
  obtain ⟨mode, trims, offset, rest⟩ := s
  cases mode with
  | text =>
    simp only [step, stepText] at h
    split at h
    · split at h
      · cases h
        exact .broken
      · cases h
    · split at h
      · split at h
        · cases h
        split at h
        · cases h
          exact .broken
        · cases h
      · cases h
        exact .fault _ (.unexpectedTag _)
  | tag kind opening depth path =>
    simp only [step, stepTag] at h
    split at h
    · split at h
      · cases h
        exact .fault _ (.unclosedTag _)
      split at h
      · cases h
      · cases h
        exact .fault _ (.unexpectedTag _)
    · split at h
      · next read =>
        cases h
        exact .fault _ (ofLexer_of_lexeme read)
      · cases h
  | comment opening =>
    simp only [step, stepComment] at h
    split at h
    · cases h
    split at h
    · cases h
      exact .fault _ (.unclosedTag _)
    split at h
    · split at h
      · cases h
      · cases h
    · cases h
      exact .fault _ (.unexpectedTag _)

theorem refused_of_run {n : Nat} (h : (run d source beyond n s).failure = some f) :
    Refused source f := by
  induction n generalizing s with
  | zero => cases h
  | succ n ih =>
    rw [run] at h
    split at h
    · cases h
    split at h
    · next failed =>
      cases h
      exact refused_of_step failed
    · exact ih h

end Lexer

/-! ## Errors of directives -/

/-- A directive reports an error instead of being compiled. -/
def Compile.Reports (err : Error) (compile : Compile) : Prop := ∃ o, compile o = .error err

/-- A directive of a definition reports an error. -/
def Definition.Reports (err : Error) : Definition → Prop
  | .single compile => Compile.Reports err compile
  | .paired start stop => Compile.Reports err start ∨ Compile.Reports err stop
  | .cached => False

/-- A directive of a language reports an error. -/
def Language.Reports (l : Language) (err : Error) : Prop :=
  ∃ name d, Dict.get? name l.directives = some d ∧ d.Reports err

/-- The standard directives report nothing. -/
theorem Engine.not_reports_new (delimiters : Delimiters) (err : Error) :
    ¬ (new delimiters).language.Reports err := by
  have compiles (f : Occurrence → Fragment) : ¬ Compile.Reports err fun o => .ok (f o) := by
    rintro ⟨o, ⟨⟩⟩
  rintro ⟨name, d, found, reports⟩
  refine Dict.forall_of_ofList (P := fun d => ¬ Definition.Reports err d) ?_ name d found reports
  simp only [List.forall_mem_cons, List.not_mem_nil, false_imp_iff, implies_true, and_true]
  exact ⟨compiles _, compiles _, compiles _, compiles _, compiles _, compiles _, compiles _,
    compiles _, not_or.2 ⟨compiles _, compiles _⟩, not_or.2 ⟨compiles _, compiles _⟩, id,
    compiles _, compiles _⟩

namespace Parse

/-- Why a source is not compiled. -/
inductive Rejected (l : Language) (source : String) : Failure → Prop
  | broken : Rejected l source .broken
  | lexer {f : Failure} (refused : Lexer.Refused source f) : Rejected l source f
  | tokens {ts : List Token} {f : Failure} (part : ts <:+: (lex l.delimiters source).significant)
      (blamed : Blamed ⟨source, none⟩ ts f) : Rejected l source f
  | tag {fault : SyntaxFault} (span : Span) (kind : fault.OfTag) :
      Rejected l source (.error (Error.syntaxAt fault source span))
  | reported {err : Error} (span : Span) (reports : l.Reports err) :
      Rejected l source (.error (err.locate source span))

variable {α : Type} {r : Reader} {s : Surroundings} {b b' : Builder} {t : Token}
  {ts ts' : List Token} {name : Ident} {raw span : Span} {o : Occurrence} {f : Failure}

/-! ## Open blocks -/

/-- All open blocks are closed by directives of a language. -/
def Registered (l : Language) (blocks : List OpenBlock) : Prop :=
  ∀ block ∈ blocks, block.Registered l

namespace Registered

variable {l : Language} {blocks rest : List OpenBlock} {block : OpenBlock}

theorem push (h : Registered l blocks) (first : block.Registered l) :
    Registered l (block :: blocks) :=
  List.forall_mem_cons.2 ⟨first, h⟩

theorem pop (h : Registered l (block :: rest)) : Registered l rest :=
  (List.forall_mem_cons.1 h).2

theorem addElse (h : Registered l b.blocks) (eq : b.addElse = some b') :
    Registered l b'.blocks := by
  unfold Builder.addElse at eq
  split at eq
  · next blocks =>
    cases eq
    exact push (blocks ▸ h).pop trivial
  · cases eq

theorem closeClauses {current : List Stmt} (h : Registered l blocks)
    (eq : Builder.closeClauses current blocks = some b) : Registered l b.blocks := by
  -- on the open blocks; a condition in the second branch of another one is closed with it
  induction blocks generalizing current with
  | nil => cases eq
  | cons block rest ih =>
    cases block with
    | thenBranch clause nested before =>
      rw [Builder.closeClauses] at eq
      cases nested with
      | true => exact ih h.pop eq
      | false =>
        cases eq
        exact h.pop
    | elseBranch clause nested thenBody before =>
      rw [Builder.closeClauses] at eq
      cases nested with
      | true => exact ih h.pop eq
      | false =>
        cases eq
        exact h.pop
    | loop vars iterable span before => cases eq
    | paired start stop before => cases eq
    | cached start before => cases eq

theorem closeFor (h : Registered l b.blocks) (eq : b.closeFor = some b') :
    Registered l b'.blocks := by
  unfold Builder.closeFor at eq
  split at eq
  · next blocks =>
    cases eq
    exact (blocks ▸ h).pop
  · cases eq

theorem applyTag {tag : BlockTag} (h : Registered l b.blocks)
    (applied : Parse.applyTag s b span tag = .ok b') : Registered l b'.blocks := by
  cases tag with
  | ifTag negated cond =>
    cases applied
    exact h.push trivial
  | elseTag => exact h.addElse (placed_eq_ok applied)
  | elseIfTag negated cond =>
    obtain ⟨b₁, added, rfl⟩ := Option.map_eq_some_iff.1 (placed_eq_ok applied)
    exact (h.addElse added).push trivial
  | endifTag => exact h.closeClauses (placed_eq_ok applied)
  | forTag vars iterable =>
    cases applied
    exact h.push trivial
  | endforTag => exact h.closeFor (placed_eq_ok applied)
  | includeTag name globals =>
    cases applied
    exact h

theorem applied (h : Registered r.language b.blocks) (applied : Applied r b name raw span b') :
    Registered r.language b'.blocks := by
  cases applied with
  | closed blocks => exact (blocks ▸ h).pop
  | closedCached blocks => exact (blocks ▸ h).pop
  | single => exact h
  | @opened start stop d o found _ compiled =>
    have named : d.name = name := name_of_directive compiled
    exact h.push ⟨start, by rw [named, found]⟩
  | openedCached found _ invoked =>
    refine h.push ?_
    rw [OpenBlock.Registered, name_of_invocation invoked, found]

theorem stated (h : Registered r.language b.blocks) (stated : Stated r b t ts b' ts') :
    Registered r.language b'.blocks := by
  cases stated with
  | raw => exact h
  | comment => exact h
  | output => exact h
  | directive _ _ applied => exact h.applied (applied_of_applyDirective applied)
  | tag _ applied => exact h.applyTag applied

end Registered

/-! ## Tags of directives -/

/-- The arguments of a directive go up to a closing delimiter. -/
theorem exists_append_of_rawArgs {args : Span × Span} (h : rawArgs s raw ts = .ok (args, ts')) :
    ∃ inside close, ts = inside ++ close :: ts' ∧ close.kind = .closing .block ∧
      ∀ t ∈ inside, t.kind ≠ .closing .block := by
  induction ts generalizing raw with
  | nil =>
    rw [rawArgs] at h
    split at h
    · cases h
    · cases h
  | cons t ts ih =>
    rw [rawArgs] at h
    split at h
    · next closes =>
      cases h
      exact ⟨[], t, rfl, closes, List.forall_mem_nil _⟩
    · next goesOn =>
      obtain ⟨inside, close, rfl, closes, others⟩ := ih h
      exact ⟨t :: inside, close, rfl, closes, List.forall_mem_cons.2 ⟨goesOn, others⟩⟩

/-- The tag of a directive begins with a delimiter. -/
theorem opens_of_markup (read : markup s t ts = .ok (.directive name raw span, ts')) :
    t.kind = .opening .block := by
  obtain ⟨kind, whole, text⟩ := t
  cases kind with
  | raw => cases read
  | opening tag =>
    cases tag with
    | comment =>
      obtain ⟨isRaw, -, read⟩ := bind_eq_ok read
      cases isRaw with
      | false =>
        obtain ⟨ts₁, -, read⟩ := bind_eq_ok read
        obtain ⟨close, -, read⟩ := bind_eq_ok read
        cases read
      | true =>
        obtain ⟨ts₁, -, read⟩ := bind_eq_ok read
        obtain ⟨close, -, read⟩ := bind_eq_ok read
        cases read
    | expression =>
      obtain ⟨x, -, read⟩ := bind_eq_ok read
      obtain ⟨close, -, read⟩ := bind_eq_ok read
      cases read
    | block => rfl
  | _ => cases read

/-- A directive has been read from a tag with its name and its arguments. -/
theorem exists_directiveTag {l : Lexed} (stands : t :: ts <:+ l.significant)
    (read : markup s t ts = .ok (.directive name raw span, ts')) :
    ∃ (tag : DirectiveTag) (before after : List Token),
      l.tokens = before ++ tag.opening :: (tag.behind ++ after) ∧ tag.opening = t ∧
        Token.withoutBlanks (tag.behind ++ after) = ts := by
  obtain ⟨before, rest, tokens, kept⟩ := Token.exists_append_of_suffix stands
  have opens : t.kind = .opening .block := opens_of_markup read
  cases marked_of_markup read with
  | directive _ named args =>
    obtain ⟨⟨u, ts₁⟩, first, eq⟩ := bind_eq_ok named
    obtain ⟨rfl, kind⟩ := expect_eq_ok first
    cases eq
    obtain ⟨inside, close, rfl, closes, goesOn⟩ := exists_append_of_rawArgs args
    -- the blanks between these tokens belong to the tag
    obtain ⟨blanks, rest, rfl, blank, -, split⟩ := List.filter_eq_cons_iff.1 kept
    obtain ⟨front, rest, rfl, rfl, last⟩ := List.filter_eq_append_iff.1 split
    obtain ⟨trail, after, rfl, trailing, -, -⟩ := List.filter_eq_cons_iff.1 last
    let tag : DirectiveTag :=
      { opening := t, blanks, name := u, inside := front ++ trail, closing := close, opens,
        blank := fun v mem => by simpa using blank v mem
        named := kind
        goesOn := fun v mem => by
          by_cases space : v.kind = .whitespace
          · rw [space]
            nofun
          · have solid : (v.kind != .whitespace) = true := by simpa using space
            rcases List.mem_append.1 mem with mem | mem
            · exact goesOn v (List.mem_filter.2 ⟨mem, solid⟩)
            · exact absurd solid (trailing v mem)
        closes }
    have whole : tag.behind ++ after = blanks ++ u :: (front ++ (trail ++ close :: after)) := by
      simp [tag, DirectiveTag.behind]
    exact ⟨tag, before, after, by rw [tokens, whole], rfl, by rw [whole]; exact kept⟩

/-! ## Reasons -/

/-- The lexer has failed, or the tokens are the reason even where nothing is missing behind them. -/
theorem Blamed.complete_or (h : Blamed s ts f) :
    s.failure = some f ∨ Blamed ⟨s.source, none⟩ ts f := by
  cases h with
  | broken => exact .inr .broken
  | lexer failed => exact .inl failed
  | atEnd wanted => exact .inr (.atEnd wanted)
  | token mem concerns => exact .inr (.token mem concerns)
  | string mem kind failed => exact .inr (.string mem kind failed)
  | number mem kind failed => exact .inr (.number mem kind failed)
  | signed near hsign kind failed => exact .inr (.signed near hsign kind failed)

/-- If there is no result, this is a reason not to compile a source. -/
abbrev Rejects (l : Language) (source : String) (x : Except Failure α) : Prop :=
  Fails (Rejected l source) x

/-- Reading some tokens of a source. -/
theorem rejects_of_blames (hr : r.failure = (lex r.language.delimiters r.source).failure)
    (part : ts <:+: (lex r.language.delimiters r.source).significant) {x : Except Failure α}
    (blames : Blames r.toSurroundings ts x) : Rejects r.language r.source x := by
  refine blames.imp fun f blamed => ?_
  rcases blamed.complete_or with failed | blamed
  · rw [hr] at failed
    exact .lexer (Lexer.refused_of_run failed)
  · exact .tokens part blamed

/-- The arguments of a directive are read from tokens of the source. -/
theorem rejects_directiveArgs {region : Span} (t : Trimming r.source.toList region)
    {ps : List Tile} (body : t.body = Tile.source ps)
    (strung : Lexer.Strung r.language.delimiters (t.trail ++ t.after) 0 false ps)
    (part : Token.withoutBlanks (Tile.tokens t.span.start ps) <:+:
      (lex r.language.delimiters r.source).significant) (mode : Mode) :
    Rejects r.language r.source (directiveArgs r name mode (t.occurrence r.identity)) := by
  have lexed := lexRegion_of_trimming t body strung
  have rejected {f : Failure} (blamed : Blamed ⟨r.source, none⟩
      (Token.withoutBlanks (Tile.tokens t.span.start ps)) f) :
      Rejected r.language r.source f :=
    .tokens part blamed
  unfold directiveArgs
  cases mode with
  | bare =>
    dsimp only
    split
    · exact .ok _
    · exact .error (.tag _ (.unwantedArguments _))
  | call =>
    simp only [Trimming.occurrence, lexed]
    exact Fails.map (blames_callArgs.imp fun _ => rejected) _
  | assign =>
    simp only [Trimming.occurrence, lexed]
    exact Fails.map (blames_assignArgs.imp fun _ => rejected) _

section

variable (args : ∀ mode, Rejects r.language r.source (directiveArgs r name mode o))

include args

theorem rejects_invocation (mode : Mode) :
    Rejects r.language r.source (invocation r name mode o span) :=
  (args mode).bind fun _ _ => .ok _

/-- A directive reports an error, or its arguments cannot be read. -/
theorem rejects_directive {compile : Compile}
    (known : ∀ err, Compile.Reports err compile → r.language.Reports err) :
    Rejects r.language r.source (directive r compile name o span) := by
  unfold directive
  split
  · next failed => exact .error (.reported span (known _ ⟨o, failed⟩))
  · exact (rejects_invocation args _).bind fun _ _ => .ok _

/-- The end of a block. -/
theorem rejects_closing (registered : Registered r.language b.blocks)
    {handle : Occurrence → Span → Except Failure Builder}
    (found : closingHandler? r b name = some handle) :
    Rejects r.language r.source (handle o span) := by
  unfold closingHandler? at found
  split at found
  · next start stop before rest blocks =>
    obtain ⟨compile, known⟩ := registered (.paired start stop before) (by simp [blocks])
    split at found
    · cases found
      exact (rejects_directive args fun err reports => ⟨_, _, known, .inr reports⟩).map _
    · cases found
  · split at found
    · cases found
      exact (rejects_invocation args _).map _
    · cases found
  · cases found

theorem rejects_applyDirective (registered : Registered r.language b.blocks)
    (occurs : occurrence r raw = .ok o) :
    Rejects r.language r.source (applyDirective r b name raw span) := by
  unfold applyDirective
  rw [closeDirective?_eq occurs]
  split
  · next closes =>
    obtain ⟨handle, found, rfl⟩ := Option.map_eq_some_iff.1 closes
    exact rejects_closing args registered found
  simp only [occurs, ok_bind]
  split
  · next known =>
    exact (rejects_directive args fun err reports => ⟨_, _, known, reports⟩).bind fun _ _ => .ok _
  · next known =>
    refine (rejects_directive args fun err reports => ?_).bind fun _ _ => .ok _
    exact ⟨_, _, known, .inl reports⟩
  · exact (rejects_invocation args _).bind fun _ _ => .ok _
  · split
    · exact .error (.tag _ (.unexpectedBlock _))
    · exact .error (.tag _ (.unknownDirective _))

end

theorem rejects_applyTag (tag : BlockTag) :
    Rejects r.language r.source (applyTag r.toSurroundings b span tag) := by
  have place (name : String) (next : Option Builder) :
      Rejects r.language r.source (placed r.toSurroundings name span next) := by
    cases next with
    | none => exact .error (.tag _ (.unexpectedBlock _))
    | some b => exact .ok b
  cases tag with
  | ifTag negated cond => exact .ok _
  | elseTag => exact place _ _
  | elseIfTag negated cond => exact place _ _
  | endifTag => exact place _ _
  | forTag vars iterable => exact .ok _
  | endforTag => exact place _ _
  | includeTag name globals => exact .ok _

/-- The tokens of the arguments of a tag stand next to each other in the source. -/
theorem infix_of_inside {tag : DirectiveTag} {l : Lexed} {before after lead ts trail : List Token}
    (stands : l.tokens = before ++ tag.opening :: (tag.behind ++ after))
    (inside : tag.inside = lead ++ (ts ++ trail)) : Token.withoutBlanks ts <:+: l.significant := by
  have whole : l.tokens = (before ++ tag.opening :: (tag.blanks ++ tag.name :: lead)) ++ ts ++
      (trail ++ tag.closing :: after) := by
    rw [stands, DirectiveTag.behind, inside]
    simp
  rw [Lexed.significant, whole]
  exact List.IsInfix.filter _ ⟨_, _, rfl⟩

theorem rejects_applyMarkup {m : Markup} (registered : Registered r.language b.blocks)
    (stands : t :: ts <:+ (lex r.language.delimiters r.source).significant)
    (read : markup r.toSurroundings t ts = .ok (m, ts')) :
    Rejects r.language r.source (applyMarkup r b m) := by
  cases m with
  | raw span => exact .ok _
  | comment => exact .ok _
  | output x span => exact .ok _
  | block tag span => exact rejects_applyTag tag
  | directive name raw span =>
    obtain ⟨tag, before, after, tokens, rfl, rfl⟩ := exists_directiveTag stands read
    obtain ⟨t, ps, args, body, strung, lead, trail, inside, -, -⟩ :=
      exists_trimming_of_lex r tag tokens
    rw [markup_of_directiveTag, args] at read
    cases read
    exact rejects_applyDirective
      (rejects_directiveArgs t body strung (infix_of_inside tokens inside)) registered
      (t.occurrence_eq r)

/-- The statements of some tokens of a source. -/
theorem rejects_statements (hr : r.failure = (lex r.language.delimiters r.source).failure)
    {n : Nat} (registered : Registered r.language b.blocks)
    (stands : ts <:+ (lex r.language.delimiters r.source).significant) :
    Rejects r.language r.source (statements r n b ts) := by
  -- on the bound; what has been read keeps the open blocks registered
  induction n generalizing b ts with
  | zero => exact .error .broken
  | succ n ih =>
    unfold statements
    refine .bind (rejects_of_blames hr stands.isInfix blames_next) fun next first => ?_
    cases next with
    | none =>
      dsimp only [finish]
      split
      · exact .ok _
      · exact .error (.tag _ (.unclosedBlock _))
    | some taken =>
      obtain ⟨t, ts'⟩ := taken
      obtain rfl := next?_eq_some first
      have tail : ts' <:+ t :: ts' := List.suffix_cons t ts'
      refine .bind ?_ fun next stated => ?_
      · rw [statement_eq]
        refine .bind (rejects_of_blames hr (tail.trans stands).isInfix answers_markup.blames)
          fun m read => ?_
        exact (rejects_applyMarkup registered stands read).map _
      · have left : next.2 <:+ ts' := by
          rw [statement_eq] at stated
          obtain ⟨m, read, stated⟩ := bind_eq_ok stated
          obtain ⟨b', -, rfl⟩ := map_eq_ok stated
          exact answers_markup.suffix read
        exact ih (registered.stated (stated_of_statement stated))
          (left.trans (tail.trans stands))

/-- There are no other reasons why a source is not compiled. -/
theorem rejects_template (l : Language) (name : Option String) (source : String) :
    Rejects l source (template l name source) :=
  rejects_statements (r := readerOf l name source) rfl (List.forall_mem_nil _)
    (List.suffix_refl _)

end Parse

end Stencil
