import Stencil.Proofs.DirectiveText
import Stencil.Proofs.ExcerptLines
import Stencil.Proofs.FaultPlaces
import Stencil.Proofs.Steady

/-!
# Faults in the arguments of directives

The arguments of a directive are read by themselves in their place, and what is wrong with them is
reported there. Only where they end too early the fault is placed at the end of the source, however
far behind the tag this is.

- `Lexer.Strung.row`: the tokens of a region that is read to its end.
- `Parse.Reached`, `Parse.Requires`: the parser comes to a tag, and reads its arguments in a mode.
- `Parse.exists_faulted`: the arguments fail in their place, or at the end of the source.
- `Parse.faulted_arguments`: what compiling fails with if the arguments of a tag do not parse.
- `Parse.not_within_missing`: a value is missing in a tag, and another line is shown.
-/

namespace Stencil

open Text (byteLength)

/-! ## The tokens of a region -/

/-- Tokens of characters of one byte each. -/
def TokenKind.IsNarrow (kind : TokenKind) : Prop :=
  kind = .number ∨ kind = .plus ∨ kind = .minus ∨ kind = .whitespace

namespace Lexer

variable {path : Bool} {cs word : List Char} {kind : TokenKind}

theorem utf8Size_of_isNumberPart {c : Char} (h : isNumberPart c) : c.utf8Size = 1 := by
  rw [Char.utf8Size_eq_one_iff]
  simp only [isNumberPart, Char.isAlphanum, Bool.or_eq_true, beq_iff_eq] at h
  rcases h with ((((letter | digit) | rfl) | rfl) | rfl) | rfl
  · rcases Bool.or_eq_true_iff.1 letter with upper | lower
    · exact UInt32.le_trans (of_decide_eq_true upper).2 (by decide)
    · exact UInt32.le_trans (of_decide_eq_true (Bool.and_eq_true_iff.1 lower).2) (by decide)
  · exact UInt32.le_trans (of_decide_eq_true (Bool.and_eq_true_iff.1 digit).2) (by decide)
  all_goals decide

theorem utf8Size_of_isSpace {c : Char} (h : isSpace c) : c.utf8Size = 1 := by
  simp only [isSpace, Bool.or_eq_true, beq_iff_eq] at h
  rcases h with ((rfl | rfl) | rfl) | rfl
  all_goals rfl

theorem narrow_of_lexeme (h : lexeme path cs = .ok (kind, word)) (narrow : kind.IsNarrow) :
    ∀ c ∈ word, c.utf8Size = 1 := by
  cases firstToken_of_lexeme h with
  | mark mark =>
    have one : ∀ m ∈ marks, m.1.utf8Size = 1 := by decide
    exact List.forall_mem_singleton.2 (one _ (mem_marks_of_single? mark))
  | number _ digit =>
    refine List.forall_mem_cons.2 ⟨utf8Size_of_isNumberPart ?_, fun d mem => ?_⟩
    · simp [isNumberPart, Char.isAlphanum, digit]
    · exact utf8Size_of_isNumberPart (List.mem_takeWhile_imp mem)
  | blank _ _ space =>
    exact List.forall_mem_cons.2 ⟨utf8Size_of_isSpace space, fun d mem =>
      utf8Size_of_isSpace (List.mem_takeWhile_imp mem)⟩
  | name =>
    rcases narrow with h | h | h | h
    all_goals exact absurd h (nameKind_ne (by decide) (by decide) _)
  | _ => rcases narrow with h | h | h | h <;> cases h

end Lexer

/-- Every tile has its token. -/
theorem Tile.exists_token_mem {p : Tile} {ps : List Tile} (n : Nat) (mem : p ∈ ps) :
    ∃ k, p.token k ∈ tokens n ps := by
  induction ps generalizing n with
  | nil => cases mem
  | cons q ps ih =>
    rcases List.mem_cons.1 mem with rfl | mem
    · exact ⟨n, List.mem_cons_self⟩
    · obtain ⟨k, mem⟩ := ih (n + byteLength q.chars) mem
      exact ⟨k, List.mem_cons_of_mem _ mem⟩

namespace Lexer

namespace Strung

variable {path : Bool} {d : Delimiters} {source : String} {upTo behind : List Char} {depth : Nat}
  {ps ps₁ qs ps₂ : List Tile} {t : Token}

/-- Some of the tiles stand in the source. -/
theorem source_eq (whole : source.toList = upTo ++ (Tile.source (ps₁ ++ (qs ++ ps₂)) ++ behind)) :
    source.toList =
      upTo ++ Tile.source ps₁ ++ (Tile.source qs ++ (Tile.source ps₂ ++ behind)) := by
  rw [whole, Tile.source_append, Tile.source_append]
  simp only [List.append_assoc]

/-- Some of the tiles, the tokens of which are narrow. -/
theorem narrow (h : Strung d behind depth path (ps₁ ++ (qs ++ ps₂)))
    (whole : source.toList = upTo ++ (Tile.source (ps₁ ++ (qs ++ ps₂)) ++ behind))
    (narrow : ∀ p ∈ qs, p.role.kind.IsNarrow) :
    Span.Narrow source ⟨byteLength (upTo ++ Tile.source ps₁),
      byteLength (upTo ++ Tile.source ps₁) + byteLength (Tile.source qs)⟩ := by
  have all : ∀ c ∈ Tile.source qs, c.utf8Size = 1 := by
    intro c mem
    obtain ⟨p, hp, mem⟩ := List.mem_flatMap.1 mem
    obtain ⟨kind, word, path, cs, rfl, read⟩ := h.exists_read (p := p) (by simp [hp])
    rw [Tile.chars_whole] at mem
    exact narrow_of_lexeme read (narrow _ hp) c mem
  refine ⟨_, Tile.source qs, Tile.source ps₂ ++ behind, source_eq whole, ?_, all⟩
  rw [Text.byteLength_of_narrow all]

/-- The tile of a token. -/
theorem exists_tile (h : Strung d behind depth path ps)
    (mem : t ∈ Tile.tokens (byteLength upTo) ps) : ∃ ps₁ word path cs ps₂,
      ps = ps₁ ++ ([Tile.whole (.inside t.kind) word] ++ ps₂) ∧
      t = token t.kind (byteLength (upTo ++ Tile.source ps₁)) word ∧
      lexeme path cs = .ok (t.kind, word) := by
  obtain ⟨ts, us, split⟩ := List.append_of_mem mem
  obtain ⟨ps₁, qs, rfl, -, behind⟩ := Tile.exists_append_of_tokens split
  cases qs with
  | nil => cases behind
  | cons p ps₂ =>
    obtain ⟨rfl, -⟩ := List.cons.inj behind
    obtain ⟨kind, word, path, cs, rfl, read⟩ := h.exists_read (p := p) (by simp)
    refine ⟨ps₁, word, path, cs, ps₂, rfl, ?_, read⟩
    rw [Text.byteLength_append]
    rfl

/-- The tokens of tiles are in the region of these. -/
theorem located (h : Strung d behind depth path ps)
    (whole : source.toList = upTo ++ (Tile.source ps ++ behind))
    (mem : t ∈ Tile.tokens (byteLength upTo) ps) :
    Parse.Located source ⟨byteLength upTo, byteLength upTo + byteLength (Tile.source ps)⟩ t := by
  have within := Tile.within_of_mem_tokens mem
  obtain ⟨ps₁, word, path', cs, ps₂, rfl, eq, read⟩ := h.exists_tile mem
  have stands := source_eq whole
  rw [Tile.source_cons, Tile.source_nil, List.append_nil, Tile.chars_whole] at stands
  refine ⟨eq ▸ Token.reads_of_append stands, within, fun kind => ?_, fun kind => ?_⟩
  · rw [kind] at read
    obtain ⟨inner, rfl, hinner⟩ := inner_of_lexeme read
    exact ⟨inner, by rw [eq]; rfl, hinner⟩
  · have narrow := h.narrow whole fun p mem => by
      rw [List.mem_singleton.1 mem]
      exact .inl kind
    rw [Tile.source_cons, Tile.source_nil, List.append_nil, Tile.chars_whole] at narrow
    rw [eq]
    exact narrow

/-- The tokens of tiles reach from the first to the last of them. -/
theorem join_eq (whole : ∀ p ∈ qs, ∃ role word, p = Tile.whole role word) {n : Nat} {u : Token}
    {ts : List Token} (tokens : Tile.tokens n qs = t :: (ts ++ [u])) :
    t.span.join u.span = ⟨n, n + byteLength (Tile.source qs)⟩ := by
  have split : Tile.tokens n qs = (t :: ts) ++ [u] := tokens
  obtain ⟨rs, last, rfl, front, rear⟩ := Tile.exists_append_of_tokens split
  cases rs with
  | nil => cases front
  | cons p rs =>
  obtain ⟨rfl, -⟩ := List.cons.inj front
  cases last with
  | nil => cases rear
  | cons q last =>
  obtain ⟨rfl, none⟩ := List.cons.inj rear
  cases last with
  | cons q' last => cases none
  | nil =>
  obtain ⟨role, word, rfl⟩ := whole p (by simp)
  obtain ⟨role', word', rfl⟩ := whole q (by simp)
  rw [Tile.source_append, Tile.source_cons, Tile.source_cons, Tile.source_nil, Tile.chars_whole,
    Tile.chars_whole, List.append_nil, Span.join, Span.mk.injEq]
  simp only [Tile.token, Tile.whole, token, Text.byteLength_append, Text.byteLength_nil,
    Nat.add_zero]
  omega

/-- Between a sign and a number with nothing but blanks between them, there are characters of one
byte each. -/
theorem signed (h : Strung d behind depth path ps)
    (whole : source.toList = upTo ++ (Tile.source ps ++ behind)) {sign : Token}
    (near : [sign, t] <:+: Token.withoutBlanks (Tile.tokens (byteLength upTo) ps))
    (hsign : sign.kind.IsNarrow) (ht : t.kind.IsNarrow) :
    (sign.span.join t.span).Narrow source := by
  obtain ⟨ts, blanks, us, tokens, blank⟩ := Token.exists_append_of_pair near
  have split : Tile.tokens (byteLength upTo) ps = ts ++ ((sign :: (blanks ++ [t])) ++ us) := by
    rw [tokens]
    simp only [List.append_assoc, List.cons_append, List.nil_append]
  obtain ⟨ps₁, rest, rfl, -, split⟩ := Tile.exists_append_of_tokens split
  obtain ⟨qs, ps₂, rfl, split, -⟩ := Tile.exists_append_of_tokens split.symm
  have tiles (p : Tile) (mem : p ∈ qs) : p.role.kind.IsNarrow := by
    obtain ⟨n, mem⟩ := Tile.exists_token_mem (byteLength upTo + byteLength (Tile.source ps₁)) mem
    rw [← split] at mem
    rcases List.mem_cons.1 mem with rfl | mem
    · exact hsign
    rcases List.mem_append.1 mem with mem | mem
    · have kind : (p.token n).kind = .whitespace := blank _ mem
      exact .inr (.inr (.inr kind))
    · rw [List.mem_singleton] at mem
      rw [← mem] at ht
      exact ht
  have read (p : Tile) (mem : p ∈ qs) : ∃ role word, p = Tile.whole role word := by
    obtain ⟨kind, word, -, -, eq, -⟩ := h.exists_read (p := p) (by simp [mem])
    exact ⟨_, word, eq⟩
  rw [join_eq read split.symm, ← Text.byteLength_append]
  exact h.narrow whole tiles

/-- The tokens of tiles without the blanks. -/
theorem row (h : Strung d behind depth path ps)
    (whole : source.toList = upTo ++ (Tile.source ps ++ behind)) :
    Parse.Row source ⟨byteLength upTo, byteLength upTo + byteLength (Tile.source ps)⟩
      (Token.withoutBlanks (Tile.tokens (byteLength upTo) ps)) where
  located _ mem := h.located whole (List.mem_of_mem_filter mem)
  signed _ _ near sign number :=
    h.signed whole near (sign.elim (fun h => .inr (.inl h)) fun h => .inr (.inr (.inl h)))
      (.inl number)

end Strung

end Lexer

/-! ## Tags -/

namespace Trimming

/-- What stands between the blanks is in the region. -/
theorem span_within {cs : List Char} {region : Span} (t : Trimming cs region) :
    t.span.Within region := by
  have stop := t.stop
  have start := t.start
  simp only [Text.byteLength_append] at stop
  refine ⟨?_, ?_⟩
  all_goals
    simp only [span, upTo, Text.byteLength_append]
    omega

end Trimming

namespace DirectiveTag

variable {l : Language} {source : String} {tag : DirectiveTag} {before after : List Token}

/-- What stands behind the name of a tag is in the tag. -/
theorem region_within (stands : (lex l.delimiters source).tokens =
      before ++ tag.opening :: (tag.behind ++ after)) : tag.region.Within tag.span := by
  obtain ⟨last, ordered⟩ := significant_inOrder l.delimiters source
  have sub : [tag.opening, tag.name, tag.closing].Sublist
      (lex l.delimiters source).significant := by
    have kept : (lex l.delimiters source).significant = Token.withoutBlanks before ++
        tag.opening :: Token.withoutBlanks (tag.behind ++ after) := by
      rw [Lexed.significant, stands, List.filter_append,
        List.filter_cons_of_pos (by simp [tag.opens])]
      rfl
    have closing : [tag.closing].Sublist
        (Token.withoutBlanks tag.inside ++ tag.closing :: Token.withoutBlanks after) :=
      List.singleton_sublist.2 (by simp)
    rw [kept, withoutBlanks_behind]
    exact ((closing.cons_cons _).cons_cons _).trans (List.sublist_append_right _ _)
  have placed := ordered.sublist sub
  have name := placed.names tag.name (by simp) tag.named
  have opening : tag.opening.Before tag.name := List.rel_of_pairwise_cons placed.ordered (by simp)
  have closing : tag.closing.span.Fits source :=
    fits_of_lex _ (sub.subset (by simp)) (by simp [tag.closes])
  refine ⟨?_, ?_⟩
  · exact Nat.le_trans (Nat.min_le_left _ _) (Nat.le_trans opening.1 (Nat.le_of_lt name))
  · exact Nat.le_trans closing.le (Nat.le_max_right _ _)

/-- A tag is a region of its source. -/
theorem fits (stands : (lex l.delimiters source).tokens =
      before ++ tag.opening :: (tag.behind ++ after)) : tag.span.Fits source := by
  have legible := (legible_of_lex l.delimiters source).1.fit
  rw [stands] at legible
  have opening := legible tag.opening (by simp) (by simp [tag.opens])
  have closing := legible tag.closing (by simp [behind]) (by simp [tag.closes])
  exact opening.join closing

end DirectiveTag

namespace Parse

/-- The reader of a source. -/
def readerOf (l : Language) (name : Option String) (source : String) : Reader :=
  ⟨⟨source, (lex l.delimiters source).failure⟩, l, Origin.identityOf name source⟩

/-- The parser of a source comes to some tokens with what it has read before. -/
inductive Reached (r : Reader) : Builder → List Token → Prop
  | start : Reached r .empty (lex r.language.delimiters r.source).significant
  | next {b b' : Builder} {t : Token} {ts ts' : List Token} (h : Reached r b (t :: ts))
      (stated : statement r b t ts = .ok (b', ts')) : Reached r b' ts'

/-- The arguments of a directive are read in a mode: the end of a block has that of the block, other
directives have their own. -/
inductive Requires (r : Reader) (b : Builder) (name : Ident) (o : Occurrence) : Mode → Prop
  | closed {start : Directive} {stop : Compile} {before : List Stmt} {rest : List OpenBlock}
      {fragment : Fragment} (blocks : b.blocks = .paired start stop before :: rest)
      (named : name.name = "end" ++ start.name.name) (compiled : stop o = .ok fragment) :
      Requires r b name o fragment.mode
  | closedCached {start : Invocation} {before : List Stmt} {rest : List OpenBlock}
      (blocks : b.blocks = .cached start before :: rest)
      (named : name.name = "end" ++ start.name.name) : Requires r b name o .bare
  | single {compile : Compile} {fragment : Fragment} (goesOn : closingHandler? r b name = none)
      (found : Dict.get? name.name r.language.directives = some (.single compile))
      (compiled : compile o = .ok fragment) : Requires r b name o fragment.mode
  | opened {start stop : Compile} {fragment : Fragment} (goesOn : closingHandler? r b name = none)
      (found : Dict.get? name.name r.language.directives = some (.paired start stop))
      (compiled : start o = .ok fragment) : Requires r b name o fragment.mode
  | openedCached (goesOn : closingHandler? r b name = none)
      (found : Dict.get? name.name r.language.directives = some .cached) :
      Requires r b name o .call

variable {l : Language} {r : Reader} {b : Builder} {name : Ident} {o : Occurrence} {mode : Mode}
  {f : Failure} {ts : List Token}

theorem invocation_eq_error (h : directiveArgs r name mode o = .error f) (span : Span) :
    invocation r name mode o span = .error f := by
  rw [invocation, h]
  rfl

theorem directive_eq_error {compile : Compile} {fragment : Fragment}
    (compiled : compile o = .ok fragment) (h : directiveArgs r name fragment.mode o = .error f)
    (span : Span) : directive r compile name o span = .error f := by
  rw [directive, compiled]
  dsimp only
  rw [invocation_eq_error h]
  rfl

/-- Where the arguments do not parse, nothing is done. -/
theorem Requires.fails (h : Requires r b name o mode)
    (failed : directiveArgs r name mode o = .error f) :
    ∃ handle, handler? r b name = some handle ∧ ∀ span, handle o span = .error f := by
  cases h with
  | closed blocks named compiled =>
    refine ⟨_, by rw [handler?, closingHandler?, blocks]; dsimp only; rw [if_pos named], ?_⟩
    intro span
    rw [directive_eq_error compiled failed]
    rfl
  | closedCached blocks named =>
    refine ⟨_, by rw [handler?, closingHandler?, blocks]; dsimp only; rw [if_pos named], ?_⟩
    intro span
    rw [invocation_eq_error failed]
    rfl
  | single goesOn found compiled =>
    refine ⟨_, by rw [handler?, goesOn, found], fun span => ?_⟩
    rw [directive_eq_error compiled failed]
    rfl
  | opened goesOn found compiled =>
    refine ⟨_, by rw [handler?, goesOn, found], fun span => ?_⟩
    rw [directive_eq_error compiled failed]
    rfl
  | openedCached goesOn found =>
    refine ⟨_, by rw [handler?, goesOn, found], fun span => ?_⟩
    rw [invocation_eq_error failed]
    rfl

/-- What is left to be read of a source where the parser has come to. -/
theorem exists_statements {name : Option String} {source : String}
    (h : Reached (readerOf l name source) b ts) :
    Framed none ts ∧ ∃ n, ts.length < n ∧
      template l name source = statements (readerOf l name source) n b ts := by
  induction h with
  | start => exact ⟨framed_lex _ _, _, Nat.lt_succ_self _, rfl⟩
  | @next b b' t ts ts' _ stated ih =>
    obtain ⟨framed, n, enough, same⟩ := ih
    obtain ⟨n, rfl⟩ := Nat.exists_eq_succ_of_ne_zero (Nat.ne_zero_of_lt enough)
    have read := stated
    rw [statement_eq] at read
    obtain ⟨⟨m, rest⟩, markup, done⟩ := bind_eq_ok read
    obtain ⟨b₁, -, eq⟩ := map_eq_ok done
    cases eq
    have behind := behind_markup framed markup
    refine ⟨behind.framed, n, ?_, ?_⟩
    · exact Nat.lt_of_le_of_lt behind.suffix.length_le (Nat.lt_of_succ_lt_succ enough)
    · rw [same]
      show (statement _ b t ts >>= fun p => statements _ n p.1 p.2) = _
      rw [stated]
      rfl

/-- Where a tag cannot be read, compiling ends. -/
theorem compile_of_statement {name : Option String} {source : String} {t : Token}
    (h : Reached (readerOf l name source) b (t :: ts))
    (failed : statement (readerOf l name source) b t ts = .error f) :
    Template.compile l name source = .error (f.inTemplate name) := by
  obtain ⟨-, n, enough, same⟩ := exists_statements h
  obtain ⟨n, rfl⟩ := Nat.exists_eq_succ_of_ne_zero (Nat.ne_zero_of_lt enough)
  have ends : template l name source = .error f := by
    rw [same]
    show (statement _ b t ts >>= fun p => statements _ n p.1 p.2) = _
    rw [failed]
    rfl
  rw [Template.compile, ends]

/-- The arguments of a tag fail in their place, or at the end of the source. -/
theorem exists_faulted {region : Span} (t : Trimming r.source.toList region) {ps : List Tile}
    (body : t.body = Tile.source ps)
    (strung : Lexer.Strung r.language.delimiters (t.trail ++ t.after) 0 false ps)
    (failed : directiveArgs r name mode (t.occurrence r.identity) = .error f) :
    ∃ err, f = .error err ∧ err.Faulted r.source t.span := by
  have whole : r.source.toList = t.upTo ++ (Tile.source ps ++ (t.trail ++ t.after)) := by
    rw [← body, ← List.append_assoc, t.whole_eq]
  have span : t.span =
      ⟨byteLength t.upTo, byteLength t.upTo + byteLength (Tile.source ps)⟩ := by
    rw [Trimming.span, body]
  have lexed := lexRegion_of_trimming t body strung
  have row := strung.row whole
  rw [← span] at row
  have worded : Worded (Token.withoutBlanks (Tile.tokens (byteLength t.upTo) ps)) :=
    fun u mem => ((legible_of_lexRegion lexed).1 u (List.mem_of_mem_filter mem)).worded
  have sound : (none : Option Failure) ≠ some .broken := (Option.some_ne_none _).symm
  have both {α : Type} {x : Except Failure α} (faults : Faults ⟨r.source, none⟩ t.span x)
      (whole : Whole x) (h : x = .error f) :
      ∃ err, f = .error err ∧ err.Faulted r.source t.span := by
    cases f with
    | broken => exact absurd h whole
    | error err => exact ⟨err, rfl, faults _ h⟩
  unfold directiveArgs at failed
  cases mode with
  | bare =>
    dsimp only at failed
    split at failed
    · cases failed
    · cases failed
      refine ⟨_, rfl, .inside (by rintro ⟨_, ⟨⟩⟩) ?_ t.span.within_refl⟩
      show t.span.Fits r.source
      rw [span]
      exact Span.fits_of_append whole
  | call =>
    simp only [Trimming.occurrence, lexed] at failed
    exact both (faults_callArgs rfl row) (whole_callArgs sound worded) (map_eq_error failed)
  | assign =>
    simp only [Trimming.occurrence, lexed] at failed
    exact both (faults_assignArgs rfl row) (whole_assignArgs sound worded) (map_eq_error failed)

/-- A tag of which the arguments do not parse cannot be read. -/
theorem statement_eq_error {tag : DirectiveTag} {after : List Token}
    (t : Trimming r.source.toList tag.region)
    (read : markup r.toSurroundings tag.opening (Token.withoutBlanks (tag.behind ++ after)) =
      .ok (.directive tag.ident t.span tag.span, Token.withoutBlanks after))
    (requires : Requires r b tag.ident (t.occurrence r.identity) mode)
    (failed : directiveArgs r tag.ident mode (t.occurrence r.identity) = .error f) :
    statement r b tag.opening (Token.withoutBlanks (tag.behind ++ after)) = .error f := by
  obtain ⟨handle, found, fails⟩ := requires.fails failed
  rw [statement_eq, read]
  show (applyDirective r b tag.ident t.span tag.span).map _ = _
  rw [applyDirective_eq (t.occurrence_eq r) found, fails]
  rfl

/-- If the parser comes to a tag and the arguments do not parse as the directive requires, compiling
fails with that fault. It points into the tag and shows a line of it, unless the arguments end where
something is wanted; then it points to the end of the source. -/
theorem faulted_arguments (l : Language) (name : Option String) (source : String)
    (tag : DirectiveTag) {before after : List Token}
    (stands : (lex l.delimiters source).tokens =
      before ++ tag.opening :: (tag.behind ++ after)) :
    ∃ t : Trimming source.toList tag.region,
      let r := readerOf l name source
      let o := t.occurrence r.identity
      let ts := Token.withoutBlanks (tag.behind ++ after)
      markup r.toSurroundings tag.opening ts =
        .ok (.directive tag.ident o.span tag.span, Token.withoutBlanks after) ∧
      ∀ b mode f, Reached r b (tag.opening :: ts) → Requires r b tag.ident o mode →
        directiveArgs r tag.ident mode o = .error f →
        ∃ fault span, f = .error (.syntaxAt fault source span) ∧
          Template.compile l name source =
            .error (.error ⟨.invalidSource fault, some ⟨source, span⟩, name⟩) ∧
          (¬ fault.AtEnd → span.Fits source ∧ span.Within tag.span ∧
            Excerpt.Shows ⟨source, span⟩ tag.span) ∧
          (fault.AtEnd → span = Span.point source.utf8ByteSize) := by
  obtain ⟨t, ps, args, body, strung, -⟩ :=
    exists_trimming_of_lex (readerOf l name source) tag stands
  have read := markup_of_directiveTag (readerOf l name source).toSurroundings tag after
  rw [args] at read
  refine ⟨t, read, fun b mode f reached requires failed => ?_⟩
  have compiled := compile_of_statement reached (statement_eq_error t read requires failed)
  obtain ⟨err, rfl, faulted⟩ := exists_faulted t body strung failed
  have inside : t.span.Within tag.span := .trans (t.span_within) (DirectiveTag.region_within stands)
  have nonempty : source.isEmpty = false := by
    by_contra full
    obtain rfl := String.isEmpty_iff.1 (by simpa using full)
    simp [lex, Lexer.run] at stands
  have located (fault : SyntaxFault) (span : Span) :
      (Error.syntaxAt fault source span).inTemplate name =
        ⟨.invalidSource fault, some ⟨source, span⟩, name⟩ := by
    rw [Error.syntaxAt, Error.locate, if_pos (by simp [Error.ofCause, nonempty])]
    cases name <;> rfl
  cases faulted with
  | @inside fault span found fits within =>
    have within := within.trans inside
    have shows := fits.shows (DirectiveTag.fits stands) within
    refine ⟨fault, span, rfl, ?_, fun _ => ⟨fits, within, shows⟩,
      fun missing => absurd missing found⟩
    exact compiled.trans (congrArg (fun e => Except.error (Failure.error e)) (located fault span))
  | atEnd wanted =>
    refine ⟨.expected wanted none, Span.point source.utf8ByteSize, rfl, ?_,
      fun found => absurd ⟨wanted, rfl⟩ found, fun _ => rfl⟩
    exact compiled.trans (congrArg (fun e => Except.error (Failure.error e)) (located _ _))

/-- The tag of a directive whose arguments stand in the bytes from 6 to 11. -/
def setTag (inside : List (TokenKind × String))
    (goesOn : ∀ t ∈ Tile.tokens 6 (inside.map fun w => .whole (.inside w.1) w.2.toList),
      t.kind ≠ .closing .block) : DirectiveTag where
  opening := ⟨.opening .block, ⟨0, 2⟩, "\x7b%"⟩
  blanks := [⟨.whitespace, ⟨2, 3⟩, " "⟩]
  name := ⟨.identifier, ⟨3, 6⟩, "set"⟩
  inside := Tile.tokens 6 (inside.map fun w => .whole (.inside w.1) w.2.toList)
  closing := ⟨.closing .block, ⟨11, 13⟩, "%\x7d"⟩
  opens := rfl
  blank := by decide
  named := rfl
  goesOn := goesOn
  closes := rfl

/-- A language with one directive. -/
def setLanguage : Language := ⟨.standard, [("set", Directive.set)]⟩

/-- The parser comes to the tag that a source begins with. -/
theorem reached_first {name : Option String} {source : String} {tag : DirectiveTag}
    {after : List Token}
    (stands : (lex l.delimiters source).tokens = tag.opening :: (tag.behind ++ after)) :
    Reached (readerOf l name source) .empty
      (tag.opening :: Token.withoutBlanks (tag.behind ++ after)) := by
  have kept : (lex l.delimiters source).significant =
      tag.opening :: Token.withoutBlanks (tag.behind ++ after) := by
    rw [Lexed.significant, stands, List.filter_cons_of_pos (by simp [tag.opens])]
    rfl
  exact kept ▸ .start

/-- A name where a sign is wanted. -/
theorem faulted_arguments_name :
    let source := "\x7b% set x y %\x7d\nhello"
    let x : Excerpt := ⟨source, ⟨9, 10⟩⟩
    let tag := setTag [(.whitespace, " "), (.identifier, "x"), (.whitespace, " "),
      (.identifier, "y"), (.whitespace, " ")] (by decide)
    (lex .standard source).tokens = tag.opening :: (tag.behind ++ [⟨.raw, ⟨13, 19⟩, "\nhello"⟩]) ∧
      Template.compile setLanguage (some "t") source =
        .error (.error ⟨.invalidSource (.expected "equals" (some .identifier)), some x, some "t"⟩) ∧
      x.span.Within tag.span ∧ x.Shows tag.span := by
  intro source x tag
  have stands : (lex .standard source).tokens =
      [] ++ tag.opening :: (tag.behind ++ [⟨.raw, ⟨13, 19⟩, "\nhello"⟩]) := by
    decide
  obtain ⟨t, read, fails⟩ := faulted_arguments setLanguage (some "t") source tag stands
  let r := readerOf setLanguage (some "t") source
  have span : t.span = ⟨7, 10⟩ := by
    rw [markup_of_directiveTag] at read
    injection read with read
    injection read with read
    injection read with _ span
    exact span.symm
  have lexed : lexRegion .standard source ⟨7, 10⟩ = some ⟨[⟨.identifier, ⟨7, 8⟩, "x"⟩,
      ⟨.whitespace, ⟨8, 9⟩, " "⟩, ⟨.identifier, ⟨9, 10⟩, "y"⟩], none⟩ := by
    show lexRegion .standard "\x7b% set x y %\x7d\nhello" ⟨7, 10⟩ = _
    rfl
  have failed : directiveArgs r tag.ident .assign (t.occurrence r.identity) =
      .error (.error ⟨.invalidSource (.expected "equals" (some .identifier)), some x, none⟩) := by
    have place : (t.occurrence r.identity).span = ⟨7, 10⟩ := span
    have same : lexRegion r.language.delimiters r.source = lexRegion .standard source := rfl
    simp only [directiveArgs, place, same, lexed]
    rfl
  obtain ⟨fault, place, eq, compiled, inside, -⟩ :=
    fails .empty _ _ (reached_first stands) (.single rfl rfl rfl) failed
  -- the fault and its place are those of the arguments
  have same : (⟨.invalidSource (.expected "equals" (some .identifier)), some x, none⟩ : Error) =
      ⟨.invalidSource fault, some ⟨source, place⟩, none⟩ := Failure.error.inj eq
  injection same with cause excerpt
  injection cause with found
  injection excerpt with excerpt
  injection excerpt with _ place
  subst found place
  obtain ⟨-, within, shows⟩ := inside (SyntaxFault.not_atEnd _ _)
  exact ⟨stands, compiled, within, shows⟩

/-- Where the value of a binding is missing, the fault is placed in the next line, behind the text
that follows the tag. -/
theorem not_within_missing :
    let source := "\x7b% set x = %\x7d\nhello"
    let x : Excerpt := ⟨source, ⟨19, 19⟩⟩
    let tag := setTag [(.whitespace, " "), (.identifier, "x"), (.whitespace, " "), (.equals, "="),
      (.whitespace, " ")] (by decide)
    let r := readerOf setLanguage (some "t") source
    (lex .standard source).tokens = tag.opening :: (tag.behind ++ [⟨.raw, ⟨13, 19⟩, "\nhello"⟩]) ∧
      (∃ o, occurrence r ⟨7, 10⟩ = .ok o ∧ directiveArgs r tag.ident .assign o =
        .error (.error ⟨.invalidSource (.expected "token" none), some x, none⟩)) ∧
      Template.compile setLanguage (some "t") source =
        .error (.error ⟨.invalidSource (.expected "token" none), some x, some "t"⟩) ∧
      tag.span = ⟨0, 13⟩ ∧ ¬ x.span.Within tag.span ∧ ¬ x.Shows tag.span := by
  intro source x tag r
  have stands : (lex .standard source).tokens =
      [] ++ tag.opening :: (tag.behind ++ [⟨.raw, ⟨13, 19⟩, "\nhello"⟩]) := by
    decide
  obtain ⟨t, ps, args, -⟩ := exists_trimming_of_lex r tag stands
  have span : t.span = ⟨7, 10⟩ := args.symm
  have lexed : lexRegion .standard source ⟨7, 10⟩ = some ⟨[⟨.identifier, ⟨7, 8⟩, "x"⟩,
      ⟨.whitespace, ⟨8, 9⟩, " "⟩, ⟨.equals, ⟨9, 10⟩, "="⟩], none⟩ := by
    show lexRegion .standard "\x7b% set x = %\x7d\nhello" ⟨7, 10⟩ = _
    rfl
  have failed : directiveArgs r tag.ident .assign (t.occurrence r.identity) =
      .error (.error ⟨.invalidSource (.expected "token" none), some x, none⟩) := by
    have place : (t.occurrence r.identity).span = ⟨7, 10⟩ := span
    have same : lexRegion r.language.delimiters r.source = lexRegion .standard source := rfl
    simp only [directiveArgs, place, same, lexed]
    rfl
  have read := markup_of_directiveTag r.toSurroundings tag [⟨.raw, ⟨13, 19⟩, "\nhello"⟩]
  rw [args] at read
  have compiled := compile_of_statement (reached_first stands)
    (statement_eq_error t read (.single rfl rfl rfl) failed)
  have occurs := t.occurrence_eq r
  rw [span] at occurs
  have line : ¬ x.Shows tag.span := by
    rintro ⟨-, first, line, last, -, hline, hlast, -, le⟩
    have second : Excerpt.lineAt source 19 = some 1 := by decide +kernel
    have only : Excerpt.lineAt source 13 = some 0 := by decide +kernel
    cases second.symm.trans hline
    cases only.symm.trans hlast
    cases le
  have behind : ¬ x.span.Within tag.span := fun within => absurd within.2 (by decide)
  exact ⟨stands, ⟨_, occurs, failed⟩, compiled, rfl, behind, line⟩

end Parse

end Stencil
