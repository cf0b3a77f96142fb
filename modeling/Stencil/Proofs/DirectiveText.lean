import Stencil.Proofs.Regions

/-!
# The text of directives

A directive is handed the text behind its name in its tag, without blanks at its ends, and the place
where that text begins. The arguments are read from this region of the source by themselves.

- `Origin.locate_eq`: the line and the column behind a text.
- `Trimming`: a region of a text, cut into blanks, what stands between them, and blanks.
- `DirectiveTag`: a directive tag among the tokens of a source.
- `Parse.Handed`: what a directive is handed, and what is read from it.
- `Parse.handed_of_lex`: the directive of every tag is handed that.
-/

namespace Stencil

/-! ## Lines and columns -/

/-- The line is one more than the line feeds in the text, and the column one more than the
characters behind the last of them. -/
theorem Origin.locate_eq (cs : List Char) :
    locate cs = (cs.count '\n' + 1, (cs.rtakeWhile fun c => c != '\n').length + 1) := by
  induction cs using List.reverseRecOn with
  | nil => rfl
  | append_singleton cs c ih =>
    have next : locate (cs ++ [c]) =
        if c = '\n' then ((locate cs).1 + 1, 1) else ((locate cs).1, (locate cs).2 + 1) :=
      List.foldl_append ..
    rw [next, ih]
    by_cases feed : c = '\n'
    · rw [if_pos feed, List.rtakeWhile_concat_neg _ _ _ (by simp [feed])]
      simp [feed]
    · rw [if_neg feed, List.rtakeWhile_concat_pos _ _ _ (by simp [feed])]
      simp [feed]

/-! ## Texts without blanks at their ends -/

open Text (byteLength)

/-- A region of a text, cut into blanks, what stands between them, and blanks. If it has nothing
else, the blanks are those behind. -/
structure Trimming (cs : List Char) (region : Span) where
  before : List Char
  lead : List Char
  body : List Char
  trail : List Char
  after : List Char
  whole : cs = before ++ (lead ++ (body ++ (trail ++ after)))
  start : byteLength before = region.start
  stop : byteLength (before ++ (lead ++ (body ++ trail))) = region.stop
  lead_space : ∀ c ∈ lead, Lexer.isSpace c
  trail_space : ∀ c ∈ trail, Lexer.isSpace c
  starts : ∀ c ∈ body.head?, Lexer.isSpace c = false
  ends : ∀ c ∈ body.getLast?, Lexer.isSpace c = false
  lead_eq : body = [] → lead = []

namespace Trimming

variable {cs : List Char} {region : Span}

/-- The text before what stands between the blanks. -/
def upTo (t : Trimming cs region) : List Char := t.before ++ t.lead

/-- The place of what stands between the blanks. -/
def span (t : Trimming cs region) : Span :=
  ⟨byteLength t.upTo, byteLength t.upTo + byteLength t.body⟩

/-- The line and the column of what stands between the blanks. -/
def origin (t : Trimming cs region) (identity : String) : Origin :=
  ⟨identity, t.upTo.count '\n' + 1, (t.upTo.rtakeWhile fun c => c != '\n').length + 1⟩

/-- What stands between the blanks, as the text of a directive. -/
def occurrence (t : Trimming cs region) (identity : String) : Occurrence :=
  ⟨String.ofList t.body, t.span, t.origin identity⟩

theorem whole_eq (t : Trimming cs region) : t.upTo ++ t.body ++ (t.trail ++ t.after) = cs := by
  rw [upTo, List.append_assoc, List.append_assoc]
  exact t.whole.symm

/-- The text at the place is what stands between the blanks. -/
theorem slice_span (t : Trimming cs region) : Text.sliceChars t.span cs = some t.body := by
  have cut := Text.sliceChars_append t.upTo t.body (t.trail ++ t.after)
  rwa [t.whole_eq] at cut

theorem takeBytes_start (t : Trimming cs region) :
    Text.takeBytes t.span.start cs = some t.upTo := by
  have taken := Text.takeBytes_append t.upTo (t.body ++ (t.trail ++ t.after))
  rwa [← List.append_assoc, t.whole_eq] at taken

/-- The directive at the place is that of the text. -/
theorem occurrence_eq (r : Parse.Reader) (t : Trimming r.source.toList region) :
    Parse.occurrence r t.span = .ok (t.occurrence r.identity) := by
  have text : Text.slice t.span r.source = some (String.ofList t.body) :=
    congrArg (Option.map String.ofList) t.slice_span
  have place : Origin.at? r.identity r.source t.span.start = some (t.origin r.identity) := by
    rw [Origin.at?, t.takeBytes_start, Option.map_some, Origin.locate_eq]
    rfl
  rw [Parse.occurrence, text, place]
  rfl

end Trimming

/-! ## The place of the arguments -/

/-- Tokens without the blanks inside tags. -/
def Token.withoutBlanks (ts : List Token) : List Token := ts.filter fun t => t.kind != .whitespace

theorem Token.withoutBlanks_append (ts us : List Token) :
    withoutBlanks (ts ++ us) = withoutBlanks ts ++ withoutBlanks us := List.filter_append ..

/-- Tokens that are left of some stand among these. -/
theorem Token.exists_append_of_suffix {t : Token} {ts us : List Token}
    (h : t :: ts <:+ withoutBlanks us) :
    ∃ before after, us = before ++ t :: after ∧ withoutBlanks after = ts := by
  obtain ⟨front, eq⟩ := h
  obtain ⟨before, rest, rfl, -, kept⟩ := List.filter_eq_append_iff.1 eq.symm
  obtain ⟨blanks, after, rfl, -, -, kept⟩ := List.filter_eq_cons_iff.1 kept
  exact ⟨before ++ blanks, after, by rw [List.append_assoc], kept⟩

/-- Between two tokens that are next to each other without the blanks, there are blanks only. -/
theorem Token.exists_append_of_pair {t u : Token} {ts : List Token}
    (h : [t, u] <:+: withoutBlanks ts) : ∃ before blanks after,
      ts = before ++ t :: (blanks ++ u :: after) ∧ ∀ b ∈ blanks, b.kind = .whitespace := by
  obtain ⟨front, rear, eq⟩ := h
  have suffix : t :: u :: rear <:+ withoutBlanks ts := ⟨front, by rw [← eq]; simp⟩
  obtain ⟨before, rest, rfl, kept⟩ := exists_append_of_suffix suffix
  obtain ⟨blanks, after, rfl, blank, -, -⟩ := List.filter_eq_cons_iff.1 kept
  exact ⟨before, blanks, after, rfl, fun b mem => by simpa using blank b mem⟩

/-- Blanks at the ends of a list are cut off; if it has nothing else, they are those behind. -/
theorem exists_split {α : Type} (blank : α → Bool) (xs : List α) :
    ∃ lead body trail, xs = lead ++ (body ++ trail) ∧ (∀ x ∈ lead, blank x) ∧
      (∀ x ∈ trail, blank x) ∧ (∀ x ∈ body.head?, blank x = false) ∧
      (∀ x ∈ body.getLast?, blank x = false) ∧ (body = [] → lead = []) := by
  induction xs with
  | nil => exact ⟨[], [], [], rfl, nofun, nofun, nofun, nofun, fun _ => rfl⟩
  | cons x xs ih =>
    obtain ⟨lead, body, trail, rfl, hlead, htrail, head, last, empty⟩ := ih
    cases body with
    | nil =>
      cases empty rfl
      by_cases hx : blank x
      · exact ⟨[], [], x :: trail, rfl, nofun, List.forall_mem_cons.2 ⟨hx, htrail⟩, nofun, nofun,
          fun _ => rfl⟩
      · have solid : ∀ y ∈ some x, blank y = false := by
          rintro y ⟨⟩
          simpa using hx
        exact ⟨[], [x], trail, rfl, nofun, htrail, solid, solid, fun _ => rfl⟩
    | cons y body =>
      by_cases hx : blank x
      · exact ⟨x :: lead, y :: body, trail, rfl, List.forall_mem_cons.2 ⟨hx, hlead⟩, htrail, head,
          last, nofun⟩
      · refine ⟨[], x :: (lead ++ y :: body), trail, by simp, nofun, htrail, ?_, ?_, nofun⟩
        · rintro z ⟨⟩
          simpa using hx
        · intro z mem
          rw [← List.cons_append, List.getLast?_append_of_ne_nil _ (List.cons_ne_nil y body)] at mem
          exact last z mem

namespace Parse

/-- A place of arguments with one more token; an empty one is replaced. -/
def widen (raw : Span) (t : Token) : Span := if raw.isEmpty then t.span else raw.join t.span

/-- The place of the arguments up to a closing delimiter. -/
theorem rawArgs_append {s : Surroundings} {close : Token} {ts us : List Token} (raw : Span)
    (goesOn : ∀ t ∈ ts, t.kind ≠ .closing .block) (closes : close.kind = .closing .block) :
    rawArgs s raw (ts ++ close :: us) = .ok ((ts.foldl widen raw, close.span), us) := by
  induction ts generalizing raw with
  | nil => rw [List.nil_append, rawArgs, if_pos closes]; rfl
  | cons t ts ih =>
    obtain ⟨first, others⟩ := List.forall_mem_cons.1 goesOn
    rw [List.cons_append, rawArgs, if_neg first, List.foldl_cons]
    exact ih _ others

end Parse

namespace Lexer.Strung

open Parse (widen)

variable {d : Delimiters} {behind : List Char} {depth : Nat} {path : Bool} {p : Tile}
  {ps : List Tile} {n : Nat}

theorem withoutBlanks_cons (n : Nat) (p : Tile) (ps : List Tile) :
    Token.withoutBlanks (Tile.tokens n (p :: ps)) =
      if p.isBlank then Token.withoutBlanks (Tile.tokens (n + byteLength p.chars) ps)
      else p.token n :: Token.withoutBlanks (Tile.tokens (n + byteLength p.chars) ps) := by
  by_cases blank : p.isBlank
  · have kind : (p.token n).kind = .whitespace := of_decide_eq_true blank
    rw [if_pos blank, Token.withoutBlanks, Tile.tokens, List.filter_cons_of_neg (by simp [kind])]
    rfl
  · have kind : (p.token n).kind ≠ .whitespace := fun h => blank (decide_eq_true h)
    rw [if_neg blank, Token.withoutBlanks, Tile.tokens, List.filter_cons_of_pos (by simp [kind])]
    rfl

theorem withoutBlanks_of_isBlank (blank : ∀ p ∈ ps, p.isBlank) :
    Token.withoutBlanks (Tile.tokens n ps) = [] := by
  induction ps generalizing n with
  | nil => rfl
  | cons p ps ih =>
    obtain ⟨first, others⟩ := List.forall_mem_cons.1 blank
    rw [withoutBlanks_cons, if_pos first]
    exact ih others

/-- A place grows up to the end of tiles of which the last one is not blank. -/
theorem foldl_widen {start stop : Nat} (h : Strung d behind depth path ps) (ne : ps ≠ [])
    (solid : ∀ p ∈ ps.getLast?, p.isBlank = false) (lt : start < stop) (le : stop ≤ n) :
    (Token.withoutBlanks (Tile.tokens n ps)).foldl widen ⟨start, stop⟩ =
      ⟨start, n + byteLength (Tile.source ps)⟩ := by
  -- on the tiles; the place is that of what has been read, up to the last tile that is not blank
  induction h generalizing stop n with
  | nil => exact absurd rfl ne
  | @cons depth path kind word ps free read h ih =>
    have pos : 0 < byteLength word := Text.byteLength_pos (lexeme_ne_nil read)
    have grown : widen ⟨start, stop⟩ ((Tile.whole (.inside kind) word).token n) =
        ⟨start, n + byteLength word⟩ := by
      have full : (⟨start, stop⟩ : Span).isEmpty = false := decide_eq_false (Nat.not_le.2 lt)
      rw [widen, full, if_neg Bool.false_ne_true, Span.join, Span.mk.injEq]
      exact ⟨Nat.min_eq_left (show start ≤ n by omega),
        Nat.max_eq_right (show stop ≤ n + byteLength word by omega)⟩
    rw [withoutBlanks_cons, Tile.source_cons, Tile.chars_whole, Text.byteLength_append,
      ← Nat.add_assoc]
    by_cases last : ps = []
    · subst last
      rw [if_neg (by simpa using solid _ rfl), List.foldl_cons, grown]
      rfl
    · have solid' : ∀ p ∈ ps.getLast?, p.isBlank = false := by
        rw [List.getLast?_cons_of_ne_nil last] at solid
        exact solid
      split
      · exact ih last solid' lt (by omega)
      · rw [List.foldl_cons, grown]
        exact ih last solid' (by omega) (Nat.le_refl _)

/-- The place of tiles of which neither the first nor the last one is blank. -/
theorem foldl_widen_point {i : Nat} (h : Strung d behind depth path ps) (ne : ps ≠ [])
    (starts : ∀ p ∈ ps.head?, p.isBlank = false) (ends : ∀ p ∈ ps.getLast?, p.isBlank = false) :
    (Token.withoutBlanks (Tile.tokens n ps)).foldl widen (Span.point i) =
      ⟨n, n + byteLength (Tile.source ps)⟩ := by
  cases h with
  | nil => exact absurd rfl ne
  | @cons _ _ kind word ps free read h =>
    have first : (Tile.whole (.inside kind) word).isBlank = false := starts _ rfl
    have pos : 0 < byteLength word := Text.byteLength_pos (lexeme_ne_nil read)
    have replaced : widen (Span.point i) ((Tile.whole (.inside kind) word).token n) =
        ⟨n, n + byteLength word⟩ := if_pos (decide_eq_true (Nat.le_refl i))
    rw [withoutBlanks_cons, if_neg (by simp [first]), List.foldl_cons, replaced, Tile.source_cons,
      Tile.chars_whole, Text.byteLength_append, ← Nat.add_assoc]
    by_cases last : ps = []
    · subst last
      rfl
    · rw [List.getLast?_cons_of_ne_nil last] at ends
      exact foldl_widen h last ends (by omega) (Nat.le_refl _)

end Lexer.Strung

/-! ## What directives are handed -/

/-- A directive tag among the tokens of a source: its delimiters, the name with the blanks before
it, and what stands behind the name. -/
structure DirectiveTag where
  opening : Token
  blanks : List Token
  name : Token
  inside : List Token
  closing : Token
  opens : opening.kind = .opening .block
  blank : ∀ t ∈ blanks, t.kind = .whitespace
  named : name.kind = .identifier
  goesOn : ∀ t ∈ inside, t.kind ≠ .closing .block
  closes : closing.kind = .closing .block

namespace DirectiveTag

variable (tag : DirectiveTag)

/-- The tokens behind the opening delimiter. -/
def behind : List Token := tag.blanks ++ tag.name :: (tag.inside ++ [tag.closing])

/-- The name of the directive. -/
def ident : Ident := ⟨tag.name.text, tag.name.span⟩

/-- What stands between the name and the closing delimiter. -/
def region : Span := ⟨tag.name.span.stop, tag.closing.span.start⟩

/-- The whole tag. -/
def span : Span := tag.opening.span.join tag.closing.span

theorem withoutBlanks_behind (after : List Token) :
    Token.withoutBlanks (tag.behind ++ after) =
      tag.name :: (Token.withoutBlanks tag.inside ++ tag.closing :: Token.withoutBlanks after) := by
  have blanks : tag.blanks.filter (fun t => t.kind != .whitespace) = [] :=
    List.filter_eq_nil_iff.2 fun t mem => by simp [tag.blank t mem]
  rw [Token.withoutBlanks, behind, List.append_assoc, List.filter_append, blanks, List.nil_append,
    List.cons_append, List.filter_cons_of_pos (by simp [tag.named]), List.append_assoc,
    List.filter_append, List.singleton_append, List.filter_cons_of_pos (by simp [tag.closes])]
  rfl

end DirectiveTag

namespace Parse

variable {r : Reader} {b : Builder} {name : Ident} {raw span : Span} {o : Occurrence}

/-- What is done with the directive of a tag that ends the innermost block. -/
def closingHandler? (r : Reader) (b : Builder) (name : Ident) :
    Option (Occurrence → Span → Except Failure Builder) :=
  match b.blocks with
  | .paired start stop before :: rest =>
    if name.name = "end" ++ start.name.name then
      some fun o span => (directive r stop name o span).map fun d =>
        ⟨.block start b.current.reverse d :: before, rest⟩
    else none
  | .cached start before :: rest =>
    if name.name = "end" ++ start.name.name then
      some fun o span => (invocation r name .bare o span).map fun i =>
        ⟨.cached start b.current.reverse i :: before, rest⟩
    else none
  | _ => none

/-- What is done with the directive of a tag: it is compiled, or its arguments are read right away,
and the statement takes its place in the builder. Nothing is done where no directive is known by the
name. -/
def handler? (r : Reader) (b : Builder) (name : Ident) :
    Option (Occurrence → Span → Except Failure Builder) :=
  match closingHandler? r b name with
  | some handle => some handle
  | none =>
    match Dict.get? name.name r.language.directives with
    | some (.single compile) =>
      some fun o span => (directive r compile name o span).map fun d => b.add (.directive d)
    | some (.paired start stop) =>
      some fun o span => (directive r start name o span).map fun d =>
        ⟨[], .paired d stop b.current :: b.blocks⟩
    | some .cached =>
      some fun o span => (invocation r name .call o span).map fun i =>
        ⟨[], .cached i b.current :: b.blocks⟩
    | none => none

theorem bind_ok_eq_map {α β : Type} (m : Except Failure α) (f : α → β) :
    (m >>= fun a => .ok (f a)) = m.map f := by
  cases m <;> rfl

/-- The end of a block does with its directive what is to be done. -/
theorem closeDirective?_eq (occurs : occurrence r raw = .ok o) :
    closeDirective? r b name raw span =
      (closingHandler? r b name).map fun handle => handle o span := by
  obtain ⟨current, blocks⟩ := b
  cases blocks with
  | nil => rfl
  | cons block rest =>
    cases block with
    | paired start stop before =>
      simp only [closeDirective?, closingHandler?, occurs]
      split
      · exact congrArg some (bind_ok_eq_map _ _)
      · rfl
    | cached start before =>
      simp only [closeDirective?, closingHandler?, occurs]
      split
      · exact congrArg some (bind_ok_eq_map _ _)
      · rfl
    | _ => rfl

/-- A directive tag does with its directive what is to be done. -/
theorem applyDirective_eq {handle : Occurrence → Span → Except Failure Builder}
    (occurs : occurrence r raw = .ok o) (found : handler? r b name = some handle) :
    applyDirective r b name raw span = handle o span := by
  unfold handler? at found
  rw [applyDirective, closeDirective?_eq occurs]
  split at found
  · next handle' closing =>
    cases found
    rw [closing]
    rfl
  · next closing =>
    rw [closing]
    simp only [Option.map_none, occurs]
    cases known : Dict.get? name.name r.language.directives with
    | none =>
      rw [known] at found
      cases found
    | some d =>
      rw [known] at found
      cases d with
      | single compile =>
        cases found
        exact bind_ok_eq_map _ _
      | paired start stop =>
        cases found
        exact bind_ok_eq_map _ _
      | cached =>
        cases found
        exact bind_ok_eq_map _ _

/-- What the directive of a tag is handed, and what is read from it. -/
structure Handed (r : Reader) (tag : DirectiveTag) (after : List Token) (o : Occurrence) :
    Prop where
  /-- It is what stands at its place. -/
  occurs : occurrence r o.span = .ok o
  /-- The parser finds the name and the place in the tag, and goes on behind it. -/
  read : markup r.toSurroundings tag.opening (Token.withoutBlanks (tag.behind ++ after)) =
    .ok (.directive tag.ident o.span tag.span, Token.withoutBlanks after)
  /-- It is handed to what is to be done with the directive. -/
  handled : ∀ b handle, handler? r b tag.ident = some handle →
    statement r b tag.opening (Token.withoutBlanks (tag.behind ++ after)) =
      (handle o tag.span).map fun b' => (b', Token.withoutBlanks after)
  /-- Its place, read by itself, has the tokens that are seen in the tag, and no failure. -/
  again : ∃ lead ts trail, tag.inside = lead ++ (ts ++ trail) ∧
    (∀ t ∈ lead, t.kind = .whitespace) ∧ (∀ t ∈ trail, t.kind = .whitespace) ∧
    (∀ t ∈ ts, t.span.Within o.span) ∧
    lexRegion r.language.delimiters r.source o.span = some ⟨ts, none⟩

end Parse

namespace Tile

variable {n : Nat} {ps : List Tile} {ts us : List Token}

/-- Tokens of tiles are cut where the tiles are. -/
theorem exists_append_of_tokens (h : tokens n ps = ts ++ us) :
    ∃ ps₁ ps₂, ps = ps₁ ++ ps₂ ∧ ts = tokens n ps₁ ∧
      us = tokens (n + byteLength (source ps₁)) ps₂ := by
  induction ts generalizing n ps with
  | nil => exact ⟨[], ps, rfl, rfl, h.symm⟩
  | cons t ts ih =>
    cases ps with
    | nil => cases h
    | cons p ps =>
      obtain ⟨rfl, tail⟩ := List.cons.inj h
      obtain ⟨ps₁, ps₂, rfl, rfl, rfl⟩ := ih tail
      refine ⟨p :: ps₁, ps₂, rfl, rfl, ?_⟩
      rw [source_cons, Text.byteLength_append, Nat.add_assoc]

theorem isBlank_of_tokens (h : ∀ t ∈ tokens n ps, t.kind = .whitespace) : ∀ p ∈ ps, p.isBlank := by
  induction ps generalizing n with
  | nil => exact nofun
  | cons p ps ih =>
    obtain ⟨first, others⟩ := List.forall_mem_cons.1 h
    exact List.forall_mem_cons.2 ⟨decide_eq_true first, ih others⟩

theorem kind_of_isBlank (h : ∀ p ∈ ps, p.isBlank) : ∀ t ∈ tokens n ps, t.kind = .whitespace := by
  induction ps generalizing n with
  | nil => exact nofun
  | cons p ps ih =>
    obtain ⟨first, others⟩ := List.forall_mem_cons.1 h
    exact List.forall_mem_cons.2 ⟨of_decide_eq_true first, ih others⟩

theorem within_of_mem_tokens {t : Token} (mem : t ∈ tokens n ps) :
    t.span.Within ⟨n, n + byteLength (source ps)⟩ := by
  induction ps generalizing n with
  | nil => cases mem
  | cons p ps ih =>
    rw [source_cons, Text.byteLength_append]
    rcases List.mem_cons.1 mem with rfl | mem
    · have stop : (p.token n).span.stop = n + byteLength p.lead + byteLength p.kept := rfl
      have length : byteLength p.chars =
          byteLength p.lead + (byteLength p.kept + byteLength p.trail) := by
        rw [chars, Text.byteLength_append, Text.byteLength_append]
      refine ⟨Nat.le_add_right _ _, ?_⟩
      show (p.token n).span.stop ≤ n + (byteLength p.chars + byteLength (source ps))
      omega
    · obtain ⟨start, stop⟩ := ih mem
      exact ⟨Nat.le_trans (Nat.le_add_right _ _) start, by rw [← Nat.add_assoc]; exact stop⟩

end Tile

namespace Parse

open Lexer (Strung)

variable {r : Reader} {tag : DirectiveTag} {before after : List Token}

/-- Behind the name of a tag, the source goes on with tiles that are read one after the other. -/
theorem exists_strung_of_lex
    (stands : (lex r.language.delimiters r.source).tokens =
      before ++ tag.opening :: (tag.behind ++ after)) :
    ∃ upTo ps behind, r.source.toList = upTo ++ (Tile.source ps ++ behind) ∧
      byteLength upTo = tag.name.span.stop ∧
      byteLength upTo + byteLength (Tile.source ps) = tag.closing.span.start ∧
      tag.inside = Tile.tokens (byteLength upTo) ps ∧
      Strung r.language.delimiters behind 0 false ps := by
  have start : r.source.toList = [] ++ r.source.toList := rfl
  obtain ⟨m, upTo, trims, rest, whole, offset, inside⟩ :=
    Lexer.exists_inside_of_run stands tag.opens start rfl
  have split : tag.behind ++ after =
      (tag.blanks ++ tag.name :: tag.inside) ++ tag.closing :: after := by
    simp [DirectiveTag.behind]
  have goesOn : ∀ t ∈ tag.blanks ++ tag.name :: tag.inside, t.kind ≠ .closing .block := by
    intro t mem
    rcases List.mem_append.1 mem with mem | mem
    · simp [tag.blank t mem]
    rcases List.mem_cons.1 mem with rfl | mem
    · simp [tag.named]
    · exact tag.goesOn t mem
  rw [split] at inside
  obtain ⟨ps, behind, rfl, tokens, strung, stop⟩ :=
    Lexer.exists_strung_of_run inside goesOn tag.closes
  -- the tiles are the blanks, the name, and what stands behind it
  obtain ⟨bs, qs, rfl, blanks, tokens⟩ := Tile.exists_append_of_tokens tokens.symm
  cases qs with
  | nil => cases tokens
  | cons p ps =>
    obtain ⟨name, tokens⟩ := List.cons.inj tokens
    have blank : ∀ p ∈ bs, p.isBlank :=
      Tile.isBlank_of_tokens fun t mem => tag.blank t (blanks ▸ mem)
    have named : p.role.kind = .identifier := by
      rw [← tag.named, name]
      rfl
    have strung' := strung.of_blanks blank
    obtain ⟨kind, word, path, cs, rfl, read⟩ := strung'.exists_read List.mem_cons_self
    have length : byteLength (upTo ++ (Tile.source bs ++ word)) = tag.name.span.stop := by
      rw [name, Text.byteLength_append, Text.byteLength_append, offset, ← Nat.add_assoc]
      rfl
    refine ⟨upTo ++ (Tile.source bs ++ word), ps, behind, ?_, length, ?_, ?_,
      strung'.of_name named⟩
    · rw [whole, Tile.source_append, Tile.source_cons, Tile.chars_whole]
      simp only [List.append_assoc]
    · rw [stop, ← offset, Tile.source_append, Tile.source_cons, Tile.chars_whole]
      simp only [Text.byteLength_append, Nat.add_assoc]
    · rw [tokens, ← offset, Tile.chars_whole]
      simp only [Text.byteLength_append, Nat.add_assoc]

/-- The parser finds the name of a directive and the place of its text in the tag. -/
theorem markup_of_directiveTag (s : Surroundings) (tag : DirectiveTag) (after : List Token) :
    markup s tag.opening (Token.withoutBlanks (tag.behind ++ after)) =
      .ok (.directive tag.ident
        ((Token.withoutBlanks tag.inside).foldl widen (Span.point tag.name.span.stop)) tag.span,
        Token.withoutBlanks after) := by
  have goesOn : ∀ t ∈ Token.withoutBlanks tag.inside, t.kind ≠ .closing .block :=
    fun t mem => tag.goesOn t (List.mem_of_mem_filter mem)
  have next : isNext s .identifier (Token.withoutBlanks (tag.behind ++ after)) = .ok true := by
    rw [tag.withoutBlanks_behind, isNext, next?]
    simp [Except.map, tag.named]
  have named : ident s (Token.withoutBlanks (tag.behind ++ after)) =
      .ok (tag.ident, Token.withoutBlanks tag.inside ++
        tag.closing :: Token.withoutBlanks after) := by
    rw [tag.withoutBlanks_behind, ident, expect, next?]
    simp [bind, Except.bind, tag.named, DirectiveTag.ident]
  simp only [markup, tag.opens, next, named, bind, Except.bind, if_true]
  rw [rawArgs_append _ goesOn tag.closes]
  rfl

/-- Tiles between two offsets, of which the outer ones are blank, cut the text there. -/
theorem exists_trimming {d : Delimiters} {cs upTo behind : List Char} (region : Span)
    {depth : Nat} {path : Bool} {lead body trail : List Tile}
    (strung : Strung d behind depth path (lead ++ (body ++ trail)))
    (whole : cs = upTo ++ (Tile.source (lead ++ (body ++ trail)) ++ behind))
    (start : byteLength upTo = region.start)
    (stop : byteLength upTo + byteLength (Tile.source (lead ++ (body ++ trail))) = region.stop)
    (hlead : ∀ p ∈ lead, p.isBlank) (htrail : ∀ p ∈ trail, p.isBlank)
    (head : ∀ p ∈ body.head?, p.isBlank = false) (last : ∀ p ∈ body.getLast?, p.isBlank = false)
    (empty : body = [] → lead = []) :
    ∃ t : Trimming cs region, t.upTo = upTo ++ Tile.source lead ∧ t.body = Tile.source body ∧
      t.trail ++ t.after = Tile.source trail ++ behind := by
  rw [Tile.source_append, Tile.source_append] at whole stop
  refine ⟨⟨upTo, Tile.source lead, Tile.source body, Tile.source trail, behind, ?_, start, ?_, ?_,
    ?_, ?_, ?_, ?_⟩, rfl, rfl, rfl⟩
  · rw [whole]
    simp only [List.append_assoc]
  · rw [Text.byteLength_append, stop]
  · exact strung.isSpace_of_isBlank fun p mem => ⟨by simp [mem], hlead p mem⟩
  · exact strung.isSpace_of_isBlank fun p mem => ⟨by simp [mem], htrail p mem⟩
  · exact strung.isSpace_head fun p mem => ⟨by simp [List.mem_of_mem_head? mem], head p mem⟩
  · exact strung.isSpace_getLast fun p mem =>
      ⟨by simp [List.mem_of_mem_getLast? mem], last p mem⟩
  · intro none
    have none : body = [] := List.eq_nil_iff_forall_not_mem.2 fun p mem =>
      strung.chars_ne_nil (by simp [mem]) (List.flatMap_eq_nil_iff.1 none p mem)
    rw [empty none]
    rfl

/-- The place of the arguments of a tag is what stands between the blanks behind its name, and there
the source goes on with tiles that are read one after the other. -/
theorem exists_trimming_of_lex (r : Reader) (tag : DirectiveTag)
    (stands : (lex r.language.delimiters r.source).tokens =
      before ++ tag.opening :: (tag.behind ++ after)) :
    ∃ (t : Trimming r.source.toList tag.region) (ps : List Tile),
      (Token.withoutBlanks tag.inside).foldl widen (Span.point tag.name.span.stop) = t.span ∧
      t.body = Tile.source ps ∧
      Strung r.language.delimiters (t.trail ++ t.after) 0 false ps ∧
      ∃ lead trail, tag.inside = lead ++ (Tile.tokens t.span.start ps ++ trail) ∧
        (∀ u ∈ lead, u.kind = .whitespace) ∧ ∀ u ∈ trail, u.kind = .whitespace := by
  obtain ⟨upTo, ps, behind, whole, start, stop, inside, strung⟩ := exists_strung_of_lex stands
  obtain ⟨lead, body, trail, rfl, hlead, htrail, head, last, empty⟩ := exists_split Tile.isBlank ps
  obtain ⟨t, upTo_eq, body_eq, beyond⟩ :=
    exists_trimming tag.region strung whole start stop hlead htrail head last empty
  have span : t.span = ⟨byteLength upTo + byteLength (Tile.source lead),
      byteLength upTo + byteLength (Tile.source lead) + byteLength (Tile.source body)⟩ := by
    rw [Trimming.span, upTo_eq, body_eq, Text.byteLength_append]
  have region : Strung r.language.delimiters (Tile.source trail ++ behind) 0 false body :=
    (strung.of_blanks hlead).left
  refine ⟨t, body, ?_, body_eq, beyond ▸ region, Tile.tokens (byteLength upTo) lead,
    Tile.tokens (t.span.start + byteLength (Tile.source body)) trail, ?_,
    Tile.kind_of_isBlank hlead, Tile.kind_of_isBlank htrail⟩
  · rw [inside, Tile.tokens_append, Tile.tokens_append, Token.withoutBlanks_append,
      Token.withoutBlanks_append, Strung.withoutBlanks_of_isBlank hlead,
      Strung.withoutBlanks_of_isBlank htrail, List.nil_append, List.append_nil, span]
    by_cases none : body = []
    · rw [none, empty none, ← start]
      rfl
    · exact region.foldl_widen_point none head last
  · rw [inside, Tile.tokens_append, Tile.tokens_append, span]

/-- Read by itself, the place has the tokens of the tiles, and no failure. -/
theorem lexRegion_of_trimming {d : Delimiters} {source : String} {region : Span}
    (t : Trimming source.toList region) {ps : List Tile} (body : t.body = Tile.source ps)
    (strung : Strung d (t.trail ++ t.after) 0 false ps) :
    lexRegion d source t.span = some ⟨Tile.tokens t.span.start ps, none⟩ := by
  have whole := t.whole_eq.symm
  rw [body, List.append_assoc] at whole
  rw [Trimming.span, body]
  exact lexRegion_of_strung whole strung

/-- The directive of a tag is handed the text behind its name up to the end of the tag, without
blanks at its ends, and the line and the column at which it begins. Read by itself, the place of the
text has the tokens that are seen in the tag, and no others. -/
theorem handed_of_lex (r : Reader) (tag : DirectiveTag) {before after : List Token}
    (stands : (lex r.language.delimiters r.source).tokens =
      before ++ tag.opening :: (tag.behind ++ after)) :
    ∃ t : Trimming r.source.toList tag.region, Handed r tag after (t.occurrence r.identity) := by
  obtain ⟨t, ps, args, body, strung, lead, trail, inside, hlead, htrail⟩ :=
    exists_trimming_of_lex r tag stands
  have occurs := t.occurrence_eq r
  have read := markup_of_directiveTag r.toSurroundings tag after
  rw [args] at read
  refine ⟨t, occurs, read, ?_, lead, Tile.tokens t.span.start ps, trail, inside, hlead, htrail, ?_,
    lexRegion_of_trimming t body strung⟩
  · intro b handle found
    rw [statement_eq, read]
    show (applyDirective r b tag.ident t.span tag.span).map _ = _
    rw [applyDirective_eq occurs found]
  · intro u mem
    have within := Tile.within_of_mem_tokens mem
    rwa [← body] at within

/-- A tag with a map in a map, the inner end of which looks like the end of an expression, and with
the end of a tag in a string. -/
def probeTag : DirectiveTag where
  opening := ⟨.opening .block, ⟨3, 5⟩, "\x7b%"⟩
  blanks := [⟨.whitespace, ⟨5, 7⟩, "  "⟩]
  name := ⟨.identifier, ⟨7, 12⟩, "probe"⟩
  inside := Tile.tokens 12 ([(.whitespace, " \r"), (.leftBrace, "\x7b"), (.identifier, "a"),
    (.colon, ":"), (.string, "\"%\x7d\""), (.comma, ","), (.whitespace, "\n"), (.identifier, "b"),
    (.colon, ":"), (.leftBrace, "\x7b"), (.identifier, "c"), (.colon, ":"), (.identifier, "x"),
    (.dot, "."), (.index, "0"), (.rightBrace, "\x7d"), (.rightBrace, "\x7d"),
    (.whitespace, "\n\t")].map fun w => .whole (.inside w.1) w.2.toList)
  closing := ⟨.closing .block, ⟨35, 38⟩, "-%\x7d"⟩
  opens := rfl
  blank := by decide
  named := rfl
  goesOn := by decide
  closes := rfl

/-- The text of the directive begins in the second line, behind a character of two bytes and a
carriage return. -/
theorem handed_of_lex_probe :
    let source := "é\n\x7b%  probe \r\x7ba:\"%\x7d\",\nb:\x7bc:x.0\x7d\x7d\n\t-%\x7d z"
    let r : Reader := ⟨⟨source, none⟩, ⟨.standard, []⟩, "t"⟩
    (lex .standard r.source).tokens =
        [⟨.raw, ⟨0, 3⟩, "é\n"⟩] ++
          probeTag.opening :: (probeTag.behind ++ [⟨.raw, ⟨39, 40⟩, "z"⟩]) ∧
      ∃ o, Handed r probeTag [⟨.raw, ⟨39, 40⟩, "z"⟩] o ∧
        o.raw = "\x7ba:\"%\x7d\",\nb:\x7bc:x.0\x7d\x7d" ∧ o.origin = ⟨"t", 2, 12⟩ := by
  intro source r
  have stands : (lex .standard r.source).tokens =
      [⟨.raw, ⟨0, 3⟩, "é\n"⟩] ++
        probeTag.opening :: (probeTag.behind ++ [⟨.raw, ⟨39, 40⟩, "z"⟩]) := by
    decide
  obtain ⟨t, handed⟩ := handed_of_lex r probeTag stands
  have read := handed.read
  rw [markup_of_directiveTag] at read
  have span : (t.occurrence r.identity).span = ⟨14, 33⟩ := by
    injection read with read
    injection read with read
    injection read with _ span
    exact span.symm
  have occurs := handed.occurs
  rw [span] at occurs
  have found : occurrence r ⟨14, 33⟩ =
      .ok ⟨"\x7ba:\"%\x7d\",\nb:\x7bc:x.0\x7d\x7d", ⟨14, 33⟩, ⟨"t", 2, 12⟩⟩ := by
    have text : Text.slice ⟨14, 33⟩ r.source =
        some "\x7ba:\"%\x7d\",\nb:\x7bc:x.0\x7d\x7d" := by
      decide +kernel
    have origin : Origin.at? r.identity r.source 14 = some ⟨"t", 2, 12⟩ := by
      decide +kernel
    rw [occurrence, text, origin]
  have same := Except.ok.inj (occurs.symm.trans found)
  exact ⟨stands, _, handed, congrArg Occurrence.raw same, congrArg Occurrence.origin same⟩

end Parse

end Stencil
