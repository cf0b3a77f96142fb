import Mathlib.Data.List.Basic
import Mathlib.Data.List.TakeWhile
import Stencil.Proofs.Lexemes

/-!
# Tokens tile the source

A source that is read to its end is a row of tiles: template text, tags, what stands inside of them,
and the text of comments. Every tile has one token. Only template text may lose blanks, at its start
if the tag before it trims and at its end if the tag behind it trims.

- `Tile`: a stretch of source, the blanks left out at its ends and what is kept of it.
- `Tile.count_tiles`: every byte of some tiles is in just one of their tokens and gaps.
- `Tile.Arranged`: tiles that follow one another the way tags and text do.
- `Lexer.exists_tiles_of_step`, `Lexer.exists_tiles_of_run`: what is read is arranged.
- `Tiled`, `lex_tiled`: the tokens of a source are those of tiles that make it up.
-/

namespace Stencil

/-! ## Blanks at the ends of a text -/

namespace Text

variable {cs ds : List Char} {c : Char}

/-- The text does not end in a blank. -/
def EndsFirmly (cs : List Char) : Prop := ∀ c ∈ cs.getLast?, isBlank c = false

theorem endsFirmly_nil : EndsFirmly [] := by
  intro c last
  cases last

theorem endsFirmly_trimEnd (cs : List Char) : EndsFirmly (trimEnd cs) := by
  induction cs with
  | nil => exact endsFirmly_nil
  | cons c cs ih =>
    rw [trimEnd]
    cases eq : trimEnd cs with
    | nil =>
      dsimp only
      split
      · exact endsFirmly_nil
      · next solid =>
        intro d last
        cases last
        simpa using solid
    | cons d ds =>
      dsimp only
      rw [EndsFirmly, List.getLast?_cons_cons, ← eq]
      exact ih

theorem trimEnd_of_endsFirmly (h : EndsFirmly cs) : trimEnd cs = cs := by
  obtain ⟨blanks, eq, blank⟩ := exists_trimEnd_append cs
  cases none : blanks.getLast? with
  | none =>
    rw [List.getLast?_eq_none_iff.1 none, List.append_nil] at eq
    exact eq.symm
  | some c =>
    have last : c ∈ cs.getLast? := by
      rw [eq]
      exact List.mem_getLast?_append_of_mem_getLast? none
    have solid := h c last
    rw [blank c (List.mem_of_getLast? none)] at solid
    cases solid

theorem trimEnd_append_of_eq_nil (h : trimEnd ds = []) : trimEnd (cs ++ ds) = trimEnd cs := by
  induction cs with
  | nil => exact h
  | cons c cs ih => rw [List.cons_append, trimEnd, trimEnd, ih]

theorem trimEnd_append_of_ne_nil (h : trimEnd ds ≠ []) : trimEnd (cs ++ ds) = cs ++ trimEnd ds := by
  induction cs with
  | nil => rfl
  | cons c cs ih =>
    obtain ⟨e, es, eq⟩ := List.exists_cons_of_ne_nil (List.append_ne_nil_of_right_ne_nil cs h)
    rw [List.cons_append, trimEnd, ih, eq, List.cons_append, eq]

/-- Blanks at the end of a text are those of its last part, if no blanks stand before that. -/
theorem trimEnd_append (h : EndsFirmly cs) : trimEnd (cs ++ ds) = cs ++ trimEnd ds := by
  by_cases blank : trimEnd ds = []
  · rw [trimEnd_append_of_eq_nil blank, trimEnd_of_endsFirmly h, blank, List.append_nil]
  · exact trimEnd_append_of_ne_nil blank

theorem endsFirmly_append (h : EndsFirmly ds) (ne : ds ≠ []) : EndsFirmly (cs ++ ds) := by
  intro c last
  rw [List.getLast?_append_of_ne_nil cs ne] at last
  exact h c last

/-- The text does not start with a blank. -/
def StartsFirmly (cs : List Char) : Prop := ∀ c ∈ cs.head?, isBlank c = false

theorem startsFirmly_trimStart (cs : List Char) : StartsFirmly (trimStart cs) := by
  intro c first
  have solid := List.head?_dropWhile_not isBlank cs
  rw [← trimStart, Option.mem_def.1 first] at solid
  exact solid

theorem endsFirmly_of_append (h : EndsFirmly (cs ++ ds)) : EndsFirmly ds :=
  fun c last => h c (List.mem_getLast?_append_of_mem_getLast? last)

end Text

/-! ## Tiles -/

/-- What a stretch of source is. -/
inductive Tile.Role where
  /-- Text between tags. -/
  | text
  /-- The text of a comment. -/
  | remark
  | tag (marker : Marker)
  /-- A token inside a tag. -/
  | inside (kind : TokenKind)

/-- A stretch of source: blanks left out at its start, what its token has, and blanks left out at
its end. -/
structure Tile where
  role : Tile.Role
  lead : List Char
  kept : List Char
  trail : List Char

/-- Whether a byte is in the span. -/
def Span.holds (s : Span) (i : Nat) : Bool := s.start ≤ i && i < s.stop

namespace Tile

open Text (byteLength)

variable {p : Tile} {ps : List Tile} {n i : Nat}

/-- A tile of which nothing is left out. -/
def whole (role : Role) (cs : List Char) : Tile := ⟨role, [], cs, []⟩

/-- The source of a tile. -/
def chars (p : Tile) : List Char := p.lead ++ (p.kept ++ p.trail)

/-- The source of tiles side by side. -/
def source (ps : List Tile) : List Char := ps.flatMap chars

@[simp] theorem chars_whole (role : Role) (cs : List Char) : (whole role cs).chars = cs := by
  simp [chars, whole]

@[simp] theorem source_nil : source [] = [] := rfl

@[simp] theorem source_cons (p : Tile) (ps : List Tile) :
    source (p :: ps) = p.chars ++ source ps := rfl

/-- The kind of token a tile has. -/
def Role.kind : Role → TokenKind
  | .text => .raw
  | .remark => .raw
  | .tag m => if m.isOpening then .opening m.kind else .closing m.kind
  | .inside kind => kind

/-- The token of a tile at an offset. -/
def token (offset : Nat) (p : Tile) : Token :=
  Lexer.token p.role.kind (offset + byteLength p.lead) p.kept

/-- What is left out of a tile at an offset. -/
def gaps (offset : Nat) (p : Tile) : List Span :=
  [⟨offset, offset + byteLength p.lead⟩,
    ⟨offset + byteLength (p.lead ++ p.kept), offset + byteLength p.chars⟩]

/-- The tokens of tiles from an offset on. -/
def tokens : Nat → List Tile → List Token
  | _, [] => []
  | offset, p :: ps => p.token offset :: tokens (offset + byteLength p.chars) ps

/-- What is left out of tiles from an offset on. -/
def allGaps : Nat → List Tile → List Span
  | _, [] => []
  | offset, p :: ps => p.gaps offset ++ allGaps (offset + byteLength p.chars) ps

theorem source_append (ps qs : List Tile) : source (ps ++ qs) = source ps ++ source qs :=
  List.flatMap_append

theorem tokens_append (ps qs : List Tile) :
    tokens n (ps ++ qs) = tokens n ps ++ tokens (n + byteLength (source ps)) qs := by
  induction ps generalizing n with
  | nil => rfl
  | cons p ps ih =>
    rw [List.cons_append, tokens, tokens, ih, source_cons, Text.byteLength_append, Nat.add_assoc,
      List.cons_append]

/-- All blanks at the start of a tile are left out if `atStart`, and all at its end if `atEnd`.
Nothing else is left out. -/
structure TrimmedBy (p : Tile) (atStart atEnd : Bool) : Prop where
  lead_blank : ∀ c ∈ p.lead, Text.isBlank c = true
  trail_blank : ∀ c ∈ p.trail, Text.isBlank c = true
  lead_eq : atStart = false → p.lead = []
  trail_eq : atEnd = false → p.trail = []
  starts : atStart = true → Text.StartsFirmly p.kept
  ends : atEnd = true → Text.EndsFirmly p.kept

/-! ### Tokens and gaps cut the source -/

/-- The text of a token of some tiles stands in the source where its span says. -/
theorem slice_of_mem_tokens {s : String} {before : List Char}
    (eq : s.toList = before ++ source ps) {t : Token} (mem : t ∈ tokens (byteLength before) ps) :
    Text.slice t.span s = some t.text := by
  induction ps generalizing before with
  | nil => cases mem
  | cons p ps ih =>
    rcases List.mem_cons.1 mem with rfl | mem
    · have cut := Text.sliceChars_append (before ++ p.lead) p.kept (p.trail ++ source ps)
      rw [Text.byteLength_append] at cut
      have eq' : s.toList = before ++ p.lead ++ p.kept ++ (p.trail ++ source ps) := by
        rw [eq, source_cons, chars]
        simp only [List.append_assoc]
      rw [Text.slice, eq']
      exact congrArg (Option.map String.ofList) cut
    · rw [← Text.byteLength_append] at mem
      exact ih (by rw [eq, source_cons, List.append_assoc]) mem

/-- What is left out of some tiles stands in the source between the tokens. -/
theorem slice_of_mem_allGaps {cs before : List Char} (eq : cs = before ++ source ps)
    (blank : ∀ p ∈ ps, (∀ c ∈ p.lead, Text.isBlank c = true) ∧ ∀ c ∈ p.trail, Text.isBlank c = true)
    {gap : Span} (mem : gap ∈ allGaps (byteLength before) ps) :
    ∃ ws, Text.sliceChars gap cs = some ws ∧ ∀ c ∈ ws, Text.isBlank c = true := by
  induction ps generalizing before with
  | nil => cases mem
  | cons p ps ih =>
    obtain ⟨lead, trail⟩ := blank p List.mem_cons_self
    rcases List.mem_append.1 mem with mem | mem
    · rcases List.mem_pair.1 mem with rfl | rfl
      · have cut := Text.sliceChars_append before p.lead (p.kept ++ p.trail ++ source ps)
        refine ⟨p.lead, ?_, lead⟩
        rw [← cut, eq, source_cons, chars]
        simp only [List.append_assoc]
      · have cut := Text.sliceChars_append (before ++ (p.lead ++ p.kept)) p.trail (source ps)
        refine ⟨p.trail, ?_, trail⟩
        rw [← cut, eq, source_cons, chars]
        simp only [List.append_assoc, Text.byteLength_append, Nat.add_assoc]
    · rw [← Text.byteLength_append] at mem
      exact ih (by rw [eq, source_cons, List.append_assoc])
        (fun p' mem' => blank p' (List.mem_cons_of_mem p mem')) mem

theorem le_start_of_mem_tokens {t : Token} (mem : t ∈ tokens n ps) : n ≤ t.span.start := by
  induction ps generalizing n with
  | nil => cases mem
  | cons p ps ih =>
    rcases List.mem_cons.1 mem with rfl | mem
    · exact Nat.le_add_right _ _
    · exact Nat.le_trans (Nat.le_add_right _ _) (ih mem)

/-- The tokens of tiles are in order and apart. -/
theorem pairwise_tokens : (tokens n ps).Pairwise fun t u => t.span.stop ≤ u.span.start := by
  induction ps generalizing n with
  | nil => exact .nil
  | cons p ps ih =>
    refine List.pairwise_cons.2 ⟨fun u mem => ?_, ih⟩
    have start := le_start_of_mem_tokens mem
    have stop : (p.token n).span.stop = n + byteLength p.lead + byteLength p.kept := rfl
    rw [chars, Text.byteLength_append, Text.byteLength_append] at start
    omega

/-- A byte of a tile is in its token or in one of its two gaps. -/
theorem count_tile : [p.token n].countP (·.span.holds i) + (p.gaps n).countP (·.holds i) =
    if n ≤ i ∧ i < n + byteLength p.chars then 1 else 0 := by
  have token : (p.token n).span =
    ⟨n + byteLength p.lead, n + byteLength p.lead + byteLength p.kept⟩ := rfl
  simp only [gaps, chars, List.countP_cons, List.countP_nil, token, Span.holds,
    Text.byteLength_append, Bool.and_eq_true, decide_eq_true_eq]
  split_ifs <;> omega

/-- A byte of some tiles is in just one of their tokens and gaps. -/
theorem count_tiles : (tokens n ps).countP (·.span.holds i) + (allGaps n ps).countP (·.holds i) =
    if n ≤ i ∧ i < n + byteLength (source ps) then 1 else 0 := by
  induction ps generalizing n with
  | nil =>
    rw [if_neg fun h => Nat.lt_irrefl n (Nat.lt_of_le_of_lt h.1 h.2)]
    rfl
  | cons p ps ih =>
    have first := count_tile (p := p) (n := n) (i := i)
    have others := ih (n := n + byteLength p.chars)
    rw [tokens, ← List.singleton_append, allGaps, List.countP_append, List.countP_append,
      source_cons, Text.byteLength_append]
    split_ifs at first others ⊢ <;> omega

end Tile

/-! ## Tiles the way tags and text follow one another -/

/-- No delimiter starts in a text with another one behind it. -/
def Delimiters.Free (d : Delimiters) (cs behind : List Char) : Prop :=
  ∀ after, after <:+ cs → after ≠ [] → d.match? (after ++ behind) = none

/-- The closing delimiters do not end in blanks. -/
def Delimiters.ClosesFirmly (d : Delimiters) : Prop :=
  ∀ p ∈ d.patterns, p.1.isOpening = false → Text.EndsFirmly p.2

theorem Delimiters.closesFirmly_standard : Delimiters.standard.ClosesFirmly := by
  have firm : ∀ p ∈ standard.patterns, p.2.getLast?.any Text.isBlank = false := by decide
  intro p mem _ c last
  have solid := firm p mem
  rwa [Option.mem_def.1 last] at solid

/-- Where a tile may stand. -/
inductive Tile.Spot where
  /-- Behind a tag that may trim, or at the start of the source. -/
  | outside (trims : Bool)
  | behindText
  /-- Inside a tag, where `depth` braces are open and `path` says that a member access is right
  before. -/
  | inside (kind : TagKind) (depth : Nat) (path : Bool)
  | behindRemark

namespace Tile

/-- A tag may begin here. -/
def Spot.isOutside : Spot → Bool
  | .outside _ => true
  | .behindText => true
  | _ => false

/-- A tag of the kind may end here with a delimiter. A brace that is open is closed first. -/
def Spot.isInside (kind : TagKind) (form : List Char) : Spot → Bool
  | .inside k depth _ => k = kind && !(0 < depth && form.head? == some '\x7d')
  | .behindRemark => kind = .comment
  | _ => false

/-- The first of some tiles begins a tag that trims the text before it. -/
def trimsBefore : List Tile → Bool
  | ⟨.tag m, _, _, _⟩ :: _ => m.isOpening && m.trims
  | _ => false

/-- Tiles that may stand in a row at a spot. Text between tags loses blanks just where it is next
to a tag that trims it, and nothing else loses any. -/
inductive Arranged (d : Delimiters) : Spot → List Tile → Prop
  | nil {spot : Spot} : Arranged d spot []
  | text {trims : Bool} {p : Tile} {ps : List Tile} (role : p.role = .text) (ne : p.chars ≠ [])
      (free : d.Free p.chars (source ps)) (trimmed : p.TrimmedBy trims (trimsBefore ps))
      (h : Arranged d .behindText ps) : Arranged d (.outside trims) (p :: ps)
  | opening {spot : Spot} {m : Marker} {form : List Char} {ps : List Tile}
      (outside : spot.isOutside = true) (opens : m.isOpening = true)
      (found : d.match? (form ++ source ps) = some (m, form))
      (h : Arranged d (.inside m.kind 0 false) ps) : Arranged d spot (whole (.tag m) form :: ps)
  | token {kind : TagKind} {depth : Nat} {path : Bool} {k : TokenKind} {cs : List Char}
      {ps : List Tile} (plain : kind ≠ .comment)
      (free : 0 < depth ∧ cs.head? = some '\x7d' ∨ d.match? (cs ++ source ps) = none)
      (read : Lexer.lexeme path (cs ++ source ps) = .ok (k, cs))
      (h : Arranged d (.inside kind (Lexer.depthAfter depth k) (Lexer.pathAfter path k)) ps) :
      Arranged d (.inside kind depth path) (whole (.inside k) cs :: ps)
  | remark {cs : List Char} {ps : List Tile} (ne : cs ≠ []) (free : d.Free cs (source ps))
      (h : Arranged d .behindRemark ps) :
      Arranged d (.inside .comment 0 false) (whole .remark cs :: ps)
  | closing {spot : Spot} {m : Marker} {form : List Char} {ps : List Tile}
      (inside : spot.isInside m.kind form = true) (closes : m.isOpening = false)
      (found : d.match? (form ++ source ps) = some (m, form))
      (h : Arranged d (.outside m.trims) ps) : Arranged d spot (whole (.tag m) form :: ps)

namespace Arranged

variable {d : Delimiters} {spot : Spot} {p : Tile} {ps : List Tile}

/-- No tile is empty. -/
theorem eq_nil (h : Arranged d spot ps) (nil : source ps = []) : ps = [] := by
  -- a delimiter and a token take some text
  have form_ne {rest form : List Char} {m : Marker} (found : d.match? rest = some (m, form)) :
      form ≠ [] := Delimiters.ne_nil_of_mem_patterns (Delimiters.mem_of_match? found).1
  cases h with
  | nil => rfl
  | text _ ne _ _ _ => exact absurd (List.append_eq_nil_iff.1 nil).1 ne
  | opening _ _ found _ =>
    rw [source_cons, chars_whole] at nil
    exact absurd (List.append_eq_nil_iff.1 nil).1 (form_ne found)
  | token _ _ read _ =>
    rw [source_cons, chars_whole] at nil
    exact absurd (List.append_eq_nil_iff.1 nil).1 (Lexer.lexeme_ne_nil read)
  | remark ne _ _ =>
    rw [source_cons, chars_whole] at nil
    exact absurd (List.append_eq_nil_iff.1 nil).1 ne
  | closing _ _ found _ =>
    rw [source_cons, chars_whole] at nil
    exact absurd (List.append_eq_nil_iff.1 nil).1 (form_ne found)

/-- Only blanks are left out. -/
theorem blank (h : Arranged d spot ps) (mem : p ∈ ps) :
    (∀ c ∈ p.lead, Text.isBlank c = true) ∧ ∀ c ∈ p.trail, Text.isBlank c = true := by
  have whole_blank (role : Role) (cs : List Char) :
      (∀ c ∈ (whole role cs).lead, Text.isBlank c = true) ∧
        ∀ c ∈ (whole role cs).trail, Text.isBlank c = true := ⟨nofun, nofun⟩
  induction h with
  | nil => cases mem
  | text _ _ _ trimmed _ ih =>
    rcases List.mem_cons.1 mem with rfl | mem
    · exact ⟨trimmed.lead_blank, trimmed.trail_blank⟩
    · exact ih mem
  | opening _ _ _ _ ih => exact (List.mem_cons.1 mem).elim (· ▸ whole_blank _ _) ih
  | token _ _ _ _ ih => exact (List.mem_cons.1 mem).elim (· ▸ whole_blank _ _) ih
  | remark _ _ _ ih => exact (List.mem_cons.1 mem).elim (· ▸ whole_blank _ _) ih
  | closing _ _ _ _ ih => exact (List.mem_cons.1 mem).elim (· ▸ whole_blank _ _) ih

end Arranged

end Tile

/-! ## What is read is arranged -/

namespace Delimiters

variable {d : Delimiters} {cs before rest : List Char} {found : Marker × List Char}

theorem free_of_find_eq_none (h : d.find cs = none) : d.Free cs [] := by
  intro after suffix ne
  rw [List.append_nil]
  induction cs with
  | nil => exact absurd (List.suffix_nil.1 suffix) ne
  | cons c cs ih =>
    rw [find] at h
    split at h
    · cases h
    · next free =>
      rcases List.suffix_cons_iff.1 suffix with rfl | suffix
      · exact free
      · exact ih (Option.map_eq_none_iff.1 h) suffix

theorem free_of_find (h : d.find cs = some (before, found, rest)) : d.Free before rest := by
  intro after suffix ne
  induction cs generalizing before with
  | nil => cases h
  | cons c cs ih =>
    have whole := (append_of_find h).1
    rw [find] at h
    split at h
    · cases h
      exact absurd (List.suffix_nil.1 suffix) ne
    · next free =>
      obtain ⟨⟨tail, others⟩, found', eq⟩ := Option.map_eq_some_iff.1 h
      cases eq
      rcases List.suffix_cons_iff.1 suffix with rfl | suffix
      · rw [whole]
        exact free
      · exact ih found' suffix

/-- A delimiter that is found stands at the start of what is left. -/
theorem exists_append_of_match? {m : Marker} {form : List Char}
    (h : d.match? rest = some (m, form)) : ∃ left, rest = form ++ left := by
  obtain ⟨left, eq⟩ := (mem_of_match? h).2
  exact ⟨left, eq.symm⟩

end Delimiters

namespace Lexer

open Text (byteLength)
open Tile (Arranged Spot)

variable {d : Delimiters} {source : String} {before cs after : List Char} {s next : Scan}
  {ts : List Token} {t : Token} {tiles : List Tile} {atStart atEnd : Bool}

/-! ### Raw text -/

theorem exists_lead_of_rawPart (eq : source.toList = before ++ cs ++ after)
    (h : rawPart source (byteLength before) (byteLength before + byteLength cs) atStart = some t) :
    ∃ lead kept, cs = lead ++ kept ∧ (∀ c ∈ lead, Text.isBlank c = true) ∧
      (atStart = false → lead = []) ∧ (atStart = true → Text.StartsFirmly kept) ∧
      t = token .raw (byteLength before + byteLength lead) kept := by
  have cut := Text.sliceChars_append before cs after
  rw [← eq] at cut
  unfold rawPart at h
  cases atStart with
  | false =>
    rw [if_neg Bool.false_ne_true, Text.slice, cut] at h
    cases h
    exact ⟨[], cs, rfl, nofun, fun _ => rfl, nofun, rfl⟩
  | true =>
    rw [if_pos rfl, cut] at h
    cases h
    have split := Text.takeWhile_append_trimStart cs
    have length := congrArg byteLength split
    rw [Text.byteLength_append] at length
    refine ⟨cs.takeWhile Text.isBlank, Text.trimStart cs, split.symm, ?_, nofun,
      fun _ => Text.startsFirmly_trimStart cs, ?_⟩
    · exact fun c mem => List.mem_takeWhile_imp mem
    · rw [token, Token.mk.injEq, Span.mk.injEq]
      exact ⟨rfl, ⟨by omega, by omega⟩, rfl⟩

/-- The raw token of some text is that of a tile without the blanks that are trimmed. -/
theorem exists_tile_of_rawToken (eq : source.toList = before ++ cs ++ after)
    (firm : Text.EndsFirmly before)
    (h : rawToken source (byteLength before) (byteLength before + byteLength cs) atEnd atStart =
      some t) :
    ∃ p : Tile, p.role = .text ∧ p.chars = cs ∧ p.TrimmedBy atStart atEnd ∧
      t = p.token (byteLength before) := by
  rcases rawPart_of_rawToken h with ⟨rfl, part⟩ | ⟨rfl, taken, take, part⟩
  · obtain ⟨lead, kept, rfl, blank, lead_eq, starts, rfl⟩ := exists_lead_of_rawPart eq part
    exact ⟨⟨.text, lead, kept, []⟩, rfl, by rw [Tile.chars, List.append_nil],
      ⟨blank, nofun, lead_eq, fun _ => rfl, starts, nofun⟩, rfl⟩
  · -- the blanks at the end of all that is before the tag are those at the end of the text
    rw [eq, ← Text.byteLength_append, Text.takeBytes_append] at take
    cases take
    rw [Text.trimEnd_append firm, Text.byteLength_append] at part
    obtain ⟨trail, split, blank'⟩ := Text.exists_trimEnd_append cs
    have eq' : source.toList = before ++ Text.trimEnd cs ++ (trail ++ after) := by
      rw [eq, ← List.append_assoc, List.append_assoc before (Text.trimEnd cs), ← split]
    obtain ⟨lead, kept, body, blank, lead_eq, starts, rfl⟩ := exists_lead_of_rawPart eq' part
    refine ⟨⟨.text, lead, kept, trail⟩, rfl, ?_, ⟨blank, blank', lead_eq, nofun, starts, ?_⟩, rfl⟩
    · rw [Tile.chars, ← List.append_assoc, ← body, ← split]
    · intro _
      have ends := Text.endsFirmly_trimEnd cs
      rw [body] at ends
      exact Text.endsFirmly_of_append ends

/-! ### Steps -/

/-- A state of the lexer at a spot behind some text. -/
inductive At (before : List Char) : Spot → Scan → Prop
  | outside {trims : Bool} {offset : Nat} {rest : List Char} (firm : Text.EndsFirmly before) :
      At before (.outside trims) ⟨.text, trims, offset, rest⟩
  | tag {kind : TagKind} {opening : Span} {depth : Nat} {path trims : Bool} {offset : Nat}
      {rest : List Char} (plain : kind ≠ .comment) :
      At before (.inside kind depth path) ⟨.tag kind opening depth path, trims, offset, rest⟩
  | comment {opening : Span} {trims : Bool} {offset : Nat} {rest : List Char} :
      At before (.inside .comment 0 false) ⟨.comment opening, trims, offset, rest⟩
  | ended {spot : Spot} {mode : Mode} {trims : Bool} {offset : Nat} :
      At before spot ⟨mode, trims, offset, []⟩

theorem at_inside (kind : TagKind) (opening : Span) (trims : Bool) (offset : Nat)
    (rest : List Char) :
    At before (.inside kind 0 false) ⟨Mode.inside kind opening, trims, offset, rest⟩ := by
  cases kind with
  | expression => exact .tag nofun
  | block => exact .tag nofun
  | comment => exact .comment

/-- The text from an offset on begins with some tiles that may stand at a spot behind some text. The
lexer goes on behind them from another spot. -/
structure Lays (d : Delimiters) (before : List Char) (spot : Spot) (offset : Nat) (rest : List Char)
    (ts : List Token) (next : Scan) (spot' : Spot) (tiles : List Tile) : Prop where
  ne : Tile.source tiles ≠ []
  rest_eq : rest = Tile.source tiles ++ next.rest
  offset_eq : next.offset = offset + byteLength (Tile.source tiles)
  tokens_eq : ts = Tile.tokens offset tiles
  stands : At (before ++ Tile.source tiles) spot' next
  arranged : ∀ more, next.rest = Tile.source more → Arranged d spot' more →
    Arranged d spot (tiles ++ more)

variable {spot mid spot' : Spot} {offset : Nat} {form left rest : List Char} {m : Marker}

/-- One tile of which nothing is left out. -/
theorem Lays.whole (role : Tile.Role) (ne : cs ≠ []) (rest_eq : rest = cs ++ next.rest)
    (eq : next.offset = offset + byteLength cs) (stands : At (before ++ cs) spot' next)
    (arranged : ∀ more, next.rest = Tile.source more → Arranged d spot' more →
      Arranged d spot (.whole role cs :: more)) :
    Lays d before spot offset rest [token role.kind offset cs] next spot' [.whole role cs] where
  ne := by simpa using ne
  rest_eq := by simpa using rest_eq
  offset_eq := by simpa using eq
  tokens_eq := rfl
  stands := by simpa using stands
  arranged := arranged

/-- One tile and others behind it. -/
theorem Lays.cons {p : Tile} (chars : p.chars = cs) (token : t = p.token offset)
    (h : Lays d (before ++ cs) mid (offset + byteLength cs) rest ts next spot' tiles)
    (arranged : ∀ more, rest = Tile.source (tiles ++ more) → Arranged d mid (tiles ++ more) →
      Arranged d spot (p :: (tiles ++ more))) :
    Lays d before spot offset (cs ++ rest) (t :: ts) next spot' (p :: tiles) where
  ne := List.append_ne_nil_of_right_ne_nil _ h.ne
  rest_eq := by rw [h.rest_eq, Tile.source_cons, chars, List.append_assoc]
  offset_eq := by
    rw [h.offset_eq, Tile.source_cons, chars, Text.byteLength_append, Nat.add_assoc]
  tokens_eq := by rw [h.tokens_eq, token, Tile.tokens, chars]
  stands := by
    rw [Tile.source_cons, chars, ← List.append_assoc]
    exact h.stands
  arranged := fun more behind ok =>
    arranged more (by rw [h.rest_eq, behind, Tile.source_append]) (h.arranged more behind ok)

/-- The opening delimiter of a tag. -/
theorem lays_opening (opens : m.isOpening = true)
    (matched : d.match? (form ++ left) = some (m, form)) (outside : spot.isOutside = true)
    (span : Span) (trims : Bool) :
    Lays d before spot offset (form ++ left) [token (.opening m.kind) offset form]
      ⟨Mode.inside m.kind span, trims, offset + byteLength form, left⟩ (.inside m.kind 0 false)
      [.whole (.tag m) form] := by
  have kind : Tile.Role.kind (.tag m) = .opening m.kind := if_pos opens
  have form_ne := Delimiters.ne_nil_of_mem_patterns (Delimiters.mem_of_match? matched).1
  rw [← kind]
  refine .whole (.tag m) form_ne rfl rfl (at_inside _ _ _ _ _) fun more behind arranged => ?_
  dsimp only at behind
  subst behind
  exact .opening outside opens matched arranged

/-- The closing delimiter of a tag. -/
theorem lays_closing (closes : d.ClosesFirmly) (closing : m.isOpening = false)
    (matched : d.match? (form ++ left) = some (m, form))
    (inside : spot.isInside m.kind form = true) :
    Lays d before spot offset (form ++ left) [token (.closing m.kind) offset form]
      ⟨.text, m.trims, offset + byteLength form, left⟩ (.outside m.trims)
      [.whole (.tag m) form] := by
  have kind : Tile.Role.kind (.tag m) = .closing m.kind := if_neg (Bool.eq_false_iff.1 closing)
  have mem := (Delimiters.mem_of_match? matched).1
  have form_ne := Delimiters.ne_nil_of_mem_patterns mem
  rw [← kind]
  refine .whole (.tag m) form_ne rfl rfl ?_ fun more behind arranged => ?_
  · exact .outside (Text.endsFirmly_append (closes _ mem closing) form_ne)
  · dsimp only at behind
    subst behind
    exact .closing inside closing matched arranged

/-- A token inside a tag. -/
theorem lays_token {kind : TagKind} {depth : Nat} {path : Bool} {k : TokenKind}
    (plain : kind ≠ .comment)
    (free : 0 < depth ∧ cs.head? = some '\x7d' ∨ d.match? (cs ++ left) = none)
    (read : lexeme path (cs ++ left) = .ok (k, cs)) (opening : Span) (trims : Bool) :
    Lays d before (.inside kind depth path) offset (cs ++ left) [token k offset cs]
      ⟨.tag kind opening (depthAfter depth k) (pathAfter path k), trims, offset + byteLength cs,
        left⟩
      (.inside kind (depthAfter depth k) (pathAfter path k)) [.whole (.inside k) cs] := by
  refine .whole (.inside k) (lexeme_ne_nil read) rfl rfl (.tag plain) fun more behind arranged => ?_
  dsimp only at behind
  subst behind
  exact .token plain free read arranged

theorem exists_tiles_of_stepText (eq : source.toList = before ++ s.rest)
    (offset : s.offset = byteLength before) (firm : Text.EndsFirmly before) (ne : s.rest ≠ [])
    (h : stepText d source s = .tokens ts next) :
    ∃ spot tiles, Lays d before (.outside s.trimsNext) s.offset s.rest ts next spot tiles := by
  obtain ⟨mode, trims, offset', rest⟩ := s
  cases offset
  unfold stepText at h
  dsimp only at eq ne h ⊢
  split at h
  · -- the text goes on to the end of the source
    next found =>
    split at h
    · cases h
    · next t raw =>
      cases h
      rw [← List.append_nil rest, ← List.append_assoc] at eq
      obtain ⟨p, role, rfl, trimmed, rfl⟩ := exists_tile_of_rawToken eq firm raw
      refine ⟨.behindText, [p], ?_, ?_, ?_, rfl, .ended, ?_⟩
      · exact List.append_ne_nil_of_left_ne_nil ne _
      · simp
      · simp
      · intro more nil arranged
        cases arranged.eq_nil nil.symm
        exact .text role ne (Delimiters.free_of_find_eq_none found) trimmed .nil
  · next text marker form rest found =>
    obtain ⟨rfl, matched⟩ := Delimiters.append_of_find found
    obtain ⟨left, rfl⟩ := Delimiters.exists_append_of_match? matched
    rw [List.drop_left] at h
    split at h
    · next opens =>
      split at h
      · -- a tag begins right here
        next none =>
        cases List.isEmpty_iff.1 none
        cases h
        exact ⟨_, _, lays_opening opens matched rfl _ _⟩
      split at h
      · cases h
      · next some _ t raw =>
        cases h
        rw [← List.append_assoc] at eq
        obtain ⟨p, role, chars, trimmed, rfl⟩ := exists_tile_of_rawToken eq firm raw
        have outside : Spot.isOutside .behindText = true := rfl
        refine ⟨_, _, .cons chars rfl (lays_opening opens matched outside _ _)
          fun more behind arranged => ?_⟩
        have free := Delimiters.free_of_find found
        rw [behind, ← chars] at free
        rw [← chars, List.isEmpty_iff] at some
        refine .text role some free ?_ arranged
        simpa [Tile.whole, Tile.trimsBefore, opens] using trimmed
    · cases h

theorem exists_tiles_of_stepTag {kind : TagKind} {opening : Span} {depth : Nat} {path : Bool}
    (closes : d.ClosesFirmly) (plain : kind ≠ .comment)
    (h : stepTag d source [] s kind opening depth path = .tokens ts next) :
    ∃ spot tiles, Lays d before (.inside kind depth path) s.offset s.rest ts next spot tiles := by
  obtain ⟨mode, trims, offset, rest⟩ := s
  unfold stepTag at h
  simp only [List.append_nil] at h
  split at h
  · next marker form found =>
    obtain ⟨braces, matched⟩ : (0 < depth && rest.head? == some '\x7d') = false ∧
        d.match? rest = some (marker, form) := by
      split at found
      · cases found
      · next braces => exact ⟨Bool.eq_false_iff.2 braces, found⟩
    obtain ⟨left, rfl⟩ := Delimiters.exists_append_of_match? matched
    rw [List.drop_left] at h
    split at h
    · cases h
    next closing =>
    split at h
    · next same =>
      cases h
      subst same
      have closing := Bool.eq_false_iff.2 closing
      obtain ⟨c, cs, rfl⟩ := List.exists_cons_of_ne_nil
        (Delimiters.ne_nil_of_mem_patterns (Delimiters.mem_of_match? matched).1)
      have inside : Spot.isInside marker.kind (c :: cs) (.inside marker.kind depth path) = true :=
        Bool.and_eq_true_iff.2 ⟨decide_eq_true rfl, by rw [Bool.not_eq_true', ← braces]; rfl⟩
      exact ⟨_, _, lays_closing closes closing matched inside⟩
    · cases h
  · next free =>
    split at h
    · cases h
    · next k cs read =>
      cases h
      obtain ⟨left, rfl⟩ := prefix_of_lexeme read
      rw [List.drop_left]
      refine ⟨_, _, lays_token plain ?_ read _ _⟩
      split at free
      · -- a brace that is open is closed before a delimiter is looked for
        next braces =>
        obtain ⟨c, cs, rfl⟩ := List.exists_cons_of_ne_nil (lexeme_ne_nil read)
        rw [Bool.and_eq_true, beq_iff_eq] at braces
        exact .inl ⟨of_decide_eq_true braces.1, braces.2⟩
      · exact .inr free

theorem exists_tiles_of_stepComment {opening : Span} (closes : d.ClosesFirmly) (ne : s.rest ≠ [])
    (h : stepComment d source s opening = .tokens ts next) :
    ∃ spot tiles, Lays d before (.inside .comment 0 false) s.offset s.rest ts next spot tiles := by
  obtain ⟨mode, trims, offset, rest⟩ := s
  unfold stepComment at h
  dsimp only at ne h ⊢
  split at h
  · -- the comment goes on to the end of the source
    next found =>
    cases h
    have whole : rest = rest ++ [] := (List.append_nil rest).symm
    refine ⟨.behindRemark, _, .whole .remark ne whole rfl .ended fun more nil arranged => ?_⟩
    cases arranged.eq_nil nil.symm
    exact .remark ne (Delimiters.free_of_find_eq_none found) .nil
  · next text marker form rest found =>
    obtain ⟨rfl, matched⟩ := Delimiters.append_of_find found
    obtain ⟨left, rfl⟩ := Delimiters.exists_append_of_match? matched
    rw [List.drop_left] at h
    split at h
    · cases h
    next closing =>
    have closing := Bool.eq_false_iff.2 closing
    split at h
    · next same =>
      rw [← same] at h
      split at h
      · next none =>
        cases List.isEmpty_iff.1 none
        cases h
        have inside : Spot.isInside marker.kind form (.inside .comment 0 false) = true :=
          Bool.and_eq_true_iff.2 ⟨decide_eq_true same.symm, rfl⟩
        exact ⟨_, _, lays_closing closes closing matched inside⟩
      · next some =>
        cases h
        have inside : Spot.isInside marker.kind form .behindRemark = true := decide_eq_true same
        have chars := Tile.chars_whole .remark text
        refine ⟨_, _, .cons chars rfl (lays_closing closes closing matched inside)
          fun more behind arranged => ?_⟩
        have free := Delimiters.free_of_find found
        rw [behind] at free
        exact .remark (fun nil => some (List.isEmpty_iff.2 nil)) free arranged
    · cases h

/-- A step reads tiles from the spot where it is. -/
theorem exists_tiles_of_step (closes : d.ClosesFirmly)
    (eq : source.toList = before ++ s.rest) (offset : s.offset = byteLength before)
    (stands : At before spot s) (ne : s.rest ≠ []) (h : step d source [] s = .tokens ts next) :
    ∃ spot' tiles, Lays d before spot s.offset s.rest ts next spot' tiles := by
  cases stands with
  | outside firm => exact exists_tiles_of_stepText eq offset firm ne h
  | tag plain => exact exists_tiles_of_stepTag closes plain h
  | comment => exact exists_tiles_of_stepComment closes ne h
  | ended => exact absurd rfl ne

/-- What is read to its end is a row of tiles. -/
theorem exists_tiles_of_run {n : Nat} (closes : d.ClosesFirmly)
    (enough : s.rest.length < n) (eq : source.toList = before ++ s.rest)
    (offset : s.offset = byteLength before) (stands : At before spot s)
    (done : (run d source [] n s).failure = none) :
    ∃ tiles, Arranged d spot tiles ∧ Tile.source tiles = s.rest ∧
      (run d source [] n s).tokens = Tile.tokens s.offset tiles := by
  -- on the bound; every step leaves a shorter text to the next one, which starts where it ends
  induction n generalizing before spot s with
  | zero => cases enough
  | succ n ih =>
    by_cases ended : s.rest = []
    · rw [run_of_nil ended]
      exact ⟨[], .nil, ended.symm, rfl⟩
    cases stepped : step d source [] s with
    | failed f =>
      rw [run_of_failed ended stepped] at done
      cases done
    | tokens ts next =>
      rw [run_of_tokens ended stepped] at done ⊢
      obtain ⟨spot', first, lays⟩ := exists_tiles_of_step closes eq offset stands ended stepped
      have shorter : next.rest.length < n := by
        have pos := List.length_pos_iff.2 lays.ne
        have length := congrArg List.length lays.rest_eq
        rw [List.length_append] at length
        omega
      have eq' : source.toList = before ++ Tile.source first ++ next.rest := by
        rw [eq, lays.rest_eq, List.append_assoc]
      have offset' : next.offset = byteLength (before ++ Tile.source first) := by
        rw [lays.offset_eq, offset, Text.byteLength_append]
      obtain ⟨others, arranged, rest, tokens⟩ := ih shorter eq' offset' lays.stands done
      refine ⟨first ++ others, lays.arranged others rest.symm arranged, ?_, ?_⟩
      · rw [Tile.source_append, rest, lays.rest_eq]
      · rw [tokens, Tile.tokens_append, lays.tokens_eq, lays.offset_eq]

end Lexer

/-! ## Whole sources -/

/-- Some tokens are those of tiles that make up a source: they stand in the source where their spans
say, in order and apart; what is left out of the tiles is blank; and every byte is in just one token
or in just one of the gaps. -/
structure Tiled (d : Delimiters) (source : String) (ts : List Token) (tiles : List Tile) :
    Prop where
  arranged : Tile.Arranged d (.outside false) tiles
  source_eq : Tile.source tiles = source.toList
  tokens_eq : ts = Tile.tokens 0 tiles
  slices : ∀ t ∈ ts, Text.slice t.span source = some t.text
  ordered : ts.Pairwise fun t u => t.span.stop ≤ u.span.start
  blank : ∀ gap ∈ Tile.allGaps 0 tiles, ∃ ws, Text.sliceChars gap source.toList = some ws ∧
    ∀ c ∈ ws, Text.isBlank c = true
  once : ∀ i < Text.byteLength source.toList,
    ts.countP (·.span.holds i) + (Tile.allGaps 0 tiles).countP (·.holds i) = 1

/-- The tokens of a source that is read to its end are those of tiles that make it up. -/
theorem lex_tiled {d : Delimiters} {source : String} (closes : d.ClosesFirmly)
    (done : (lex d source).failure = none) :
    ∃ tiles, Tiled d source (lex d source).tokens tiles := by
  obtain ⟨tiles, arranged, eq, tokens⟩ : ∃ tiles, Tile.Arranged d (.outside false) tiles ∧
      Tile.source tiles = source.toList ∧ (lex d source).tokens = Tile.tokens 0 tiles :=
    Lexer.exists_tiles_of_run (s := ⟨.text, false, 0, source.toList⟩) closes (Nat.lt_succ_self _)
      (List.nil_append _).symm rfl (.outside Text.endsFirmly_nil) done
  have whole : source.toList = [] ++ Tile.source tiles := eq.symm
  refine ⟨tiles, arranged, eq, tokens, ?_, ?_, ?_, ?_⟩
  · intro t mem
    rw [tokens] at mem
    exact Tile.slice_of_mem_tokens whole mem
  · rw [tokens]
    exact Tile.pairwise_tokens
  · exact fun gap mem => Tile.slice_of_mem_allGaps whole (fun p mem' => arranged.blank mem') mem
  · intro i lt
    rw [tokens, Tile.count_tiles, eq, if_pos ⟨Nat.zero_le i, by omega⟩]

/-- Blanks around a comment and an expression that trim are left out, those in the comment stay. -/
theorem lex_tiled_trimmed :
    let source := "é \x7b#- a -#\x7d \n\x7b\x7b- x -\x7d\x7d\tz "
    Delimiters.standard.ClosesFirmly ∧ (lex .standard source).failure = none ∧
      (lex .standard source).tokens.map Token.text =
        ["é", "\x7b#-", " a ", "-#\x7d", "", "\x7b\x7b-", " ", "x", " ", "-\x7d\x7d", "z "] ∧
      ∃ tiles, Tiled .standard source (lex .standard source).tokens tiles :=
  ⟨Delimiters.closesFirmly_standard, by decide, by decide,
    lex_tiled Delimiters.closesFirmly_standard (by decide)⟩

end Stencil
