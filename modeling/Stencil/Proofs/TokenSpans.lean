import Stencil.Proofs.Lexemes
import Stencil.Proofs.Markup
import Stencil.Proofs.Tiling

/-!
# The spans of tokens

Whatever the delimiters are, a token inside a tag and a delimiter have the span of some part of the
source. This may fail for raw text only, of which a tag may take more blanks than there are: those
of a closing delimiter that ends in blanks are taken for blanks of the text behind it.

- `Text.Boundary`: an offset at which no character is cut.
- `Span.Fits`: a region of a source, with both ends at such offsets.
- `Span.Fits.slice`: then there is a text in the region.
- `Span.Fits.join`: the smallest region that holds two of them is one.
- `Delimiters.Pinches`: a source in which a tag takes more blanks than there are.
- `Token.Legible`: a token that stands in the source, unless a tag takes too many blanks.
- `Lexer.legible_of_run`: all tokens do, and the lexer fails with errors only.
- `fits_of_lex`, `fits_of_lexRegion`: the spans of the tokens of a source, and of a region of it.
-/

namespace Stencil

/-! ## Regions of a source -/

/-- A byte offset of a text at which no character is cut. -/
def Text.Boundary (cs : List Char) (n : Nat) : Prop :=
  ∃ before after, cs = before ++ after ∧ byteLength before = n

/-- A region of a source. -/
structure Span.Fits (source : String) (span : Span) : Prop where
  start : Text.Boundary source.toList span.start
  stop : Text.Boundary source.toList span.stop
  le : span.start ≤ span.stop

/-- Of two parts at the start of a text, the one with fewer bytes is the start of the other. -/
theorem Text.prefix_of_byteLength_le {cs before before' : List Char} (h : before <+: cs)
    (h' : before' <+: cs) (le : byteLength before ≤ byteLength before') : before <+: before' := by
  rcases List.prefix_or_prefix_of_prefix h h' with first | ⟨more, rfl⟩
  · exact first
  · rw [byteLength_append] at le
    cases more with
    | nil => simp
    | cons c more =>
      have := Char.utf8Size_pos c
      rw [byteLength_cons] at le
      omega

namespace Span

variable {source : String} {s t : Span}

theorem fits_of_append {before cs after : List Char}
    (eq : source.toList = before ++ (cs ++ after)) :
    Fits source ⟨Text.byteLength before, Text.byteLength before + Text.byteLength cs⟩ where
  start := ⟨before, cs ++ after, eq, rfl⟩
  stop := ⟨before ++ cs, after, by rw [eq, List.append_assoc], Text.byteLength_append _ _⟩
  le := Nat.le_add_right _ _

theorem Fits.join (hs : s.Fits source) (ht : t.Fits source) : (s.join t).Fits source where
  start := by
    rcases Nat.le_total s.start t.start with le | le
    · exact (join_start s t).trans (Nat.min_eq_left le) ▸ hs.start
    · exact (join_start s t).trans (Nat.min_eq_right le) ▸ ht.start
  stop := by
    rcases Nat.le_total s.stop t.stop with le | le
    · exact (join_stop s t).trans (Nat.max_eq_right le) ▸ ht.stop
    · exact (join_stop s t).trans (Nat.max_eq_left le) ▸ hs.stop
  le := Nat.le_trans (Nat.min_le_left _ _) (Nat.le_trans hs.le (Nat.le_max_left _ _))

/-- A region of a source is the middle part of it. -/
theorem Fits.exists_append (h : s.Fits source) : ∃ before region after,
    source.toList = before ++ (region ++ after) ∧ Text.byteLength before = s.start ∧
      Text.byteLength (before ++ region) = s.stop := by
  obtain ⟨⟨before, after, eq, start⟩, ⟨before', after', eq', stop⟩, le⟩ := h
  have first : before <+: before' := by
    have begins : before <+: source.toList := ⟨after, eq.symm⟩
    exact Text.prefix_of_byteLength_le begins ⟨after', eq'.symm⟩ (by omega)
  obtain ⟨region, rfl⟩ := first
  exact ⟨before, region, after', by rw [eq', List.append_assoc], start, stop⟩

/-- This part is the slice of the region. -/
theorem sliceChars_of_append {cs before region after : List Char}
    (eq : cs = before ++ (region ++ after)) (start : Text.byteLength before = s.start)
    (stop : Text.byteLength (before ++ region) = s.stop) : Text.sliceChars s cs = some region := by
  have cut := Text.sliceChars_append before region after
  rwa [List.append_assoc, ← eq, ← Text.byteLength_append, start, stop] at cut

/-- There is a text in a region of a source. -/
theorem Fits.slice (h : s.Fits source) : (Text.slice s source).isSome := by
  obtain ⟨before, region, after, eq, start, stop⟩ := h.exists_append
  rw [Text.slice, sliceChars_of_append eq start stop]
  rfl

end Span

/-! ## Blanks of two texts -/

/-- Only blanks stand between a closing delimiter that ends in a blank itself and an opening
delimiter that trims the text before it. -/
def Delimiters.Pinches (d : Delimiters) (source : String) : Prop :=
  ∃ before closing blanks opening after : List Char,
    source.toList = before ++ (closing ++ (blanks ++ (opening ++ after))) ∧
    blanks ≠ [] ∧ (∀ c ∈ blanks, Text.isBlank c = true) ∧ ¬ Text.EndsFirmly closing ∧
    (∃ m, (m, closing) ∈ d.patterns ∧ m.isOpening = false) ∧
    ∃ m, (m, opening) ∈ d.patterns ∧ m.isOpening = true ∧ m.trims = true

/-- The text is the beginning of a source, or it ends with a closing delimiter. -/
def Delimiters.BehindTag (d : Delimiters) (before : List Char) : Prop :=
  before = [] ∨ ∃ front form m, before = front ++ form ∧ (m, form) ∈ d.patterns ∧
    m.isOpening = false

namespace Delimiters

variable {d : Delimiters} {source : String}

/-- Delimiters that do not end in blanks leave the blanks to the text behind them. -/
theorem ClosesFirmly.not_pinches (closes : d.ClosesFirmly) : ¬ d.Pinches source := by
  rintro ⟨before, closing, blanks, opening, after, -, -, -, loose, ⟨m, mem, ends⟩, -⟩
  exact loose (closes _ mem ends)

/-- The blanks at the end of a text that ends before a tag are blanks behind the tag before it. -/
theorem endsFirmly_of_not_pinches {before text form after : List Char} {m : Marker}
    (free : ¬ d.Pinches source) (behind : d.BehindTag before)
    (eq : source.toList = before ++ (text ++ (form ++ after))) (ne : text ≠ [])
    (mem : (m, form) ∈ d.patterns) (opens : m.isOpening = true) (trims : m.trims = true)
    (blank : Text.trimEnd text = []) : Text.EndsFirmly before := by
  obtain rfl | ⟨front, closing, m', rfl, mem', ends⟩ := behind
  · exact Text.endsFirmly_nil
  by_cases firm : Text.EndsFirmly closing
  · exact Text.endsFirmly_append firm (ne_nil_of_mem_patterns mem')
  · obtain ⟨blanks, whole, all⟩ := Text.exists_trimEnd_append text
    rw [blank, List.nil_append] at whole
    subst whole
    rw [List.append_assoc] at eq
    exact absurd ⟨front, closing, text, form, after, eq, ne, all, firm, ⟨m', mem', ends⟩,
      m, mem, opens, trims⟩ free

end Delimiters

/-! ## Tokens in a source -/

namespace Token

/-- A token stands in a source as its span says. -/
def Reads (source : String) (t : Token) : Prop :=
  ∃ before cs after, source.toList = before ++ (cs ++ after) ∧
    t.span = ⟨Text.byteLength before, Text.byteLength before + Text.byteLength cs⟩ ∧
    t.text = String.ofList cs

/-- A token has a text of its kind: a keyword is one, and a string has quotes. -/
structure Worded (t : Token) : Prop where
  keyword : t.kind = .keyword → (Keyword.ofString? t.text).isSome
  string : t.kind = .string → (Literal.inner? t.text.toList).isSome

/-- A token stands in a source, unless it is raw text and a tag takes too many blanks; and its text
is one of its kind. -/
structure Legible (d : Delimiters) (source : String) (t : Token) : Prop where
  reads : (t.kind = .raw → ¬ d.Pinches source) → t.Reads source
  worded : t.Worded

variable {source : String} {t : Token}

theorem worded_of_raw (raw : t.kind = .raw) : t.Worded where
  keyword h := by cases raw.symm.trans h
  string h := by cases raw.symm.trans h

theorem Reads.fits (h : t.Reads source) : t.span.Fits source := by
  obtain ⟨before, cs, after, eq, span, -⟩ := h
  rw [span]
  exact Span.fits_of_append eq

theorem Reads.slice (h : t.Reads source) : Text.slice t.span source = some t.text := by
  obtain ⟨before, cs, after, eq, span, text⟩ := h
  rw [span, text, Text.slice, eq, ← List.append_assoc, Text.sliceChars_append]
  rfl

theorem reads_of_append {before cs after : List Char} {kind : TokenKind}
    (eq : source.toList = before ++ (cs ++ after)) :
    (Lexer.token kind (Text.byteLength before) cs).Reads source :=
  ⟨before, cs, after, eq, rfl, rfl⟩

end Token

/-! ## Lexing -/

namespace Lexer

open Text (byteLength)

variable {d : Delimiters} {source : String} {beyond : List Char} {s next : Scan} {ts : List Token}

/-- What is left of a region stands in the source at the offset that is reached, with what is beyond
the region behind it, unless nothing is left. Text between tags stands behind a tag. -/
def Scan.Stands (d : Delimiters) (source : String) (beyond : List Char) (s : Scan) : Prop :=
  s.rest = [] ∨ ∃ before, source.toList = before ++ (s.rest ++ beyond) ∧
    byteLength before = s.offset ∧ (s.mode = .text → d.BehindTag before)

/-- Tokens other than raw text have spans in the source. -/
def Fit (source : String) (ts : List Token) : Prop :=
  ∀ t ∈ ts, t.kind ≠ .raw → t.span.Fits source

/-- Some tokens are legible. -/
abbrev Legible (d : Delimiters) (source : String) (ts : List Token) : Prop :=
  ∀ t ∈ ts, t.Legible d source

theorem Legible.fit (h : Legible d source ts) : Fit source ts :=
  fun t mem other => ((h t mem).reads fun raw => absurd raw other).fits

/-- A token at some place that is neither a keyword nor a string. -/
theorem legible_token {before cs after : List Char} {kind : TokenKind}
    (eq : source.toList = before ++ (cs ++ after)) (keyword : kind ≠ .keyword)
    (string : kind ≠ .string) : (token kind (byteLength before) cs).Legible d source :=
  ⟨fun _ => Token.reads_of_append eq, fun h => absurd h keyword, fun h => absurd h string⟩

theorem inside_ne_text (kind : TagKind) (opening : Span) : Mode.inside kind opening ≠ .text := by
  cases kind <;> nofun

/-- The text of a keyword is one. -/
theorem keyword_of_lexeme {path : Bool} {cs word : List Char} {kind : TokenKind}
    (h : lexeme path cs = .ok (kind, word)) (keyword : kind = .keyword) :
    (Keyword.ofString? (String.ofList word)).isSome := by
  cases firstToken_of_lexeme h with
  | mark mark =>
    have plain : ∀ m ∈ marks, m.2 ≠ .keyword := by decide
    exact absurd keyword (plain _ (mem_marks_of_single? mark))
  | name =>
    unfold nameKind at keyword
    split at keyword
    · assumption
    · cases keyword
  | _ => cases keyword

/-- The text of a string has quotes. -/
theorem quoted_of_lexeme {path : Bool} {cs word : List Char} {kind : TokenKind}
    (h : lexeme path cs = .ok (kind, word)) (string : kind = .string) :
    (Literal.inner? (String.ofList word).toList).isSome := by
  cases firstToken_of_lexeme h with
  | mark mark =>
    have others : ∀ m ∈ marks, m.2 ≠ .string := by decide
    exact absurd string (others _ (mem_marks_of_single? mark))
  | string read =>
    obtain ⟨inner, rfl⟩ := List.getLast?_eq_some_iff.1 (getLast?_of_stringBody read)
    rw [String.toList_ofList, Literal.inner?_of_quotes]
    rfl
  | name => exact absurd string (nameKind_ne (by decide) (by decide) _)
  | _ => cases string

/-- The token of a text inside a tag is one of its kind. -/
theorem worded_of_lexeme {path : Bool} {cs word : List Char} {kind : TokenKind}
    (h : lexeme path cs = .ok (kind, word)) (offset : Nat) : (token kind offset word).Worded where
  keyword := keyword_of_lexeme h
  string := quoted_of_lexeme h

/-- There is a raw token of the text between two places. -/
theorem exists_rawPart {before cs after : List Char} (atStart : Bool)
    (eq : source.toList = before ++ (cs ++ after)) :
    ∃ t, rawPart source (byteLength before) (byteLength before + byteLength cs) atStart = some t ∧
      t.Reads source := by
  have eq' : source.toList = before ++ cs ++ after := by rw [eq, List.append_assoc]
  have cut := Text.sliceChars_append before cs after
  rw [← eq'] at cut
  have found : ∃ t, rawPart source (byteLength before) (byteLength before + byteLength cs) atStart =
      some t := by
    unfold rawPart
    rw [cut]
    split
    · exact ⟨_, rfl⟩
    · exact ⟨_, rfl⟩
  obtain ⟨t, part⟩ := found
  obtain ⟨lead, kept, rfl, -, -, -, rfl⟩ := exists_lead_of_rawPart eq' part
  have whole : source.toList = before ++ lead ++ (kept ++ after) := by
    rw [eq]
    simp only [List.append_assoc]
  refine ⟨_, part, ?_⟩
  rw [← Text.byteLength_append]
  exact Token.reads_of_append whole

/-- Where the blanks that are trimmed are those of the text, there is a raw token. -/
theorem exists_rawToken {before cs after : List Char} (atEnd atStart : Bool)
    (eq : source.toList = before ++ (cs ++ after))
    (firm : atEnd = true → Text.trimEnd cs = [] → Text.EndsFirmly before) :
    ∃ t, rawToken source (byteLength before) (byteLength before + byteLength cs) atEnd atStart =
      some t ∧ t.Reads source := by
  cases atEnd with
  | false => exact exists_rawPart atStart eq
  | true =>
    have trimmed : Text.trimEnd (before ++ cs) = before ++ Text.trimEnd cs := by
      by_cases blank : Text.trimEnd cs = []
      · exact Text.trimEnd_append (firm rfl blank)
      · exact Text.trimEnd_append_of_ne_nil blank
    obtain ⟨trail, split, -⟩ := Text.exists_trimEnd_append cs
    have eq' : source.toList = before ++ (Text.trimEnd cs ++ (trail ++ after)) := by
      rw [eq, ← List.append_assoc (Text.trimEnd cs), ← split]
    obtain ⟨t, part, reads⟩ := exists_rawPart atStart eq'
    refine ⟨t, ?_, reads⟩
    have taken : Text.takeBytes (byteLength before + byteLength cs) source.toList =
        some (before ++ cs) := by
      rw [eq, ← List.append_assoc, ← Text.byteLength_append, Text.takeBytes_append]
    rw [rawToken, if_pos rfl, taken, Option.map_some, trimmed, Text.byteLength_append]
    exact part

section

variable {before : List Char} {opening : Span}

/-- A raw token in front of an opening delimiter. -/
theorem exists_rawToken_of_found {text form rest : List Char} {m : Marker} (atStart : Bool)
    (free : ¬ d.Pinches source) (behind : d.BehindTag before)
    (eq : source.toList = before ++ (text ++ (form ++ rest))) (ne : text ≠ [])
    (mem : (m, form) ∈ d.patterns) (opens : m.isOpening = true) :
    ∃ t, rawToken source (byteLength before) (byteLength before + byteLength text) m.trims atStart =
      some t ∧ t.Reads source :=
  exists_rawToken m.trims atStart eq fun trims blank =>
    Delimiters.endsFirmly_of_not_pinches free behind eq ne mem opens trims blank

/-- A step in the text between tags. -/
theorem legible_of_stepText (behind : d.BehindTag before)
    (eq : source.toList = before ++ (s.rest ++ beyond)) (start : byteLength before = s.offset)
    (h : stepText d source s = .tokens ts next) :
    next.Stands d source beyond ∧ Legible d source ts := by
  obtain ⟨mode, trims, offset, rest⟩ := s
  cases start
  unfold stepText at h
  dsimp only at eq h
  split at h
  · split at h
    · cases h
    · next raw =>
      cases h
      obtain ⟨t, raw', reads⟩ := exists_rawToken false trims eq nofun
      cases raw.symm.trans raw'
      exact ⟨.inl rfl, List.forall_mem_singleton.2
        ⟨fun _ => reads, Token.worded_of_raw (kind_of_rawToken raw)⟩⟩
  · next text m form rest found =>
    obtain ⟨rfl, matched⟩ := Delimiters.append_of_find found
    obtain ⟨left, rfl⟩ := Delimiters.exists_append_of_match? matched
    have eq' : source.toList = before ++ (text ++ (form ++ (left ++ beyond))) := by
      rw [eq]
      simp only [List.append_assoc]
    rw [List.drop_left] at h
    have tag (kind : TokenKind) (keyword : kind ≠ .keyword) (string : kind ≠ .string) :
        (token kind (byteLength before + byteLength text) form).Legible d source := by
      rw [← Text.byteLength_append]
      exact legible_token (by rw [eq', List.append_assoc]) keyword string
    have stands (mode : Mode) (trims : Bool) (inside : mode ≠ .text) : Scan.Stands d source beyond
        ⟨mode, trims, byteLength before + byteLength text + byteLength form, left⟩ := by
      refine .inr ⟨before ++ text ++ form, ?_, ?_, fun text => absurd text inside⟩
      · rw [eq']
        simp only [List.append_assoc]
      · rw [Text.byteLength_append, Text.byteLength_append]
    split at h
    · next opens =>
      split at h
      · cases h
        exact ⟨stands _ _ (inside_ne_text _ _), List.forall_mem_singleton.2 (tag _ nofun nofun)⟩
      split at h
      · cases h
      · next some _ t raw =>
        cases h
        refine ⟨stands _ _ (inside_ne_text _ _), List.forall_mem_cons.2
          ⟨⟨fun free => ?_, Token.worded_of_raw (kind_of_rawToken raw)⟩,
            List.forall_mem_singleton.2 (tag _ nofun nofun)⟩⟩
        have kind := kind_of_rawToken raw
        obtain ⟨t', raw', reads⟩ := exists_rawToken_of_found trims (free kind) behind eq'
          (fun nil => some (List.isEmpty_iff.2 nil)) (Delimiters.mem_of_match? matched).1 opens
        cases raw.symm.trans raw'
        exact reads
    · cases h

/-- It breaks down only where a tag takes too many blanks. -/
theorem pinches_of_stepText (behind : d.BehindTag before)
    (eq : source.toList = before ++ (s.rest ++ beyond)) (start : byteLength before = s.offset)
    (h : stepText d source s = .failed .broken) : d.Pinches source := by
  obtain ⟨mode, trims, offset, rest⟩ := s
  cases start
  by_contra free
  unfold stepText at h
  dsimp only at eq h
  split at h
  · split at h
    · next none =>
      obtain ⟨t, raw, -⟩ := exists_rawToken false trims eq nofun
      cases none.symm.trans raw
    · cases h
  · next text m form rest found =>
    obtain ⟨rfl, matched⟩ := Delimiters.append_of_find found
    obtain ⟨left, rfl⟩ := Delimiters.exists_append_of_match? matched
    have eq' : source.toList = before ++ (text ++ (form ++ (left ++ beyond))) := by
      rw [eq]
      simp only [List.append_assoc]
    split at h
    · next opens =>
      split at h
      · cases h
      split at h
      · next some _ none =>
        obtain ⟨t, raw, -⟩ := exists_rawToken_of_found trims free behind eq'
          (fun nil => some (List.isEmpty_iff.2 nil)) (Delimiters.mem_of_match? matched).1 opens
        cases none.symm.trans raw
      · cases h
    · cases h

/-- A step inside a comment. -/
theorem legible_of_stepComment (eq : source.toList = before ++ (s.rest ++ beyond))
    (start : byteLength before = s.offset)
    (h : stepComment d source s opening = .tokens ts next) :
    next.Stands d source beyond ∧ Legible d source ts := by
  obtain ⟨mode, trims, offset, rest⟩ := s
  cases start
  unfold stepComment at h
  dsimp only at eq h
  split at h
  · cases h
    exact ⟨.inl rfl, List.forall_mem_singleton.2 (legible_token eq nofun nofun)⟩
  · next text m form rest found =>
    obtain ⟨rfl, matched⟩ := Delimiters.append_of_find found
    obtain ⟨left, rfl⟩ := Delimiters.exists_append_of_match? matched
    have eq' : source.toList = before ++ (text ++ (form ++ (left ++ beyond))) := by
      rw [eq]
      simp only [List.append_assoc]
    rw [List.drop_left] at h
    have tag : (token (.closing .comment) (byteLength before + byteLength text) form).Legible d
        source := by
      rw [← Text.byteLength_append]
      exact legible_token (by rw [eq', List.append_assoc]) nofun nofun
    split at h
    · cases h
    next closing =>
    have stands : Scan.Stands d source beyond
        ⟨.text, m.trims, byteLength before + byteLength text + byteLength form, left⟩ := by
      refine .inr ⟨before ++ text ++ form, ?_, ?_, fun _ => .inr ⟨before ++ text, form, m, rfl,
        (Delimiters.mem_of_match? matched).1, Bool.eq_false_iff.2 closing⟩⟩
      · rw [eq']
        simp only [List.append_assoc]
      · rw [Text.byteLength_append, Text.byteLength_append]
    split at h
    · split at h
      · cases h
        exact ⟨stands, List.forall_mem_singleton.2 tag⟩
      · cases h
        exact ⟨stands, List.forall_mem_cons.2
          ⟨legible_token eq' nofun nofun, List.forall_mem_singleton.2 tag⟩⟩
    · cases h

/-- A step inside a tag, whose closing delimiter may reach beyond the region. -/
theorem legible_of_stepTag {kind : TagKind} {depth : Nat} {path : Bool}
    (eq : source.toList = before ++ (s.rest ++ beyond)) (start : byteLength before = s.offset)
    (h : stepTag d source beyond s kind opening depth path = .tokens ts next) :
    next.Stands d source beyond ∧ Legible d source ts := by
  obtain ⟨mode, trims, offset, rest⟩ := s
  cases start
  unfold stepTag at h
  dsimp only at eq h
  split at h
  · next m form found =>
    have matched : d.match? (rest ++ beyond) = some (m, form) := by
      split at found
      · cases found
      · exact found
    obtain ⟨left, whole⟩ := Delimiters.exists_append_of_match? matched
    rw [whole] at eq
    split at h
    · cases h
    next closing =>
    split at h
    · cases h
      refine ⟨?_, List.forall_mem_singleton.2 (legible_token eq nofun nofun)⟩
      rcases List.append_eq_append_iff.1 whole with ⟨more, rfl, -⟩ | ⟨more, rfl, rfl⟩
      · -- the delimiter takes all that is left
        exact .inl (List.drop_eq_nil_iff.2 (by simp))
      · rw [List.drop_left]
        refine .inr ⟨before ++ form, ?_, Text.byteLength_append _ _, fun _ => .inr ⟨before, form, m,
          rfl, (Delimiters.mem_of_match? matched).1, Bool.eq_false_iff.2 closing⟩⟩
        rw [eq, List.append_assoc]
    · cases h
  · split at h
    · cases h
    · next k word read =>
      cases h
      obtain ⟨left, rfl⟩ := prefix_of_lexeme read
      rw [List.append_assoc] at eq
      rw [List.drop_left]
      refine ⟨.inr ⟨before ++ word, ?_, Text.byteLength_append _ _, nofun⟩,
        List.forall_mem_singleton.2 ⟨fun _ => Token.reads_of_append eq, worded_of_lexeme read _⟩⟩
      rw [eq, List.append_assoc]

end

/-- A step reads tokens that stand in the source. -/
theorem legible_of_step (ne : s.rest ≠ []) (stands : s.Stands d source beyond)
    (h : step d source beyond s = .tokens ts next) :
    next.Stands d source beyond ∧ Legible d source ts := by
  obtain empty | ⟨before, eq, start, behind⟩ := stands
  · exact absurd empty ne
  unfold step at h
  split at h
  · next text => exact legible_of_stepText (behind text) eq start h
  · exact legible_of_stepTag eq start h
  · exact legible_of_stepComment eq start h

/-- A step breaks down only where a tag takes too many blanks. -/
theorem pinches_of_step (ne : s.rest ≠ []) (stands : s.Stands d source beyond)
    (h : step d source beyond s = .failed .broken) : d.Pinches source := by
  obtain empty | ⟨before, eq, start, behind⟩ := stands
  · exact absurd empty ne
  unfold step at h
  split at h
  · next text => exact pinches_of_stepText (behind text) eq start h
  · unfold stepTag at h
    dsimp only at h
    repeat' split at h
    all_goals cases h
  · unfold stepComment at h
    dsimp only at h
    repeat' split at h
    all_goals cases h

/-- All tokens stand in the source, and there is no failure but an error, unless a tag takes too
many blanks. -/
theorem legible_of_run {n : Nat} (stands : s.Stands d source beyond) :
    Legible d source (run d source beyond n s).tokens ∧
      ((run d source beyond n s).failure = some .broken → d.Pinches source) := by
  -- on the number of steps, each of which leaves the lexer where it still stands in the source
  induction n generalizing s with
  | zero => exact ⟨nofun, nofun⟩
  | succ n ih =>
    by_cases ne : s.rest = []
    · rw [run_of_nil ne]
      exact ⟨nofun, nofun⟩
    · cases read : step d source beyond s with
      | failed f =>
        rw [run_of_failed ne read]
        refine ⟨nofun, fun broken => ?_⟩
        cases broken
        exact pinches_of_step ne stands read
      | tokens ts next =>
        rw [run_of_tokens ne read]
        obtain ⟨stands', legible⟩ := legible_of_step ne stands read
        obtain ⟨others, breaks⟩ := ih stands'
        exact ⟨List.forall_mem_append.2 ⟨legible, others⟩, breaks⟩

end Lexer

open Lexer

variable {d : Delimiters} {source : String}

/-- The tokens of a source stand in it, and the lexer fails with an error only. -/
theorem legible_of_lex (d : Delimiters) (source : String) :
    Lexer.Legible d source (lex d source).tokens ∧
      ((lex d source).failure = some .broken → d.Pinches source) :=
  legible_of_run (.inr ⟨[], by simp, rfl, fun _ => .inl rfl⟩)

/-- So do the tokens of a region of a source. -/
theorem legible_of_lexRegion {region : Span} {l : Lexed} (h : lexRegion d source region = some l) :
    Lexer.Legible d source l.tokens ∧ (l.failure = some .broken → d.Pinches source) := by
  unfold lexRegion at h
  obtain ⟨cs, part, h⟩ := Option.bind_eq_some_iff.1 h
  obtain ⟨beyond, behind, h⟩ := Option.bind_eq_some_iff.1 h
  cases h
  obtain ⟨before, after, eq, start, stop⟩ := Text.exists_append_of_sliceChars part
  have same : after = beyond := by
    rw [eq, ← List.append_assoc, ← stop, Text.dropBytes_append] at behind
    exact Option.some.inj behind
  exact legible_of_run (.inr ⟨before, same ▸ eq, start, nofun⟩)

/-- The tokens of a source have spans in it. -/
theorem fits_of_lex : Fit source (lex d source).significant := by
  intro t mem
  exact (legible_of_lex d source).1.fit t (List.mem_filter.1 mem).1

/-- The tokens of a region of a source have spans in the source. -/
theorem fits_of_lexRegion {region : Span} {l : Lexed} (h : lexRegion d source region = some l) :
    Fit source l.significant := by
  intro t mem
  exact (legible_of_lexRegion h).1.fit t (List.mem_filter.1 mem).1

end Stencil
