import Stencil.Source.Lexer

/-!
# The order of tokens

The tokens of a source stand in order: none starts before the start or the end of an earlier one.
Only raw text next to a tag that trims may end before it starts.

- `Token.Before`: the order.
- `InOrder`: tokens in order between two offsets.
- `Lexer.FirstToken`, `Lexer.firstToken_of_lexeme`: what the readers of the lexer take.
- `Lexer.inOrder_step`: what one step of the lexer adds is in order from where it starts.
- `significant_inOrder`: the tokens of a source are in order.
-/

namespace Stencil

/-! ## Bytes -/

namespace Text

theorem eq_append_of_takeBytes {n : Nat} {cs before : List Char}
    (h : takeBytes n cs = some before) :
    byteLength before = n ∧ ∃ rest, cs = before ++ rest := by
  induction cs generalizing n before with
  | nil =>
    simp only [takeBytes] at h
    split at h
    · next zero =>
      cases h
      exact ⟨zero.symm, [], rfl⟩
    · cases h
  | cons c cs ih =>
    simp only [takeBytes] at h
    split at h
    · next zero =>
      cases h
      exact ⟨zero.symm, c :: cs, rfl⟩
    split at h
    · next fits =>
      obtain ⟨before, taken, rfl⟩ := Option.map_eq_some_iff.1 h
      obtain ⟨length, rest, rfl⟩ := ih taken
      exact ⟨by rw [byteLength_cons, length]; omega, rest, rfl⟩
    · cases h

theorem byteLength_of_sliceChars {span : Span} {cs part : List Char}
    (h : sliceChars span cs = some part) :
    span.start ≤ span.stop ∧ byteLength part = span.stop - span.start := by
  unfold sliceChars at h
  split at h
  · next le =>
    obtain ⟨rest, -, taken⟩ := Option.bind_eq_some_iff.1 h
    exact ⟨le, (eq_append_of_takeBytes taken).1⟩
  · cases h

theorem byteLength_trimEnd_le (cs : List Char) : byteLength (trimEnd cs) ≤ byteLength cs := by
  obtain ⟨blanks, eq, -⟩ := exists_trimEnd_append cs
  calc byteLength (trimEnd cs) ≤ byteLength (trimEnd cs) + byteLength blanks :=
        Nat.le_add_right _ _
    _ = byteLength cs := by rw [← byteLength_append, ← eq]

theorem byteLength_trimStart_le (cs : List Char) : byteLength (trimStart cs) ≤ byteLength cs := by
  calc byteLength (trimStart cs) ≤ byteLength (cs.takeWhile isBlank) + byteLength (trimStart cs) :=
        Nat.le_add_left _ _
    _ = byteLength cs := by rw [← byteLength_append, takeWhile_append_trimStart]

theorem byteLength_pos {cs : List Char} (h : cs ≠ []) : 0 < byteLength cs := by
  obtain ⟨c, cs, rfl⟩ := List.exists_cons_of_ne_nil h
  rw [byteLength_cons]
  exact Nat.add_pos_left (Char.utf8Size_pos c) _

end Text

/-! ## Order -/

/-- The second token starts neither before the start nor before the end of the first one. -/
def Token.Before (t u : Token) : Prop := t.span.start ≤ u.span.start ∧ t.span.stop ≤ u.span.start

/-- Tokens in order between two offsets. A name takes some text. -/
structure InOrder (first last : Nat) (ts : List Token) : Prop where
  start_ge : ∀ t ∈ ts, first ≤ t.span.start
  start_le : ∀ t ∈ ts, t.span.start ≤ last
  stop_le : ∀ t ∈ ts, t.span.stop ≤ last
  ordered : ts.Pairwise Token.Before
  names : ∀ t ∈ ts, t.kind = .identifier → t.span.start < t.span.stop

namespace InOrder

variable {first middle last : Nat} {ts us : List Token}

theorem nil : InOrder first last [] :=
  ⟨by simp, by simp, by simp, .nil, by simp⟩

theorem single {t : Token} (start_ge : first ≤ t.span.start) (start_le : t.span.start ≤ last)
    (stop_le : t.span.stop ≤ last)
    (name : t.kind = .identifier → t.span.start < t.span.stop) : InOrder first last [t] := by
  constructor <;> simp_all

/-- Tokens up to an offset stand before tokens from it on. -/
theorem append (ht : InOrder first middle ts) (hu : InOrder middle last us) (le : first ≤ middle)
    (le' : middle ≤ last) : InOrder first last (ts ++ us) := by
  constructor
  · intro t h
    rcases List.mem_append.1 h with h | h
    · exact ht.start_ge t h
    · exact Nat.le_trans le (hu.start_ge t h)
  · intro t h
    rcases List.mem_append.1 h with h | h
    · exact Nat.le_trans (ht.start_le t h) le'
    · exact hu.start_le t h
  · intro t h
    rcases List.mem_append.1 h with h | h
    · exact Nat.le_trans (ht.stop_le t h) le'
    · exact hu.stop_le t h
  · refine List.pairwise_append.2 ⟨ht.ordered, hu.ordered, fun t h u h' => ?_⟩
    have ge := hu.start_ge u h'
    exact ⟨Nat.le_trans (ht.start_le t h) ge, Nat.le_trans (ht.stop_le t h) ge⟩
  · intro t h
    rcases List.mem_append.1 h with h | h
    · exact ht.names t h
    · exact hu.names t h

/-- Tokens left out do not disturb the order. -/
theorem sublist (h : InOrder first last ts) (sub : us.Sublist ts) : InOrder first last us :=
  ⟨fun t ht => h.start_ge t (sub.subset ht), fun t ht => h.start_le t (sub.subset ht),
    fun t ht => h.stop_le t (sub.subset ht), h.ordered.sublist sub,
    fun t ht => h.names t (sub.subset ht)⟩

/-- What is behind a token comes after its start. -/
theorem from_start {t : Token} (h : InOrder first last (t :: ts)) :
    InOrder t.span.start last ts :=
  { h.sublist (List.sublist_cons_self t ts) with
    start_ge := fun _ hu => (List.rel_of_pairwise_cons h.ordered hu).1 }

/-- What is behind a token comes after its end. -/
theorem from_stop {t : Token} (h : InOrder first last (t :: ts)) : InOrder t.span.stop last ts :=
  { h.sublist (List.sublist_cons_self t ts) with
    start_ge := fun _ hu => (List.rel_of_pairwise_cons h.ordered hu).2 }

end InOrder

/-! ## Steps -/

namespace Lexer

/-- The text of the source between two offsets as a raw token, without its leading blanks if the
tag before it trims. -/
def rawPart (source : String) (start stop : Nat) (trimsStart : Bool) : Option Token :=
  if trimsStart then
    (Text.sliceChars ⟨start, stop⟩ source.toList).bind fun cs =>
      some ⟨.raw, ⟨stop - Text.byteLength (Text.trimStart cs), stop⟩,
        String.ofList (Text.trimStart cs)⟩
  else some ⟨.raw, ⟨start, stop⟩, (Text.slice ⟨start, stop⟩ source).getD ""⟩

/-- The end of a raw token is found first, its start after that. -/
theorem rawPart_of_rawToken {source : String} {start stop : Nat} {trimsEnd trimsStart : Bool}
    {t : Token} (h : rawToken source start stop trimsEnd trimsStart = some t) :
    trimsEnd = false ∧ rawPart source start stop trimsStart = some t ∨
      trimsEnd = true ∧ ∃ before, Text.takeBytes stop source.toList = some before ∧
        rawPart source start (Text.byteLength (Text.trimEnd before)) trimsStart = some t := by
  simp only [rawToken, Option.bind_eq_bind] at h
  cases trimsEnd with
  | false => exact .inl ⟨rfl, h⟩
  | true =>
    obtain ⟨stop', ends, h⟩ := Option.bind_eq_some_iff.1 h
    obtain ⟨before, taken, rfl⟩ := Option.map_eq_some_iff.1 ends
    exact .inr ⟨rfl, before, taken, h⟩

/-- Raw text up to an offset, of which the leading blanks may be left out. -/
theorem inOrder_rawPart {source : String} {start stop stop' : Nat} {trimsStart : Bool} {t : Token}
    (le : start ≤ stop) (le' : stop' ≤ stop)
    (h : rawPart source start stop' trimsStart = some t) : InOrder start stop [t] := by
  -- blanks at the start are left out by moving the start towards the end
  unfold rawPart at h
  split at h
  · obtain ⟨cs, part, h⟩ := Option.bind_eq_some_iff.1 h
    obtain ⟨bound, length⟩ := Text.byteLength_of_sliceChars part
    have kept := Text.byteLength_trimStart_le cs
    cases h
    refine .single ?_ ?_ ?_ nofun
    · show start ≤ stop' - Text.byteLength (Text.trimStart cs)
      simp only at bound length
      omega
    · show stop' - Text.byteLength (Text.trimStart cs) ≤ stop
      omega
    · exact le'
  · cases h
    exact .single (Nat.le_refl _) le le' nofun

/-- What is left of raw text lies in its place. -/
theorem inOrder_rawToken {source : String} {start stop : Nat} {trimsEnd trimsStart : Bool}
    {t : Token} (le : start ≤ stop) (h : rawToken source start stop trimsEnd trimsStart = some t) :
    InOrder start stop [t] := by
  rcases rawPart_of_rawToken h with ⟨-, part⟩ | ⟨-, before, taken, part⟩
  · exact inOrder_rawPart le (Nat.le_refl _) part
  -- blanks at the end are left out first, so the end may come before the start
  · refine inOrder_rawPart le ?_ part
    rw [← (Text.eq_append_of_takeBytes taken).1]
    exact Text.byteLength_trimEnd_le before

/-! ### The first token of a text -/

/-- The character is no mark, and no token of a fixed form begins with it. -/
def IsOther (c : Char) : Prop := single? c = none ∧ c ≠ '?' ∧ c ≠ '"'

/-- The kind of a name. -/
def nameKind (name : List Char) : TokenKind :=
  if (Keyword.ofString? (String.ofList name)).isSome then .keyword else .identifier

theorem nameKind_eq (name : List Char) :
    nameKind name = .keyword ∨ nameKind name = .identifier := by
  unfold nameKind
  split
  · exact .inl rfl
  · exact .inr rfl

theorem nameKind_ne {kind : TokenKind} (keyword : kind ≠ .keyword)
    (identifier : kind ≠ .identifier) (name : List Char) : nameKind name ≠ kind := by
  intro h
  rcases nameKind_eq name with eq | eq
  · exact keyword (h.symm.trans eq)
  · exact identifier (h.symm.trans eq)

/-- The kind and the characters of the first token of a text inside a tag, with what each reader
asks of the text. -/
inductive FirstToken (path : Bool) : List Char → TokenKind → List Char → Prop
  | mark {c : Char} {cs : List Char} {kind : TokenKind} (h : single? c = some kind) :
      FirstToken path (c :: cs) kind [c]
  | questionDot {cs : List Char} : FirstToken path ('?' :: '.' :: cs) .questionDot ['?', '.']
  | string {cs body : List Char} (h : stringBody false cs = .ok body) :
      FirstToken path ('"' :: cs) .string ('"' :: body)
  | index {c : Char} {cs : List Char} (other : IsOther c) (digit : c.isDigit) (behind : path) :
      FirstToken path (c :: cs) .index (c :: cs.takeWhile Char.isDigit)
  | number {c : Char} {cs : List Char} (other : IsOther c) (digit : c.isDigit)
      (apart : path = false) : FirstToken path (c :: cs) .number (c :: cs.takeWhile isNumberPart)
  | blank {c : Char} {cs : List Char} (other : IsOther c) (digit : c.isDigit = false)
      (space : isSpace c) : FirstToken path (c :: cs) .whitespace (c :: cs.takeWhile isSpace)
  | name {c : Char} {cs : List Char} (other : IsOther c) (digit : c.isDigit = false)
      (space : isSpace c = false) (begins : Text.isIdentifierStart c) :
      FirstToken path (c :: cs) (nameKind (c :: cs.takeWhile Text.isIdentifierPart))
        (c :: cs.takeWhile Text.isIdentifierPart)

theorem firstToken_of_lexeme {path : Bool} {cs word : List Char} {kind : TokenKind}
    (h : lexeme path cs = .ok (kind, word)) : FirstToken path cs kind word := by
  cases cs with
  | nil => cases h
  | cons c cs =>
    simp only [lexeme] at h
    split at h
    · next mark =>
      cases h
      exact .mark mark
    next unmarked =>
    split at h
    · next question =>
      subst question
      split at h
      · cases h
        exact .questionDot
      · cases h
      · cases h
    next question =>
    split at h
    · next quote =>
      subst quote
      split at h
      · next body read =>
        cases h
        exact .string read
      · cases h
    next quote =>
    have other : IsOther c := ⟨unmarked, question, quote⟩
    split at h
    · next index =>
      cases h
      obtain ⟨digit, behind⟩ := Bool.and_eq_true_iff.1 index
      exact .index other digit behind
    next index =>
    split at h
    · next digit =>
      cases h
      exact .number other digit (by simpa [digit] using index)
    next digit =>
    split at h
    · next space =>
      cases h
      exact .blank other (by simpa using digit) space
    next space =>
    split at h
    · next begins =>
      have name : FirstToken path (c :: cs) _ _ :=
        .name other (by simpa using digit) (by simpa using space) begins
      unfold nameKind at name
      split at h
      · next keyword =>
        cases h
        rwa [if_pos keyword] at name
      · next keyword =>
        cases h
        rwa [if_neg keyword] at name
    · cases h

theorem FirstToken.lexeme_eq {path : Bool} {cs word : List Char} {kind : TokenKind}
    (h : FirstToken path cs kind word) : lexeme path cs = .ok (kind, word) := by
  cases h with
  | mark h => simp only [lexeme, h]
  | questionDot => rfl
  | string h =>
    have quote : single? '"' = none := rfl
    simp only [lexeme, quote, h]
    rfl
  | index other digit behind =>
    obtain ⟨unmarked, question, quote⟩ := other
    simp only [lexeme, unmarked, if_neg question, if_neg quote, digit, behind, Bool.and_self,
      if_true]
  | number other digit apart =>
    obtain ⟨unmarked, question, quote⟩ := other
    simp only [lexeme, unmarked, if_neg question, if_neg quote, digit, apart, Bool.and_false,
      Bool.false_eq_true, if_false, if_true]
  | blank other digit space =>
    obtain ⟨unmarked, question, quote⟩ := other
    simp only [lexeme, unmarked, if_neg question, if_neg quote, digit, space, Bool.false_and,
      Bool.false_eq_true, if_false, if_true]
  | name other digit space begins =>
    obtain ⟨unmarked, question, quote⟩ := other
    simp only [lexeme, unmarked, if_neg question, if_neg quote, digit, space, begins,
      Bool.false_and, Bool.false_eq_true, if_false, if_true, nameKind]
    split
    · rfl
    · rfl

theorem lexeme_ne_nil {path : Bool} {cs text : List Char} {kind : TokenKind}
    (h : lexeme path cs = .ok (kind, text)) : text ≠ [] := by
  cases firstToken_of_lexeme h
  all_goals exact List.cons_ne_nil _ _

/-- A token of some characters is in order where they stand. -/
theorem inOrder_token (kind : TokenKind) (offset : Nat) {cs : List Char} (h : cs ≠ []) :
    InOrder offset (offset + Text.byteLength cs) [token kind offset cs] := by
  have pos := Text.byteLength_pos h
  refine .single (Nat.le_refl _) (Nat.le_add_right _ _) (Nat.le_refl _) fun _ => ?_
  show offset < offset + Text.byteLength cs
  omega

/-- A token that is no name is in order where it stands, also without any text. -/
theorem inOrder_other (kind : TokenKind) (name : kind ≠ .identifier) (offset : Nat)
    (cs : List Char) :
    InOrder offset (offset + Text.byteLength cs) [token kind offset cs] :=
  .single (Nat.le_refl _) (Nat.le_add_right _ _) (Nat.le_refl _) fun h => absurd h name

theorem inOrder_stepText {d : Delimiters} {source : String} {s next : Scan} {ts : List Token}
    (h : stepText d source s = .tokens ts next) :
    s.offset ≤ next.offset ∧ InOrder s.offset next.offset ts := by
  unfold stepText at h
  split at h
  · simp only at h
    split at h
    · cases h
    · next t raw =>
      cases h
      have le : s.offset ≤ s.offset + Text.byteLength s.rest := Nat.le_add_right _ _
      exact ⟨le, inOrder_rawToken le raw⟩
  · next before marker form rest found =>
    simp only at h
    have le : s.offset ≤ s.offset + Text.byteLength before := Nat.le_add_right _ _
    have le' := Nat.le_add_right (s.offset + Text.byteLength before) (Text.byteLength form)
    -- the raw text up to the tag, if any of it is left, and then the tag
    have tag := inOrder_other (.opening marker.kind) nofun
      (s.offset + Text.byteLength before) form
    split at h
    · split at h
      · cases h
        exact ⟨Nat.le_trans le le', InOrder.nil.append tag le le'⟩
      split at h
      · cases h
      · next t raw =>
        cases h
        exact ⟨Nat.le_trans le le', (inOrder_rawToken le raw).append tag le le'⟩
    · cases h

theorem inOrder_stepTag {d : Delimiters} {source : String} {beyond : List Char} {s next : Scan}
    {kind : TagKind} {opening : Span} {depth : Nat} {path : Bool} {ts : List Token}
    (h : stepTag d source beyond s kind opening depth path = .tokens ts next) :
    s.offset ≤ next.offset ∧ InOrder s.offset next.offset ts := by
  unfold stepTag at h
  simp only at h
  split at h
  · next marker form _ =>
    split at h
    · cases h
    split at h
    · cases h
      exact ⟨Nat.le_add_right _ _, inOrder_other (.closing kind) nofun s.offset form⟩
    · cases h
  · split at h
    · cases h
    · next k cs read =>
      cases h
      exact ⟨Nat.le_add_right _ _, inOrder_token k s.offset (lexeme_ne_nil read)⟩

theorem inOrder_stepComment {d : Delimiters} {source : String} {s next : Scan} {opening : Span}
    {ts : List Token} (h : stepComment d source s opening = .tokens ts next) :
    s.offset ≤ next.offset ∧ InOrder s.offset next.offset ts := by
  unfold stepComment at h
  split at h
  · cases h
    exact ⟨Nat.le_add_right _ _, inOrder_other .raw nofun s.offset s.rest⟩
  · next before marker form rest found =>
    simp only at h
    have le : s.offset ≤ s.offset + Text.byteLength before := Nat.le_add_right _ _
    have le' := Nat.le_add_right (s.offset + Text.byteLength before) (Text.byteLength form)
    -- the text of the comment, if it has one, and then its end
    have text := inOrder_other .raw nofun s.offset before
    have tag := inOrder_other (.closing .comment) nofun
      (s.offset + Text.byteLength before) form
    split at h
    · cases h
    split at h
    · split at h
      · cases h
        exact ⟨Nat.le_trans le le', InOrder.nil.append tag le le'⟩
      · cases h
        exact ⟨Nat.le_trans le le', text.append tag le le'⟩
    · cases h

/-- What one step adds is in order from where it starts to where it ends. -/
theorem inOrder_step {d : Delimiters} {source : String} {beyond : List Char} {s next : Scan}
    {ts : List Token} (h : step d source beyond s = .tokens ts next) :
    s.offset ≤ next.offset ∧ InOrder s.offset next.offset ts := by
  unfold step at h
  split at h
  · exact inOrder_stepText h
  · exact inOrder_stepTag h
  · exact inOrder_stepComment h

/-- The tokens of a run are in order from where it starts. -/
theorem inOrder_run (d : Delimiters) (source : String) (beyond : List Char) (n : Nat) (s : Scan) :
    ∃ last, s.offset ≤ last ∧ InOrder s.offset last (run d source beyond n s).tokens := by
  -- on the number of steps; what a step adds ends where the next step starts
  induction n generalizing s with
  | zero => exact ⟨s.offset, Nat.le_refl _, .nil⟩
  | succ n ih =>
    rw [run]
    split
    · exact ⟨s.offset, Nat.le_refl _, .nil⟩
    split
    · exact ⟨s.offset, Nat.le_refl _, .nil⟩
    · next ts next' stepped =>
      obtain ⟨le, first⟩ := inOrder_step stepped
      obtain ⟨last, le', others⟩ := ih next'
      exact ⟨last, Nat.le_trans le le', first.append others le le'⟩

end Lexer

/-- The tokens of a source are in order, with or without the blanks inside tags. -/
theorem significant_inOrder (d : Delimiters) (source : String) :
    ∃ last, InOrder 0 last (lex d source).significant := by
  obtain ⟨last, -, ordered⟩ := Lexer.inOrder_run d source [] (source.toList.length + 1)
    ⟨.text, false, 0, source.toList⟩
  exact ⟨last, ordered.sublist List.filter_sublist⟩

end Stencil
