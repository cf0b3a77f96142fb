import Mathlib.Data.List.DropRight
import Stencil.Proofs.Markup
import Stencil.Proofs.Tiling

/-!
# Regions that are read twice

A part of the inside of a tag is read once with the whole source and once by itself. The second time
the lexer starts with no open brace and no member access before it, and its text ends where the part
does. If the part starts where no brace is open either and ends with a token, both readings see the
same tokens.

- `Lexer.lexeme_cut`: a token is the same if the text is cut behind it.
- `Lexer.Strung`: tiles that are read one after the other inside a tag.
- `Lexer.exists_scan_of_run`: where the lexer is before a token, and what it reads then.
- `Lexer.exists_read_of_run`: a token inside a tag has been read as one.
- `Lexer.exists_inside_of_run`: where the lexer is behind the opening delimiter of a tag.
- `Lexer.exists_strung_of_run`: what is read up to the end of a tag is strung.
- `Lexer.run_of_strung`, `lexRegion_of_strung`: the first tiles of it are read by themselves.
-/

namespace Stencil

namespace Tile

/-- The tile is blanks inside a tag. -/
def isBlank (p : Tile) : Bool := p.role.kind = .whitespace

end Tile

/-! ## Tokens that are cut off from what is behind them -/

namespace Lexer

variable {path : Bool} {cs ds es word : List Char} {kind : TokenKind} {p : Char → Bool}

/-- The characters that satisfy a condition are the same if the text is cut behind them. -/
theorem takeWhile_cut (h : (cs ++ ds).takeWhile p = cs) (cut : es <+: ds) :
    (cs ++ es).takeWhile p = cs := by
  induction cs with
  | nil =>
    obtain ⟨rest, rfl⟩ := cut
    cases es with
    | nil => rfl
    | cons e es =>
      have stops : p e = false := by
        by_contra goesOn
        rw [List.nil_append, List.cons_append, List.takeWhile_cons_of_pos (by simpa using goesOn)]
          at h
        cases h
      exact List.takeWhile_cons_of_neg (by simp [stops])
  | cons c cs ih =>
    rw [List.cons_append, List.takeWhile_cons] at h ⊢
    split at h
    · next taken =>
      rw [if_pos taken, ih (List.cons.inj h).2]
    · cases h

theorem stringBody_cut {escaped : Bool} {body : List Char}
    (h : stringBody escaped cs = .ok body) : stringBody escaped body = .ok body := by
  induction cs generalizing escaped body with
  | nil => cases h
  | cons c cs ih =>
    rw [stringBody] at h
    split at h
    · cases h
    next goesOn =>
    split at h
    · next closes =>
      cases h
      rw [stringBody, if_neg goesOn, if_pos closes]
    next inside =>
    split at h
    · next body' read =>
      cases h
      rw [stringBody, if_neg goesOn, if_neg inside, ih read]
    · cases h

/-- A token is the same if the text is cut behind it. -/
theorem lexeme_cut (h : lexeme path (word ++ ds) = .ok (kind, word)) (cut : es <+: ds) :
    lexeme path (word ++ es) = .ok (kind, word) := by
  refine FirstToken.lexeme_eq ?_
  -- the reader is chosen by the first character, which stays
  generalize whole : word ++ ds = cs at h
  have same {c : Char} {cs : List Char} {p : Char → Bool}
      (whole : c :: cs.takeWhile p ++ ds = c :: cs) :
      (cs.takeWhile p ++ es).takeWhile p = cs.takeWhile p :=
    takeWhile_cut (congrArg (List.takeWhile p) (List.cons.inj whole).2) cut
  cases firstToken_of_lexeme h with
  | mark mark => exact .mark mark
  | questionDot => exact .questionDot
  | string read => exact .string (stringBody_append (stringBody_cut read))
  | @index c cs other digit behind =>
    have token : FirstToken path (c :: (cs.takeWhile Char.isDigit ++ es)) _ _ :=
      .index other digit behind
    rwa [same whole] at token
  | @number c cs other digit apart =>
    have token : FirstToken path (c :: (cs.takeWhile isNumberPart ++ es)) _ _ :=
      .number other digit apart
    rwa [same whole] at token
  | @blank c cs other digit space =>
    have token : FirstToken path (c :: (cs.takeWhile isSpace ++ es)) _ _ :=
      .blank other digit space
    rwa [same whole] at token
  | @name c cs other digit space begins =>
    have token : FirstToken path (c :: (cs.takeWhile Text.isIdentifierPart ++ es)) _ _ :=
      .name other digit space begins
    rwa [same whole] at token

/-! ## Blanks around tokens -/

/-- A token other than blanks does not start with one. -/
theorem isSpace_head_of_lexeme (h : lexeme path cs = .ok (kind, word)) (hk : kind ≠ .whitespace) :
    ∀ c ∈ word.head?, isSpace c = false := by
  intro c first
  obtain ⟨rest, rfl⟩ := prefix_of_lexeme h
  obtain ⟨word, rfl⟩ : ∃ word', word = c :: word' := List.head?_eq_some_iff.1 first
  by_contra space
  rw [List.cons_append, lexeme_of_isSpace (by simpa using space)] at h
  exact hk (Prod.mk.inj (Except.ok.inj h)).1.symm

/-- A token other than blanks does not end with one. -/
theorem isSpace_getLast_of_lexeme (h : lexeme path cs = .ok (kind, word))
    (hk : kind ≠ .whitespace) : ∀ c ∈ word.getLast?, isSpace c = false := by
  have first : ∀ c' ∈ word.head?, isSpace c' = false := isSpace_head_of_lexeme h hk
  -- the characters that satisfy a condition which blanks do not
  have run {c : Char} {cs : List Char} {p : Char → Bool}
      (first : ∀ c' ∈ (c :: cs.takeWhile p).head?, isSpace c' = false)
      (hp : ∀ c, isSpace c → p c = false) :
      ∀ c' ∈ (c :: cs.takeWhile p).getLast?, isSpace c' = false := by
    intro d last
    rcases List.mem_cons.1 (List.mem_of_mem_getLast? last) with rfl | mem
    · exact first d rfl
    · by_contra space
      have stops := hp d (by simpa using space)
      rw [List.mem_takeWhile_imp mem] at stops
      cases stops
  have blanks {p : Char → Bool} (tab : p '\t' = false) (blank : p ' ' = false)
      (cr : p '\r' = false) (lf : p '\n' = false) (c : Char) (hc : isSpace c) :
      p c = false := by
    rcases eq_of_isSpace hc with rfl | rfl | rfl | rfl
    · exact tab
    · exact blank
    · exact cr
    · exact lf
  cases firstToken_of_lexeme h with
  | mark => exact first
  | questionDot =>
    intro d last
    cases last
    rfl
  | string read =>
    intro d last
    rw [List.getLast?_cons, getLast?_of_stringBody read] at last
    cases last
    rfl
  | index => exact run first (blanks rfl rfl rfl rfl)
  | number => exact run first (blanks rfl rfl rfl rfl)
  | blank => exact absurd rfl hk
  | name => exact run first (blanks (by decide) (by decide) (by decide) (by decide))

/-! ## Tiles that are read one after the other -/

open Text (byteLength)

/-- Tiles that are read one after the other inside a tag before some text, from a number of open
braces and from behind a member access or not. -/
inductive Strung (d : Delimiters) (behind : List Char) : Nat → Bool → List Tile → Prop
  | nil {depth : Nat} {path : Bool} : Strung d behind depth path []
  | cons {depth : Nat} {path : Bool} {kind : TokenKind} {word : List Char} {ps : List Tile}
      (free : 0 < depth ∧ word.head? = some '\x7d' ∨
        d.match? (word ++ (Tile.source ps ++ behind)) = none)
      (read : lexeme path (word ++ (Tile.source ps ++ behind)) = .ok (kind, word))
      (h : Strung d behind (depthAfter depth kind) (pathAfter path kind) ps) :
      Strung d behind depth path (.whole (.inside kind) word :: ps)

variable {d : Delimiters} {source : String} {behind : List Char} {depth : Nat} {p : Tile}
  {ps qs : List Tile}

namespace Strung

/-- Every tile has been read. -/
theorem exists_read (h : Strung d behind depth path ps) (mem : p ∈ ps) :
    ∃ kind word path cs, p = .whole (.inside kind) word ∧ lexeme path cs = .ok (kind, word) := by
  induction h with
  | nil => cases mem
  | cons _ read _ ih =>
    rcases List.mem_cons.1 mem with rfl | mem
    · exact ⟨_, _, _, _, rfl, read⟩
    · exact ih mem

/-- The first of some tiles are read before the others. -/
theorem left (h : Strung d behind depth path (ps ++ qs)) :
    Strung d (Tile.source qs ++ behind) depth path ps := by
  induction ps generalizing depth path with
  | nil => exact .nil
  | cons p ps ih =>
    rw [List.cons_append] at h
    cases h with
    | cons free read h =>
      rw [Tile.source_append, List.append_assoc] at free read
      exact .cons free read (ih h)

/-- Blanks neither open a brace nor end a member access. -/
theorem of_blanks (h : Strung d behind depth path (ps ++ qs)) (blank : ∀ p ∈ ps, p.isBlank) :
    Strung d behind depth path qs := by
  induction ps with
  | nil => exact h
  | cons p ps ih =>
    obtain ⟨first, others⟩ := List.forall_mem_cons.1 blank
    cases h with
    | @cons _ _ kind word _ free read h =>
      have space : kind = .whitespace := of_decide_eq_true first
      subst space
      exact ih h others

/-- Behind a name no brace is opened by it, and no member access is right before. -/
theorem of_name (h : Strung d behind depth path (p :: ps)) (name : p.role.kind = .identifier) :
    Strung d behind depth false ps := by
  cases h with
  | @cons _ _ kind word _ free read h =>
    have named : kind = .identifier := name
    subst named
    exact h

theorem chars_ne_nil (h : Strung d behind depth path ps) (mem : p ∈ ps) : p.chars ≠ [] := by
  obtain ⟨kind, word, path, cs, rfl, read⟩ := h.exists_read mem
  rw [Tile.chars_whole]
  exact lexeme_ne_nil read

/-- Blanks have no other characters. -/
theorem isSpace_of_isBlank (h : Strung d behind depth path ps)
    (blank : ∀ p ∈ qs, p ∈ ps ∧ p.isBlank) : ∀ c ∈ Tile.source qs, isSpace c := by
  intro c mem
  obtain ⟨p, mem, mem'⟩ := List.mem_flatMap.1 mem
  obtain ⟨mem, space⟩ := blank p mem
  obtain ⟨kind, word, path, cs, rfl, read⟩ := h.exists_read mem
  have space : kind = .whitespace := of_decide_eq_true space
  subst space
  rw [Tile.chars_whole] at mem'
  exact isSpace_of_lexeme read c mem'

/-- Tiles that begin with something else do not begin with a blank character. -/
theorem isSpace_head (h : Strung d behind depth path ps)
    (solid : ∀ p ∈ qs.head?, p ∈ ps ∧ p.isBlank = false) :
    ∀ c ∈ (Tile.source qs).head?, isSpace c = false := by
  intro c first
  cases qs with
  | nil => cases first
  | cons p qs =>
    obtain ⟨mem, solid⟩ := solid p rfl
    rw [Tile.source_cons, List.head?_append_of_ne_nil _ (h.chars_ne_nil mem)] at first
    obtain ⟨kind, word, path, cs, rfl, read⟩ := h.exists_read mem
    rw [Tile.chars_whole] at first
    exact isSpace_head_of_lexeme read (of_decide_eq_false solid) c first

/-- Tiles that end with something else do not end with a blank character. -/
theorem isSpace_getLast (h : Strung d behind depth path ps)
    (solid : ∀ p ∈ qs.getLast?, p ∈ ps ∧ p.isBlank = false) :
    ∀ c ∈ (Tile.source qs).getLast?, isSpace c = false := by
  intro c last
  rcases List.eq_nil_or_concat' qs with rfl | ⟨qs, p, rfl⟩
  · cases last
  · rw [List.getLast?_concat] at solid
    obtain ⟨mem, solid⟩ := solid p rfl
    rw [Tile.source_append, Tile.source_cons, Tile.source_nil, List.append_nil,
      List.getLast?_append_of_ne_nil _ (h.chars_ne_nil mem)] at last
    obtain ⟨kind, word, path, cs, rfl, read⟩ := h.exists_read mem
    rw [Tile.chars_whole] at last
    exact isSpace_getLast_of_lexeme read (of_decide_eq_false solid) c last

end Strung

/-- Tiles that are read one after the other are read by themselves if the text behind them is in
sight. -/
theorem run_of_strung {n offset : Nat} {tag : TagKind} {opening : Span} {trims : Bool}
    (h : Strung d behind depth path ps) (hn : (Tile.source ps).length < n) :
    run d source behind n ⟨.tag tag opening depth path, trims, offset, Tile.source ps⟩ =
      ⟨Tile.tokens offset ps, none⟩ := by
  -- one step reads one of the tiles
  induction h generalizing n offset with
  | nil => exact run_of_nil rfl
  | @cons depth path kind word ps free read h ih =>
    rw [Tile.source_cons, Tile.chars_whole, List.length_append] at hn
    have pos := List.length_pos_iff.2 (lexeme_ne_nil read)
    obtain ⟨n, rfl⟩ : ∃ m, n = m + 1 := ⟨n - 1, by omega⟩
    have read' : lexeme path (word ++ Tile.source ps) = .ok (kind, word) :=
      lexeme_cut read (List.prefix_append _ _)
    have free' : 0 < depth ∧ (word ++ Tile.source ps).head? = some '\x7d' ∨
        d.match? (word ++ Tile.source ps ++ behind) = none := by
      rw [List.head?_append_of_ne_nil _ (lexeme_ne_nil read), List.append_assoc]
      exact free
    rw [Tile.source_cons, Tile.chars_whole, run_of_lexeme free' read', List.drop_left,
      ih (by omega), Tile.tokens, Tile.chars_whole]
    rfl

/-! ## The inside of a tag in a source -/

variable {s next : Scan} {ts before after : List Token} {opening closing : Token} {tag : TagKind}
  {upTo : List Char}

/-- A step takes some characters off the source. -/
theorem exists_chars_of_step (h : step d source [] s = .tokens ts next) :
    ∃ cs, s.rest = cs ++ next.rest ∧ next.offset = s.offset + byteLength cs := by
  obtain ⟨mode, trims, offset, rest⟩ := s
  -- in the text and in comments, up to a delimiter and behind it
  have found {before rest' form : List Char} {m : Marker}
      (found : d.find rest = some (before, (m, form), rest')) :
      rest = before ++ form ++ rest'.drop form.length := by
    obtain ⟨rfl, matched⟩ := Delimiters.append_of_find found
    obtain ⟨left, rfl⟩ := Delimiters.exists_append_of_match? matched
    rw [List.drop_left, List.append_assoc]
  cases mode with
  | text =>
    simp only [step, stepText] at h
    split at h
    · split at h
      · cases h
      · cases h
        exact ⟨rest, (List.append_nil rest).symm, rfl⟩
    · next text m form rest' eq =>
      have taken : offset + byteLength text + byteLength form =
          offset + byteLength (text ++ form) := by
        rw [Text.byteLength_append, Nat.add_assoc]
      split at h
      · split at h
        · cases h
          exact ⟨_, found eq, taken⟩
        split at h
        · cases h
        · cases h
          exact ⟨_, found eq, taken⟩
      · cases h
  | tag kind opening depth path =>
    simp only [step, stepTag, List.append_nil] at h
    split at h
    · next m form eq =>
      have matched : d.match? rest = some (m, form) := by
        split at eq
        · cases eq
        · exact eq
      obtain ⟨left, rfl⟩ := Delimiters.exists_append_of_match? matched
      split at h
      · cases h
      split at h
      · cases h
        exact ⟨form, by rw [List.drop_left], rfl⟩
      · cases h
    · split at h
      · cases h
      · next kind word read =>
        cases h
        obtain ⟨left, rfl⟩ := prefix_of_lexeme read
        exact ⟨word, by rw [List.drop_left], rfl⟩
  | comment opening =>
    simp only [step, stepComment] at h
    split at h
    · cases h
      exact ⟨rest, (List.append_nil rest).symm, rfl⟩
    · next text m form rest' eq =>
      have taken : offset + byteLength text + byteLength form =
          offset + byteLength (text ++ form) := by
        rw [Text.byteLength_append, Nat.add_assoc]
      split at h
      · cases h
      split at h
      · split at h
        · cases h
          exact ⟨_, found eq, taken⟩
        · cases h
          exact ⟨_, found eq, taken⟩
      · cases h

theorem eq_of_singleton_eq {α : Type} {x y : α} {xs ys : List α} (h : [x] = xs ++ y :: ys) :
    x = y ∧ ys = [] := by
  cases xs with
  | nil => simpa using h
  | cons _ xs => simp at h

theorem eq_of_pair_eq {α : Type} {w x y : α} {xs ys : List α} (h : [w, x] = xs ++ y :: ys) :
    w = y ∨ x = y ∧ ys = [] := by
  cases xs with
  | nil => exact .inl (List.cons.inj h).1
  | cons _ xs => exact .inr (eq_of_singleton_eq (List.cons.inj h).2)

/-- The opening delimiter of a tag is the last token of its step. -/
theorem inside_of_step (h : step d source [] s = .tokens (before ++ opening :: after) next)
    (opens : opening.kind = .opening tag) :
    after = [] ∧ next.mode = Mode.inside tag opening.span ∧ next.offset = opening.span.stop := by
  obtain ⟨mode, trims, offset, rest⟩ := s
  cases mode with
  | text =>
    simp only [step, stepText] at h
    split at h
    · split at h
      · cases h
      · next t raw =>
        obtain ⟨eq, -⟩ := Step.tokens.inj h
        obtain ⟨rfl, -⟩ := eq_of_singleton_eq eq
        cases opens.symm.trans (kind_of_rawToken raw)
    · next text m form rest' eq =>
      split at h
      · split at h
        · obtain ⟨eq, rfl⟩ := Step.tokens.inj h
          obtain ⟨rfl, rfl⟩ := eq_of_singleton_eq eq
          cases opens
          exact ⟨rfl, rfl, rfl⟩
        split at h
        · cases h
        · next t raw =>
          obtain ⟨eq, rfl⟩ := Step.tokens.inj h
          rcases eq_of_pair_eq eq with rfl | ⟨rfl, rfl⟩
          · cases opens.symm.trans (kind_of_rawToken raw)
          · cases opens
            exact ⟨rfl, rfl, rfl⟩
      · cases h
  | tag kind opening' depth path =>
    rcases stepTag_eq_tokens h with ⟨t, eq, closes, -⟩ | ⟨kind, word, read, eq, -⟩
    · obtain ⟨rfl, -⟩ := eq_of_singleton_eq eq.symm
      cases opens.symm.trans closes
    · obtain ⟨rfl, -⟩ := eq_of_singleton_eq eq.symm
      have inner := isInner_of_lexeme read
      rw [show kind = .opening tag from opens] at inner
      cases inner
  | comment opening' =>
    simp only [step, stepComment] at h
    split at h
    · obtain ⟨eq, -⟩ := Step.tokens.inj h
      obtain ⟨rfl, -⟩ := eq_of_singleton_eq eq
      cases opens
    · split at h
      · cases h
      split at h
      · split at h
        · obtain ⟨eq, -⟩ := Step.tokens.inj h
          obtain ⟨rfl, -⟩ := eq_of_singleton_eq eq
          cases opens
        · obtain ⟨eq, -⟩ := Step.tokens.inj h
          rcases eq_of_pair_eq eq with rfl | ⟨rfl, -⟩
          · cases opens
          · cases opens
      · cases h

/-- Tokens inside a tag are read inside a tag. -/
theorem exists_mode_of_step {beyond : List Char} {t : Token}
    (h : step d source beyond s = .tokens ts next) (mem : t ∈ ts) (inner : t.kind.isInner) :
    ∃ kind opening depth path, s.mode = .tag kind opening depth path := by
  obtain ⟨mode, trims, offset, rest⟩ := s
  cases mode with
  | tag kind opening depth path => exact ⟨kind, opening, depth, path, rfl⟩
  | text =>
    have others : ∀ u ∈ ts, u.kind.isInner = false := by
      simp only [step, stepText] at h
      split at h
      · split at h
        · cases h
        · next raw =>
          cases h
          exact List.forall_mem_singleton.2 (by rw [kind_of_rawToken raw]; rfl)
      · split at h
        · split at h
          · cases h
            exact List.forall_mem_singleton.2 rfl
          split at h
          · cases h
          · next raw =>
            cases h
            exact List.forall_mem_cons.2 ⟨by rw [kind_of_rawToken raw]; rfl,
              List.forall_mem_singleton.2 rfl⟩
        · cases h
    cases (others t mem).symm.trans inner
  | comment opening =>
    have others : ∀ u ∈ ts, u.kind.isInner = false := by
      simp only [step, stepComment] at h
      split at h
      · cases h
        exact List.forall_mem_singleton.2 rfl
      · split at h
        · cases h
        split at h
        · split at h
          · cases h
            exact List.forall_mem_singleton.2 rfl
          · cases h
            exact List.forall_mem_cons.2 ⟨rfl, List.forall_mem_singleton.2 rfl⟩
        · cases h
    cases (others t mem).symm.trans inner

/-- A run that gives tokens begins with a step. -/
theorem exists_step_of_run {n : Nat} {beyond : List Char} {us : List Token}
    (h : (run d source beyond n s).tokens = us) (ne : us ≠ []) :
    ∃ m ts next, n = m + 1 ∧ step d source beyond s = .tokens ts next ∧
      us = ts ++ (run d source beyond m next).tokens := by
  cases n with
  | zero => exact absurd h.symm ne
  | succ m =>
    by_cases ended : s.rest = []
    · rw [run_of_nil ended] at h
      exact absurd h.symm ne
    cases stepped : step d source beyond s with
    | failed f =>
      rw [run_of_failed ended stepped] at h
      exact absurd h.symm ne
    | tokens ts next =>
      rw [run_of_tokens ended stepped] at h
      exact ⟨m, ts, next, rfl, rfl, h.symm⟩

/-- A token inside a tag has been read as one. -/
theorem exists_read_of_run {n : Nat} {beyond : List Char} {t : Token}
    (mem : t ∈ (run d source beyond n s).tokens) (inner : t.kind.isInner) :
    ∃ path cs word, lexeme path cs = .ok (t.kind, word) ∧ t.text = String.ofList word := by
  -- on the number of steps; the token is read in the first one or behind it
  induction n generalizing s with
  | zero => cases mem
  | succ n ih =>
    obtain ⟨m, ts, next, eq, stepped, split⟩ := exists_step_of_run rfl (List.ne_nil_of_mem mem)
    cases eq
    rw [split] at mem
    rcases List.mem_append.1 mem with first | later
    · obtain ⟨kind, opening, depth, path, mode⟩ := exists_mode_of_step stepped first inner
      rw [step, mode] at stepped
      rcases stepTag_eq_tokens stepped with ⟨u, rfl, closes, -⟩ | ⟨kind, word, read, rfl, -⟩
      · rw [List.mem_singleton.1 first, closes] at inner
        cases inner
      · rw [List.mem_singleton.1 first]
        exact ⟨path, s.rest, word, read, rfl⟩
    · exact ih later

/-- Where the lexer is before it reads a token of a source, and what it goes on with. -/
theorem exists_scan_of_run {n : Nat} {cs : List Char} {t : Token}
    (h : (run d source [] n s).tokens = before ++ t :: after) (whole : cs = upTo ++ s.rest)
    (offset : byteLength upTo = s.offset) :
    ∃ m scan next upTo ts us, cs = upTo ++ scan.rest ∧ byteLength upTo = scan.offset ∧
      step d source [] scan = .tokens (ts ++ t :: us) next ∧
      after = us ++ (run d source [] m next).tokens := by
  -- on the bound; the token is read in the first step or behind it
  induction n generalizing s upTo before with
  | zero => simp [run] at h
  | succ n ih =>
    obtain ⟨m, ts, next, eq, stepped, split⟩ := exists_step_of_run h (by simp)
    cases eq
    obtain ⟨cs', rest, offset'⟩ := exists_chars_of_step stepped
    have whole' : cs = upTo ++ cs' ++ next.rest := by
      rw [whole, rest, List.append_assoc]
    have offset'' : byteLength (upTo ++ cs') = next.offset := by
      rw [Text.byteLength_append, offset, offset']
    rcases List.append_eq_append_iff.1 split with ⟨us, rfl, later⟩ | ⟨us, rfl, later⟩
    · cases us with
      | nil => exact @ih next [] _ later.symm whole' offset''
      | cons u us =>
        obtain ⟨rfl, rfl⟩ := List.cons.inj later
        exact ⟨n, s, next, upTo, before, us, whole, offset, stepped, rfl⟩
    · exact ih later whole' offset''

/-- Behind the opening delimiter of a tag, the lexer goes on inside the tag. -/
theorem exists_inside_of_run {n : Nat} {cs : List Char}
    (h : (run d source [] n s).tokens = before ++ opening :: after)
    (opens : opening.kind = .opening tag) (whole : cs = upTo ++ s.rest)
    (offset : byteLength upTo = s.offset) :
    ∃ m upTo trims rest, cs = upTo ++ rest ∧ byteLength upTo = opening.span.stop ∧
      (run d source [] m ⟨Mode.inside tag opening.span, trims, opening.span.stop, rest⟩).tokens =
        after := by
  obtain ⟨m, scan, next, upTo, ts, us, whole, offset, stepped, rfl⟩ :=
    exists_scan_of_run h whole offset
  obtain ⟨cs', rest, offset'⟩ := exists_chars_of_step stepped
  obtain ⟨rfl, mode, stop⟩ := inside_of_step stepped opens
  obtain ⟨mode', trims', offset'', rest'⟩ := next
  cases mode
  cases stop
  refine ⟨m, upTo ++ cs', trims', rest', ?_, ?_, rfl⟩
  · rw [whole, rest, List.append_assoc]
  · rw [Text.byteLength_append, offset]
    exact offset'.symm

/-- A step inside a tag reads a closing delimiter where it is, or one token where no delimiter is
found. -/
theorem read_of_stepTag {offset : Nat} {cs : List Char} {open' : Span} {trims : Bool}
    (h : stepTag d source [] ⟨.tag tag open' depth path, trims, offset, cs⟩ tag open' depth path =
      .tokens ts next) :
    (∃ t, ts = [t] ∧ t.kind = .closing tag ∧ t.span.start = offset) ∨
      ∃ kind word rest, cs = word ++ rest ∧ lexeme path (word ++ rest) = .ok (kind, word) ∧
        (0 < depth ∧ word.head? = some '\x7d' ∨ d.match? (word ++ rest) = none) ∧
        ts = [token kind offset word] ∧
        next = ⟨.tag tag open' (depthAfter depth kind) (pathAfter path kind), trims,
          offset + byteLength word, rest⟩ := by
  simp only [stepTag, List.append_nil] at h
  split at h
  · split at h
    · cases h
    split at h
    · cases h
      exact .inl ⟨_, rfl, rfl, rfl⟩
    · cases h
  · next free =>
    split at h
    · cases h
    · next kind word read =>
      cases h
      obtain ⟨rest, rfl⟩ := prefix_of_lexeme read
      refine .inr ⟨kind, word, rest, rfl, read, ?_, rfl, by rw [List.drop_left]; rfl⟩
      split at free
      · next brace =>
        rw [Bool.and_eq_true, beq_iff_eq, decide_eq_true_iff,
          List.head?_append_of_ne_nil _ (lexeme_ne_nil read)] at brace
        exact .inl brace
      · exact .inr free

/-- A token inside a tag stands in the source where it has been read, and the lexer goes on behind
it in the tag. -/
theorem exists_word_of_run {n : Nat} {cs : List Char} {t : Token}
    (h : (run d source [] n s).tokens = before ++ t :: after) (inner : t.kind.isInner)
    (whole : cs = upTo ++ s.rest) (offset : byteLength upTo = s.offset) :
    ∃ upTo word rest path m tag open' depth trims, cs = upTo ++ (word ++ rest) ∧
      t = token t.kind (byteLength upTo) word ∧ lexeme path (word ++ rest) = .ok (t.kind, word) ∧
      (run d source [] m ⟨.tag tag open' depth (pathAfter path t.kind), trims,
        byteLength (upTo ++ word), rest⟩).tokens = after := by
  obtain ⟨m, scan, next, upTo, ts, us, whole, offset, stepped, rfl⟩ :=
    exists_scan_of_run h whole offset
  obtain ⟨tag, open', depth, path, mode⟩ := exists_mode_of_step stepped (by simp) inner
  obtain ⟨_, trims, _, cs'⟩ := scan
  cases mode
  rcases read_of_stepTag stepped with ⟨u, eq, closes, -⟩ | ⟨kind, word, rest, eq, read, -, one, rfl⟩
  · obtain ⟨rfl, -⟩ := eq_of_singleton_eq eq.symm
    rw [closes] at inner
    cases inner
  · obtain ⟨rfl, rfl⟩ := eq_of_singleton_eq one.symm
    refine ⟨upTo, word, rest, path, m, tag, open', depthAfter depth kind, trims, ?_, ?_, read, ?_⟩
    · rw [whole]
      exact congrArg (upTo ++ ·) eq
    · rw [offset]
      rfl
    · rw [Text.byteLength_append, offset]
      rfl

/-- Behind some blanks in a tag, a token stands where they end. -/
theorem exists_word_of_blanks {n offset : Nat} {cs : List Char} {open' : Span} {trims : Bool}
    {blanks : List Token} {t : Token}
    (h : (run d source [] n ⟨.tag tag open' depth path, trims, offset, cs⟩).tokens =
      blanks ++ t :: after)
    (blank : ∀ b ∈ blanks, b.kind = .whitespace) (inner : t.kind.isInner) :
    ∃ gap word rest path, cs = gap ++ (word ++ rest) ∧ (∀ c ∈ gap, isSpace c) ∧
      t = token t.kind (offset + byteLength gap) word ∧
      lexeme path (word ++ rest) = .ok (t.kind, word) := by
  -- on the blanks, each of which is read in a step
  induction blanks generalizing n depth path offset cs with
  | nil =>
    obtain ⟨m, ts, next, rfl, stepped, split⟩ := exists_step_of_run h (by simp)
    rcases read_of_stepTag stepped with
      ⟨u, rfl, closes, -⟩ | ⟨kind, word, rest, rfl, read, -, rfl, -⟩
    · obtain ⟨rfl, -⟩ := List.cons.inj split
      rw [closes] at inner
      cases inner
    · obtain ⟨rfl, -⟩ := List.cons.inj split
      exact ⟨[], word, rest, path, rfl, nofun, rfl, read⟩
  | cons b blanks ih =>
    obtain ⟨first, others⟩ := List.forall_mem_cons.1 blank
    obtain ⟨m, ts, next, rfl, stepped, split⟩ := exists_step_of_run h (by simp)
    rcases read_of_stepTag stepped with
      ⟨u, rfl, closes, -⟩ | ⟨kind, word, rest, rfl, read, -, rfl, rfl⟩
    · obtain ⟨rfl, -⟩ := List.cons.inj split
      cases closes.symm.trans first
    · obtain ⟨rfl, tail⟩ := List.cons.inj split
      have space : kind = .whitespace := first
      subst space
      obtain ⟨gap, word', rest', path', rfl, spaces, place, read'⟩ := ih tail.symm others
      refine ⟨word ++ gap, word', rest', path', by rw [List.append_assoc], fun c mem => ?_, ?_,
        read'⟩
      · exact (List.mem_append.1 mem).elim (isSpace_of_lexeme read c) (spaces c)
      · rw [place, Text.byteLength_append, Nat.add_assoc]
        rfl

/-- What is read inside of a tag up to its closing delimiter is strung. -/
theorem exists_strung_of_run {n offset : Nat} {cs : List Char} {open' : Span} {trims : Bool}
    (h : (run d source [] n ⟨.tag tag open' depth path, trims, offset, cs⟩).tokens =
      ts ++ closing :: after)
    (inner : ∀ t ∈ ts, t.kind ≠ .closing tag) (closes : closing.kind = .closing tag) :
    ∃ ps behind, cs = Tile.source ps ++ behind ∧ ts = Tile.tokens offset ps ∧
      Strung d behind depth path ps ∧
      closing.span.start = offset + byteLength (Tile.source ps) := by
  -- on the tokens; as long as some are left, the run goes on with a step
  induction ts generalizing n depth path offset cs with
  | nil =>
    obtain ⟨m, ts, next, rfl, stepped, split⟩ := exists_step_of_run h (by simp)
    rcases read_of_stepTag stepped with ⟨t, rfl, -, start⟩ | ⟨kind, word, rest, -, read, -, rfl, -⟩
    · obtain ⟨rfl, -⟩ := List.cons.inj split
      exact ⟨[], cs, rfl, rfl, .nil, start⟩
    · -- no other token ends the tag
      obtain ⟨rfl, -⟩ := List.cons.inj split
      have plain := isInner_of_lexeme read
      rw [show kind = .closing tag from closes] at plain
      cases plain
  | cons t ts ih =>
    obtain ⟨first, others⟩ := List.forall_mem_cons.1 inner
    obtain ⟨m, us, next, rfl, stepped, split⟩ := exists_step_of_run h (by simp)
    rcases read_of_stepTag stepped with
      ⟨u, rfl, ends, -⟩ | ⟨kind, word, rest, rfl, read, free, rfl, rfl⟩
    · obtain ⟨rfl, -⟩ := List.cons.inj split
      exact absurd ends first
    · obtain ⟨rfl, tail⟩ := List.cons.inj split
      obtain ⟨ps, behind, rfl, rfl, strung, stop⟩ := ih tail.symm others
      refine ⟨.whole (.inside kind) word :: ps, behind, ?_, ?_, .cons free read strung, ?_⟩
      · rw [Tile.source_cons, Tile.chars_whole, List.append_assoc]
      · rw [Tile.tokens, Tile.chars_whole]
        rfl
      · rw [stop, Tile.source_cons, Tile.chars_whole, Text.byteLength_append, Nat.add_assoc]

end Lexer

/-- Tiles inside a tag are read once more as a region of the source, if no brace is open before
them and no member access is right before. -/
theorem lexRegion_of_strung {d : Delimiters} {source : String} {upTo behind : List Char}
    {ps : List Tile} (whole : source.toList = upTo ++ (Tile.source ps ++ behind))
    (h : Lexer.Strung d behind 0 false ps) :
    lexRegion d source
        ⟨Text.byteLength upTo, Text.byteLength upTo + Text.byteLength (Tile.source ps)⟩ =
      some ⟨Tile.tokens (Text.byteLength upTo) ps, none⟩ := by
  have region : Text.sliceChars
      ⟨Text.byteLength upTo, Text.byteLength upTo + Text.byteLength (Tile.source ps)⟩
      source.toList = some (Tile.source ps) := by
    rw [whole, ← List.append_assoc]
    exact Text.sliceChars_append _ _ _
  have beyond : Text.dropBytes (Text.byteLength upTo + Text.byteLength (Tile.source ps))
      source.toList = some behind := by
    rw [whole, ← List.append_assoc, ← Text.byteLength_append, Text.dropBytes_append]
  rw [lexRegion, region, beyond]
  exact congrArg some (Lexer.run_of_strung h (Nat.lt_succ_self _))

end Stencil
