import Stencil.Proofs.TokenOrder
import Stencil.Proofs.Grammar

/-!
# Texts and their tokens

Inside a tag, the tokens of a text do not depend on what stands around it, as long as no token goes
on behind its end and no delimiter is found in it. With the standard delimiters none is found where
the tokens are those of an expression.

- `Lexer.Spelled`: a text has some tokens, whatever the delimiters are.
- `Lexer.Spelled.append`: texts side by side.
- `Lexer.spelled_of_run`: what is read without a delimiter is spelled.
- `Lexer.Braced`: braces are matched from a depth on.
- `Lexer.exists_run_append`: what is spelled is read, with the standard delimiters, up to a text that
  does not go on.
- `Lexer.run_of_spelled`: the same with nothing else to read.
- `spelled_of_lexRegion`, `lexRegion_of_spelled`: the same for the regions of a source.
-/

namespace Stencil.Lexer

/-! ## Single tokens -/

variable {path : Bool} {cs ds word : List Char} {kind : TokenKind}

/-- No token goes on with the character. -/
def isBreak (c : Char) : Bool := !isNumberPart c && !Text.isIdentifierPart c

/-- No token goes on with the text. -/
def Breaks (ds : List Char) : Prop := ∀ c ∈ ds.head?, isBreak c

theorem breaks_cons {c : Char} (h : isBreak c) : Breaks (c :: ds) := by
  rintro _ ⟨⟩
  exact h

theorem takeWhile_append_of_head {p : Char → Bool} (h : ∀ c ∈ ds.head?, p c = false) :
    (cs ++ ds).takeWhile p = cs.takeWhile p := by
  induction cs with
  | nil =>
    cases ds with
    | nil => rfl
    | cons c ds => rw [List.nil_append, List.takeWhile_cons, h c rfl]; rfl
  | cons c cs ih => rw [List.cons_append, List.takeWhile_cons, List.takeWhile_cons, ih]

theorem takeWhile_append_of_breaks {p : Char → Bool} (hp : ∀ c, isBreak c → p c = false)
    (h : Breaks ds) : (cs ++ ds).takeWhile p = cs.takeWhile p :=
  takeWhile_append_of_head fun c hc => hp c (h c hc)

theorem isDigit_of_isBreak (c : Char) (h : isBreak c) : c.isDigit = false := by
  simp only [isBreak, isNumberPart, Char.isAlphanum] at h
  simp_all

theorem stringBody_append {escaped : Bool} {body : List Char}
    (h : stringBody escaped cs = .ok body) : stringBody escaped (cs ++ ds) = .ok body := by
  induction cs generalizing escaped body with
  | nil => cases h
  | cons c cs ih =>
    simp only [stringBody, List.cons_append] at h ⊢
    split
    · next ends => rw [if_pos ends] at h; cases h
    · next goesOn =>
      rw [if_neg goesOn] at h
      split
      · next closes => rw [if_pos closes] at h; exact h
      · next inside =>
        rw [if_neg inside] at h
        split at h
        · next body' read =>
          rw [ih read]
          exact h
        · cases h

/-- A token is the same if the text goes on, unless the token does. -/
theorem lexeme_append (h : lexeme path cs = .ok (kind, word)) (hk : kind ≠ .whitespace)
    (breaks : Breaks ds) : lexeme path (cs ++ ds) = .ok (kind, word) := by
  refine FirstToken.lexeme_eq ?_
  -- the reader is chosen by the first character, and what it takes ends before the break
  cases firstToken_of_lexeme h with
  | mark mark => exact .mark mark
  | questionDot => exact .questionDot
  | string read => exact .string (stringBody_append read)
  | index other digit behind =>
    rw [← takeWhile_append_of_breaks isDigit_of_isBreak breaks]
    exact .index other digit behind
  | number other digit apart =>
    rw [← takeWhile_append_of_breaks (fun c hc => by simp_all [isBreak]) breaks]
    exact .number other digit apart
  | blank => exact absurd rfl hk
  | name other digit space begins =>
    rw [← takeWhile_append_of_breaks (fun c hc => by simp_all [isBreak]) breaks]
    exact .name other digit space begins

theorem prefix_of_stringBody {escaped : Bool} {body : List Char}
    (h : stringBody escaped cs = .ok body) : body <+: cs := by
  induction cs generalizing escaped body with
  | nil => cases h
  | cons c cs ih =>
    rw [stringBody] at h
    split at h
    · cases h
    split at h
    · cases h
      exact ⟨cs, rfl⟩
    split at h
    · next body' read =>
      cases h
      exact List.prefix_cons_inj c |>.2 (ih read)
    · cases h

/-- The text of a string ends with a quote. -/
theorem getLast?_of_stringBody {escaped : Bool} {body : List Char}
    (h : stringBody escaped cs = .ok body) : body.getLast? = some '"' := by
  induction cs generalizing escaped body with
  | nil => cases h
  | cons c cs ih =>
    rw [stringBody] at h
    split at h
    · cases h
    split at h
    · next closes =>
      cases h
      rw [closes.1]
      rfl
    split at h
    · next body' read =>
      cases h
      have last := ih read
      rw [List.getLast?_cons, last]
      rfl
    · cases h

/-- A token stands at the start of its text. -/
theorem prefix_of_lexeme (h : lexeme path cs = .ok (kind, word)) : word <+: cs := by
  have run (c : Char) (cs : List Char) (p : Char → Bool) : c :: cs.takeWhile p <+: c :: cs :=
    List.prefix_cons_inj c |>.2 (List.takeWhile_prefix p)
  cases firstToken_of_lexeme h with
  | mark => exact ⟨_, rfl⟩
  | questionDot => exact ⟨_, rfl⟩
  | string read => exact List.prefix_cons_inj _ |>.2 (prefix_of_stringBody read)
  | index => exact run _ _ _
  | number => exact run _ _ _
  | blank => exact run _ _ _
  | name => exact run _ _ _

/-! ## Marks and blanks -/

/-- The tokens of one character. -/
def marks : List (Char × TokenKind) :=
  [('.', .dot), ('|', .pipe), (',', .comma), (':', .colon), ('=', .equals), ('+', .plus),
    ('-', .minus), ('[', .leftBracket), (']', .rightBracket), ('\x7b', .leftBrace),
    ('\x7d', .rightBrace)]

theorem eq_some_or_of_ite {α : Type} {p : Prop} [Decidable p] {a b : α} {o : Option α}
    (h : (if p then some a else o) = some b) : (p ∧ a = b) ∨ o = some b := by
  split at h
  · next hp => exact .inl ⟨hp, Option.some.inj h⟩
  · exact .inr h

theorem mem_marks_of_single? {c : Char} (h : single? c = some kind) : (c, kind) ∈ marks := by
  unfold single? at h
  iterate 11
    rcases eq_some_or_of_ite h with ⟨rfl, rfl⟩ | h
    · decide
  cases h

theorem single?_ne_whitespace (c : Char) : single? c ≠ some .whitespace := by
  intro h
  have others : ∀ m ∈ marks, m.2 ≠ .whitespace := by decide
  exact others _ (mem_marks_of_single? h) rfl

theorem eq_of_isSpace {c : Char} (h : isSpace c) : c = '\t' ∨ c = ' ' ∨ c = '\r' ∨ c = '\n' := by
  simpa [isSpace, or_assoc] using h

/-- Blanks are a token of their own. -/
theorem lexeme_of_isSpace {c : Char} (h : isSpace c) (cs : List Char) :
    lexeme path (c :: cs) = .ok (.whitespace, c :: cs.takeWhile isSpace) := by
  rcases eq_of_isSpace h with rfl | rfl | rfl | rfl <;> rfl

/-- The characters of a token of blanks. -/
theorem isSpace_of_lexeme (h : lexeme path cs = .ok (.whitespace, word)) :
    ∀ c ∈ word, isSpace c := by
  generalize blank : TokenKind.whitespace = kind at h
  cases firstToken_of_lexeme h with
  | mark mark => exact absurd (blank ▸ mark) (single?_ne_whitespace _)
  | blank _ _ space =>
    exact List.forall_mem_cons.2 ⟨space, fun d hd => List.all_eq_true.1 List.all_takeWhile d hd⟩
  | name => exact absurd blank.symm (nameKind_ne (by decide) (by decide) _)
  | _ => cases blank

/-! ## Texts -/

/-- Inside a tag a text has some tokens, not counting blanks, whatever the delimiters are. -/
inductive Spelled : Bool → List Char → List Lexeme → Prop
  | nil {path : Bool} : Spelled path [] []
  | blank {path : Bool} {c : Char} {cs : List Char} {ks : List Lexeme} (hc : isSpace c)
      (h : Spelled path cs ks) : Spelled path (c :: cs) ks
  | token {path : Bool} {cs word : List Char} {kind : TokenKind} {ks : List Lexeme}
      (first : lexeme path cs = .ok (kind, word)) (hk : kind ≠ .whitespace)
      (h : Spelled (pathAfter path kind) (cs.drop word.length) ks) :
      Spelled path cs ((kind, String.ofList word) :: ks)

namespace Spelled

variable {ks ls : List Lexeme}

/-- Blanks in front do not count. -/
theorem blanks (hcs : ∀ c ∈ cs, isSpace c) (h : Spelled path ds ks) :
    Spelled path (cs ++ ds) ks := by
  induction cs with
  | nil => exact h
  | cons c cs ih =>
    obtain ⟨hc, hcs⟩ := List.forall_mem_cons.1 hcs
    exact .blank hc (ih hcs)

/-- A mark of one character in front, but for the dot. -/
theorem mark {c : Char} (hc : single? c = some kind) (dot : kind ≠ .dot)
    (h : Spelled false cs ks) : Spelled path (c :: cs) ((kind, String.ofList [c]) :: ks) := by
  have first : lexeme path (c :: cs) = .ok (kind, [c]) := by
    simp only [lexeme, hc]
  have space : kind ≠ .whitespace := fun h => single?_ne_whitespace c (h ▸ hc)
  have after : pathAfter path kind = false := by
    have others : ∀ m ∈ marks, m.2 ≠ .dot → ∀ path, pathAfter path m.2 = false := by decide
    exact others _ (mem_marks_of_single? hc) dot path
  exact .token first space (by rw [after]; exact h)

/-- Texts side by side: the tokens of the first one do not go on in the second one. -/
theorem append (h : Spelled path cs ks) (breaks : Breaks ds) (h' : ∀ path, Spelled path ds ls) :
    Spelled path (cs ++ ds) (ks ++ ls) := by
  induction h with
  | nil => exact h' _
  | blank hc _ ih => exact .blank hc ih
  | @token path cs word kind ks first hk _ ih =>
    have le : word.length ≤ cs.length := (prefix_of_lexeme first).length_le
    refine .token (lexeme_append first hk breaks) hk ?_
    rw [List.drop_append_of_le_length le]
    exact ih

/-- What blanks leave behind. -/
theorem of_blank {c : Char} (hc : isSpace c) (h : Spelled path (c :: cs) ks) :
    Spelled path cs ks := by
  cases h with
  | blank _ h => exact h
  | token first hk =>
    rw [lexeme_of_isSpace hc] at first
    cases first
    exact absurd rfl hk

theorem of_blanks (hcs : ∀ c ∈ cs, isSpace c) (h : Spelled path (cs ++ ds) ks) :
    Spelled path ds ks := by
  induction cs with
  | nil => exact h
  | cons c cs ih =>
    obtain ⟨hc, hcs⟩ := List.forall_mem_cons.1 hcs
    exact ih hcs (h.of_blank hc)

/-- What a token of blanks leaves behind. -/
theorem of_lexeme (read : lexeme path cs = .ok (.whitespace, word)) (h : Spelled path cs ks) :
    Spelled path (cs.drop word.length) ks := by
  obtain ⟨rest, rfl⟩ := prefix_of_lexeme read
  rw [List.drop_left]
  exact h.of_blanks (isSpace_of_lexeme read)

/-- The tokens of a text are determined. -/
theorem unique (h : Spelled path cs ks) (h' : Spelled path cs ls) : ks = ls := by
  induction h generalizing ls with
  | nil =>
    cases h' with
    | nil => rfl
    | token first => cases first
  | blank hc _ ih => exact ih (h'.of_blank hc)
  | @token path cs word kind ks first hk _ ih =>
    cases h' with
    | nil => cases first
    | blank hc =>
      rw [lexeme_of_isSpace hc] at first
      cases first
      exact absurd rfl hk
    | token first' _ h' =>
      rw [first] at first'
      cases first'
      rw [ih h']

end Spelled

/-! ## From tokens to texts -/

variable {d : Delimiters} {source : String} {beyond : List Char} {tag : TagKind} {opening : Span}
  {depth : Nat}

/-- A step inside a tag gives its closing delimiter or one token. -/
theorem stepTag_eq_tokens {s next : Scan} {ts : List Token}
    (h : stepTag d source beyond s tag opening depth path = .tokens ts next) :
    (∃ t, ts = [t] ∧ t.kind = .closing tag ∧ next.mode = .text) ∨
      ∃ kind word, lexeme path s.rest = .ok (kind, word) ∧ ts = [token kind s.offset word] ∧
        next = ⟨.tag tag opening (depthAfter depth kind) (pathAfter path kind), s.trimsNext,
          s.offset + Text.byteLength word, s.rest.drop word.length⟩ := by
  unfold stepTag at h
  simp only at h
  split at h
  · next marker form found =>
    split at h
    · cases h
    split at h
    · cases h
      exact .inl ⟨_, rfl, rfl, rfl⟩
    · cases h
  · split at h
    · cases h
    · next kind word read =>
      cases h
      exact .inr ⟨kind, word, read, rfl, rfl⟩

/-- The tokens but for blanks. -/
def significant (ts : List Token) : List Lexeme :=
  (ts.filter fun t => t.kind != .whitespace).map Token.lexeme

theorem significant_cons (kind : TokenKind) (offset : Nat) (word : List Char) (ts : List Token) :
    significant (token kind offset word :: ts) =
      if kind = .whitespace then significant ts
      else (kind, String.ofList word) :: significant ts := by
  by_cases h : kind = .whitespace
  · rw [significant, List.filter_cons_of_neg (by simp [token, h]), if_pos h]
    rfl
  · rw [significant, List.filter_cons_of_pos (by simp [token, h]), if_neg h]
    rfl

theorem run_of_nil {n : Nat} {s : Scan} (h : s.rest = []) :
    run d source beyond n s = ⟨[], none⟩ := by
  cases n with
  | zero => rfl
  | succ n => rw [run, h]; rfl

theorem run_of_failed {n : Nat} {s : Scan} {f : Failure} (h : s.rest ≠ [])
    (failed : step d source beyond s = .failed f) :
    run d source beyond (n + 1) s = ⟨[], some f⟩ := by
  rw [run, if_neg (by simpa using h), failed]

theorem run_of_tokens {n : Nat} {s next : Scan} {ts : List Token} (h : s.rest ≠ [])
    (read : step d source beyond s = .tokens ts next) :
    run d source beyond (n + 1) s =
      ⟨ts ++ (run d source beyond n next).tokens, (run d source beyond n next).failure⟩ := by
  rw [run, if_neg (by simpa using h), read]

/-- What is read inside a tag without a failure and without the end of the tag is spelled. -/
theorem spelled_of_run {n offset : Nat} {trims : Bool} (hn : cs.length < n)
    (ok : (run d source beyond n ⟨.tag tag opening depth path, trims, offset, cs⟩).failure = none)
    (inside : ∀ t ∈ (run d source beyond n ⟨.tag tag opening depth path, trims, offset, cs⟩).tokens,
      t.kind ≠ .closing tag) :
    Spelled path cs
      (significant
        (run d source beyond n ⟨.tag tag opening depth path, trims, offset, cs⟩).tokens) := by
  -- on the bound; a step takes the characters of one token off the text
  induction n generalizing cs path depth offset with
  | zero => cases hn
  | succ n ih =>
    by_cases empty : cs = []
    · rw [run_of_nil empty, empty]
      exact .nil
    cases stepped : step d source beyond ⟨.tag tag opening depth path, trims, offset, cs⟩ with
    | failed f =>
      rw [run_of_failed empty stepped] at ok
      cases ok
    | tokens ts next =>
      rw [run_of_tokens empty stepped] at ok inside ⊢
      rcases stepTag_eq_tokens stepped with ⟨t, rfl, closes, -⟩ | ⟨kind, word, read, rfl, rfl⟩
      · exact absurd closes (inside t (List.mem_append_left _ (List.mem_singleton_self t)))
      · dsimp only at read ok inside ⊢
        have shorter : (cs.drop word.length).length < n := by
          have pos := List.length_pos_iff.2 (lexeme_ne_nil read)
          have pos' := List.length_pos_iff.2 empty
          rw [List.length_drop]
          omega
        have behind := ih shorter ok fun t mem => inside t (List.mem_append_right _ mem)
        rw [List.singleton_append, significant_cons]
        split
        · next space =>
          subst space
          obtain ⟨rest, rfl⟩ := prefix_of_lexeme read
          rw [List.drop_left] at behind ⊢
          exact behind.blanks (isSpace_of_lexeme read)
        · next other => exact .token read other behind

/-! ## From texts to tokens -/

/-- Braces are matched from a depth on, none stands right behind one that is opened, and a sign
stands before a number. -/
inductive Braced : Nat → List TokenKind → Prop
  | nil {depth : Nat} : Braced depth []
  | plain {depth : Nat} {k : TokenKind} {ks : List TokenKind} (hk : k.isPlain)
      (h : Braced depth ks) : Braced depth (k :: ks)
  | sign {depth : Nat} {negative : Bool} {ks : List TokenKind} (h : Braced depth ks) :
      Braced depth ((if negative then .minus else .plus) :: .number :: ks)
  | left {depth : Nat} {k : TokenKind} {ks : List TokenKind} (hk : k ≠ .leftBrace)
      (h : Braced (depth + 1) (k :: ks)) : Braced depth (.leftBrace :: k :: ks)
  | right {depth : Nat} {ks : List TokenKind} (h : Braced depth ks) :
      Braced (depth + 1) (.rightBrace :: ks)

/-- The tokens of an expression are braced from every depth on. -/
theorem Braced.of_settled_append {ks ls : List TokenKind} (h : Settled ks) (h' : Braced depth ls) :
    Braced depth (ks ++ ls) := by
  induction h generalizing depth ls with
  | nil => exact h'
  | plain hk _ ih => exact .plain hk (ih h')
  | sign _ ih => exact .sign (ih h')
  | @braces inside ks _ head _ ihInside ih =>
    have body : Braced (depth + 1) (inside ++ .rightBrace :: (ks ++ ls)) :=
      ihInside (.right (ih h'))
    rw [List.cons_append, List.append_assoc, List.cons_append]
    cases inside with
    | nil => exact .left nofun body
    | cons k inside => exact .left (fun hk => head (by rw [hk]; rfl)) body

theorem Braced.of_settled {ks : List TokenKind} (h : Settled ks) : Braced depth ks := by
  rw [← List.append_nil ks]
  exact .of_settled_append h .nil

/-- The text begins like a standard delimiter. -/
def isMark : List Char → Bool
  | a :: b :: _ =>
    if a = '\x7b' then b = '\x7b' || b = '%' || b = '#'
    else if a = '-' then b = '\x7d' || b = '%' || b = '#'
    else b = '\x7d' && (a = '\x7d' || a = '%' || a = '#')
  | _ => false

theorem isMark_append (h : isMark cs) : isMark (cs ++ ds) := by
  match cs with
  | [] => cases h
  | [c] => cases h
  | a :: b :: cs => exact h

theorem match?_eq_none (h : isMark cs = false) : Delimiters.standard.match? cs = none := by
  have marks : ∀ p ∈ Delimiters.standard.patterns, isMark p.2 := by decide
  cases found : Delimiters.standard.match? cs with
  | none => rfl
  | some p =>
    obtain ⟨mem, rest, rfl⟩ := Delimiters.mem_of_match? found
    rw [isMark_append (marks p mem)] at h
    cases h

/-- A token of the kind, or blanks before it, can begin with the character. -/
structure Begins (c : Char) (kind : TokenKind) : Prop where
  percent : c ≠ '%'
  hash : c ≠ '#'
  leftBrace : c = '\x7b' → kind = .leftBrace
  rightBrace : c = '\x7d' → kind = .rightBrace
  minus : c = '-' → kind = .minus

theorem begins_of_lexeme {c : Char} (h : lexeme path (c :: cs) = .ok (kind, word)) :
    Begins c kind := by
  constructor
  all_goals
    rintro rfl
    cases h
  all_goals rfl

theorem begins_of_isSpace {c : Char} (h : isSpace c) : Begins c kind := by
  rcases eq_of_isSpace h with rfl | rfl | rfl | rfl <;> exact ⟨nofun, nofun, nofun, nofun, nofun⟩

/-- The first character of a text whose first token is known. -/
theorem Spelled.head {k : Lexeme} {ks : List Lexeme} (h : Spelled path cs (k :: ks)) :
    ∃ c rest, cs = c :: rest ∧ Begins c k.1 := by
  cases h with
  | @blank _ c cs _ hc _ => exact ⟨c, cs, rfl, begins_of_isSpace hc⟩
  | @token _ _ _ _ _ first =>
    cases cs with
    | nil => cases first
    | cons c cs => exact ⟨c, cs, rfl, begins_of_lexeme first⟩

theorem isMark_of_begins {a : Char} (h : Begins a kind) (left : kind ≠ .leftBrace)
    (right : kind ≠ .rightBrace) (minus : kind ≠ .minus) : isMark (a :: cs) = false := by
  cases cs with
  | nil => rfl
  | cons b cs =>
    have notLeft : a ≠ '\x7b' := fun h' => left (h.leftBrace h')
    have notRight : a ≠ '\x7d' := fun h' => right (h.rightBrace h')
    have notMinus : a ≠ '-' := fun h' => minus (h.minus h')
    simp [isMark, notLeft, notRight, notMinus, h.percent, h.hash]

theorem isMark_of_begins_second {a b : Char} (h : Begins b kind)
    (right : kind ≠ .rightBrace ∨ a = '\x7b')
    (left : kind ≠ .leftBrace) : isMark (a :: b :: cs) = false := by
  have notLeft : b ≠ '\x7b' := fun h' => left (h.leftBrace h')
  rcases right with right | rfl
  · have notRight : b ≠ '\x7d' := fun h' => right (h.rightBrace h')
    simp [isMark, notLeft, notRight, h.percent, h.hash]
  · simp [isMark, notLeft, h.percent, h.hash]

/-- The text of a dash or of a brace is one character. -/
theorem eq_of_lexeme (h : lexeme path cs = .ok (kind, word))
    (hk : kind = .minus ∨ kind = .leftBrace ∨ kind = .rightBrace) :
    ∃ c rest, cs = c :: rest ∧ word = [c] ∧ single? c = some kind := by
  cases firstToken_of_lexeme h with
  | mark mark => exact ⟨_, _, rfl, rfl, mark⟩
  | name =>
    rcases hk with h | h | h
    all_goals exact absurd h (nameKind_ne (by decide) (by decide) _)
  | _ => simp at hk

theorem eq_of_single? {c : Char} (h : single? c = some kind) :
    (kind = .leftBrace → c = '\x7b') ∧ (kind = .rightBrace → c = '\x7d') := by
  have braces : ∀ m ∈ marks, (m.2 = .leftBrace → m.1 = '\x7b') ∧
      (m.2 = .rightBrace → m.1 = '\x7d') := by decide
  exact braces _ (mem_marks_of_single? h)

/-- Before a token of a braced text stands no standard delimiter, or it closes an open brace. -/
theorem Braced.of_lexeme (beyond : List Char) {ks : List Lexeme}
    (h : Braced depth (kind :: kinds ks))
    (read : lexeme path cs = .ok (kind, word))
    (behind : Spelled (pathAfter path kind) (cs.drop word.length) ks) :
    ((0 < depth ∧ cs.head? = some '\x7d') ∨ isMark (cs ++ beyond) = false) ∧
      Braced (depthAfter depth kind) (kinds ks) := by
  obtain ⟨a, rest, rfl⟩ := List.exists_cons_of_ne_nil (l := cs) (by rintro rfl; cases read)
  have begins := begins_of_lexeme read
  generalize hls : kinds ks = ls at h ⊢
  cases h with
  | plain hk h =>
    have other : kind ≠ .leftBrace ∧ kind ≠ .rightBrace ∧ kind ≠ .minus := by
      refine ⟨?_, ?_, ?_⟩ <;> rintro rfl <;> cases hk
    have same : depthAfter depth kind = depth := by
      unfold depthAfter
      split
      · exact absurd rfl other.1
      · exact absurd rfl other.2.1
      · rfl
    rw [same]
    exact ⟨.inr (isMark_of_begins begins other.1 other.2.1 other.2.2), h⟩
  | @sign _ negative ls h =>
    cases ks with
    | nil => cases hls
    | cons k ks =>
      obtain ⟨hk, rfl⟩ := List.cons.inj hls
      cases negative with
      | false => exact ⟨.inr (isMark_of_begins begins nofun nofun nofun), .plain rfl h⟩
      | true =>
        obtain ⟨_, _, eq, rfl, -⟩ := eq_of_lexeme read (.inl rfl)
        obtain ⟨b, rest', hrest, begins'⟩ := behind.head
        rw [hk] at begins'
        simp only [List.length_singleton, List.drop_succ_cons, List.drop_zero] at hrest
        rw [hrest]
        exact ⟨.inr (isMark_of_begins_second begins' (.inl nofun) nofun), .plain rfl h⟩
  | @left _ k ls hk h =>
    cases ks with
    | nil => cases hls
    | cons l ks =>
      obtain ⟨hl, rfl⟩ := List.cons.inj hls
      obtain ⟨_, _, eq, rfl, mark⟩ := eq_of_lexeme read (.inr (.inl rfl))
      cases eq
      obtain ⟨b, rest', hrest, begins'⟩ := behind.head
      rw [hl] at begins'
      simp only [List.length_singleton, List.drop_succ_cons, List.drop_zero] at hrest
      rw [hrest]
      exact ⟨.inr (isMark_of_begins_second begins' (.inr ((eq_of_single? mark).1 rfl)) hk), h⟩
  | right h =>
    obtain ⟨_, _, eq, -, mark⟩ := eq_of_lexeme read (.inr (.inr rfl))
    cases eq
    exact ⟨.inl ⟨Nat.succ_pos _, congrArg some ((eq_of_single? mark).2 rfl)⟩, h⟩

/-- One token inside a tag is read where no delimiter is found. -/
theorem run_of_lexeme {n offset : Nat} {trims : Bool}
    (free : (0 < depth ∧ cs.head? = some '\x7d') ∨ d.match? (cs ++ beyond) = none)
    (read : lexeme path cs = .ok (kind, word)) :
    run d source beyond (n + 1) ⟨.tag tag opening depth path, trims, offset, cs⟩ =
      let l := run d source beyond n ⟨
        .tag tag opening (depthAfter depth kind) (pathAfter path kind),
        trims, offset + Text.byteLength word, cs.drop word.length⟩
      ⟨token kind offset word :: l.tokens, l.failure⟩ := by
  have full : cs ≠ [] := by
    rintro rfl
    cases read
  have none : (if (0 < depth && cs.head? == some '\x7d') = true then none
      else d.match? (cs ++ beyond)) = none := by
    rcases free with ⟨deep, brace⟩ | free
    · rw [if_pos (by simp [deep, brace])]
    · rw [free, ite_self]
  have stepped : step d source beyond ⟨.tag tag opening depth path, trims, offset, cs⟩ =
      .tokens [token kind offset word] ⟨
        .tag tag opening (depthAfter depth kind) (pathAfter path kind),
        trims, offset + Text.byteLength word, cs.drop word.length⟩ := by
    simp only [step, stepTag, none, read]
    rfl
  exact run_of_tokens full stepped

/-- What is spelled is read with the standard delimiters, up to a text that does not go on. -/
theorem exists_run_append {ks : List Lexeme} {n : Nat} (offset : Nat) {trims : Bool}
    (hn : (cs ++ ds).length < n) (h : Spelled path cs ks) (braced : Braced depth (kinds ks))
    (breaks : Breaks ds) (dark : ∀ c ∈ ds.head?, isSpace c = false) :
    ∃ ts n' offset' path', ds.length < n' ∧ significant ts = ks ∧
      run .standard source beyond n ⟨.tag tag opening depth path, trims, offset, cs ++ ds⟩ =
        let l := run .standard source beyond n'
          ⟨.tag tag opening ((kinds ks).foldl depthAfter depth) path', trims, offset', ds⟩
        ⟨ts ++ l.tokens, l.failure⟩ := by
  -- on the bound; a step takes the characters of one token off the text
  induction n generalizing cs path depth offset ks with
  | zero => cases hn
  | succ n ih =>
    have shorter {kind : TokenKind} {word : List Char} (read : lexeme path cs = .ok (kind, word)) :
        (cs.drop word.length ++ ds).length < n := by
      have pos := List.length_pos_iff.2 (lexeme_ne_nil read)
      have le := (prefix_of_lexeme read).length_le
      rw [List.length_append] at hn ⊢
      rw [List.length_drop]
      omega
    cases h with
    | nil => exact ⟨[], n + 1, offset, path, hn, rfl, rfl⟩
    | @blank _ c cs _ hc h =>
      have read : lexeme path (c :: cs) = _ := lexeme_of_isSpace hc cs
      have begins : Begins c .whitespace := begins_of_isSpace hc
      have free : isMark (c :: (cs ++ ds) ++ beyond) = false :=
        isMark_of_begins begins nofun nofun nofun
      have goesOn : lexeme path (c :: (cs ++ ds)) =
          .ok (.whitespace, c :: cs.takeWhile isSpace) := by
        rw [lexeme_of_isSpace hc, takeWhile_append_of_head dark]
      obtain ⟨ts, n', offset', path', hn', same, eq⟩ :=
        ih (offset + Text.byteLength (c :: cs.takeWhile isSpace)) (shorter read)
          ((Spelled.blank hc h).of_lexeme read) braced
      refine ⟨token .whitespace offset (c :: cs.takeWhile isSpace) :: ts, n', offset', path', hn',
        ?_, ?_⟩
      · rw [significant_cons, if_pos rfl, same]
      · rw [List.cons_append, run_of_lexeme (.inr (match?_eq_none free)) goesOn,
          ← List.cons_append, List.drop_append_of_le_length (prefix_of_lexeme read).length_le]
        exact congrArg (fun l : Lexed => (⟨_ :: l.tokens, l.failure⟩ : Lexed)) eq
    | @token _ _ word kind ks read hk h =>
      obtain ⟨free, braced⟩ := braced.of_lexeme (ds ++ beyond) read h
      obtain ⟨ts, n', offset', path', hn', same, eq⟩ :=
        ih (offset + Text.byteLength word) (shorter read) h braced
      refine ⟨token kind offset word :: ts, n', offset', path', hn', ?_, ?_⟩
      · rw [significant_cons, if_neg hk, same]
      · have free : (0 < depth ∧ (cs ++ ds).head? = some '\x7d') ∨
            Delimiters.standard.match? (cs ++ ds ++ beyond) = none := by
          rw [List.append_assoc]
          exact free.imp (fun brace => ⟨brace.1, by rw [List.head?_append, brace.2]; rfl⟩)
            match?_eq_none
        rw [run_of_lexeme free (lexeme_append read hk breaks),
          List.drop_append_of_le_length (prefix_of_lexeme read).length_le]
        exact congrArg (fun l : Lexed => (⟨_ :: l.tokens, l.failure⟩ : Lexed)) eq

/-- What is spelled is read with the standard delimiters, whatever stands behind it. -/
theorem run_of_spelled {n offset : Nat} {trims : Bool} {ks : List Lexeme} (hn : cs.length < n)
    (h : Spelled path cs ks) (braced : Braced depth (kinds ks)) :
    (run .standard source beyond n ⟨.tag tag opening depth path, trims, offset, cs⟩).failure =
        none ∧
      significant (run .standard source beyond n
        ⟨.tag tag opening depth path, trims, offset, cs⟩).tokens = ks := by
  rw [← List.append_nil cs] at hn ⊢
  obtain ⟨ts, n', offset', path', -, same, eq⟩ := exists_run_append offset hn h braced nofun nofun
  rw [eq, run_of_nil rfl]
  exact ⟨rfl, (congrArg significant (List.append_nil ts)).trans same⟩

end Stencil.Lexer

/-! ## Regions -/

namespace Stencil

open Lexer

variable {d : Delimiters} {source text : String} {span : Span} {ks : List Lexeme} {l : Lexed}

theorem Text.eq_append_of_dropBytes {n : Nat} {cs rest : List Char}
    (h : dropBytes n cs = some rest) : ∃ before, cs = before ++ rest ∧ byteLength before = n := by
  induction cs generalizing n with
  | nil =>
    rw [dropBytes] at h
    split at h
    · next zero =>
      cases h
      exact ⟨[], rfl, zero.symm⟩
    · cases h
  | cons c cs ih =>
    rw [dropBytes] at h
    split at h
    · next zero =>
      cases h
      exact ⟨[], rfl, zero.symm⟩
    split at h
    · next fits =>
      obtain ⟨before, rfl, length⟩ := ih h
      exact ⟨c :: before, rfl, by rw [byteLength_cons, length]; omega⟩
    · cases h

/-- A part of a text with what stands before and behind it. -/
theorem Text.exists_append_of_sliceChars {span : Span} {cs part : List Char}
    (h : sliceChars span cs = some part) :
    ∃ before after, cs = before ++ (part ++ after) ∧ byteLength before = span.start ∧
      byteLength (before ++ part) = span.stop := by
  unfold sliceChars at h
  split at h
  · next le =>
    obtain ⟨rest, dropped, taken⟩ := Option.bind_eq_some_iff.1 h
    obtain ⟨before, rfl, start⟩ := eq_append_of_dropBytes dropped
    obtain ⟨length, after, rfl⟩ := eq_append_of_takeBytes taken
    refine ⟨before, after, rfl, start, ?_⟩
    rw [byteLength_append, start, length]
    omega
  · cases h

/-- What is read in a region is read from its text and what stands behind. -/
theorem lexRegion_eq_run (h : Text.slice span source = some text) : ∃ beyond,
    lexRegion d source span = some (run d source beyond (text.toList.length + 1)
      ⟨.tag .block span 0 false, false, span.start, text.toList⟩) := by
  obtain ⟨cs, part, rfl⟩ := Option.map_eq_some_iff.1 h
  obtain ⟨before, after, eq, start, stop⟩ := Text.exists_append_of_sliceChars part
  have behind : Text.dropBytes span.stop source.toList = some after := by
    rw [eq, ← List.append_assoc, ← stop, Text.dropBytes_append]
  refine ⟨after, ?_⟩
  rw [lexRegion, part, behind, String.toList_ofList]
  rfl

/-- In a region, the tokens of a text are those that are spelled. -/
theorem spelled_of_lexRegion (h : Text.slice span source = some text)
    (read : lexRegion d source span = some l) (ok : l.failure = none)
    (inside : ∀ t ∈ l.tokens, t.kind ≠ .closing .block) :
    Spelled false text.toList (l.significant.map Token.lexeme) := by
  obtain ⟨beyond, eq⟩ := lexRegion_eq_run (d := d) h
  rw [read] at eq
  cases eq
  exact spelled_of_run (Nat.lt_succ_self _) ok inside

/-- With the standard delimiters, the tokens that are spelled are those of a text in a region. -/
theorem lexRegion_of_spelled (h : Text.slice span source = some text)
    (spelled : Spelled false text.toList ks) (settled : Settled (kinds ks)) :
    ∃ l, lexRegion .standard source span = some l ∧ l.failure = none ∧
      l.significant.map Token.lexeme = ks := by
  obtain ⟨beyond, eq⟩ := lexRegion_eq_run (d := .standard) h
  exact ⟨_, eq, run_of_spelled (Nat.lt_succ_self _) spelled (.of_settled settled)⟩

end Stencil
