import Stencil.Proofs.CommaLists
import Stencil.Proofs.LiteralTags
import Stencil.Proofs.Regions
import Stencil.Proofs.TokenSpans

/-!
# String literals

Between the quotes of a string literal a backslash stands with the character behind it for one
character. The lexer only looks for the closing quote and skips what stands behind a backslash; the
escapes are resolved later, when the token is read. Both see the same pairs of characters, so what
is escaped is read back, and no token ends within a pair.

- `Literal.quoted`: a text between quotes, with its special characters escaped.
- `Literal.Quotes`: characters between quotes stand for others.
- `Literal.Inner`: characters stand between the quotes of a token.
- `Lexer.lexeme_of_inner`, `Lexer.inner_of_lexeme`: what the lexer takes for a string.
- `Literal.string_of_quotes`, `Literal.string_of_escape`: what is read of the token.
- `Literal.readsBack_quoted`: literals are read back, and the other string tokens are errors.
-/

namespace Stencil

open Lexer Parse

namespace Literal

/-! ## Escapes -/

/-- A character as it is written between quotes. -/
def quoteChar (c : Char) : List Char :=
  if c = '\\' then ['\\', '\\']
  else if c = '"' then ['\\', '"']
  else if c = '\n' then ['\\', 'n']
  else if c = '\r' then ['\\', 'r']
  else if c = '\t' then ['\\', 't']
  else [c]

/-- A text between quotes, with its special characters escaped. -/
def quoted (s : String) : String := String.ofList ('"' :: (s.toList.flatMap quoteChar ++ ['"']))

/-- The line goes on with a character. -/
def Inline (c : Char) : Prop := ¬(c = '\r' ∨ c = '\n')

instance : DecidablePred Inline := fun c => inferInstanceAs (Decidable (¬(c = '\r' ∨ c = '\n')))

/-- Characters between quotes stand for others: each backslash stands with the character behind it
for one of them. -/
inductive Quotes : List Char → List Char → Prop
  | nil : Quotes [] []
  | plain {c : Char} {cs xs : List Char} (hc : c ≠ '\\') (h : Quotes cs xs) :
      Quotes (c :: cs) (c :: xs)
  | escape {c x : Char} {cs xs : List Char} (hc : escaped c = some x) (h : Quotes cs xs) :
      Quotes ('\\' :: c :: cs) (x :: xs)

/-- Characters stand between the quotes of a token: each backslash has a character behind it, and
among the others there is no quote. -/
inductive Inner : List Char → Prop
  | nil : Inner []
  | plain {c : Char} {cs : List Char} (hc : Inline c) (quote : c ≠ '"') (backslash : c ≠ '\\')
      (h : Inner cs) : Inner (c :: cs)
  | escape {c : Char} {cs : List Char} (hc : Inline c) (h : Inner cs) : Inner ('\\' :: c :: cs)

variable {cs xs : List Char}

/-- A character between quotes is escaped, or it stands for itself. -/
theorem quoteChar_cases (c : Char) :
    (∃ e, quoteChar c = ['\\', e] ∧ escaped e = some c ∧ Inline e) ∨
      (quoteChar c = [c] ∧ Inline c ∧ c ≠ '"' ∧ c ≠ '\\') := by
  unfold quoteChar
  -- the escapes are tested one after the other, as they are written
  split
  · next h => exact .inl ⟨'\\', rfl, by rw [h]; rfl, by decide⟩
  split
  · next h => exact .inl ⟨'"', rfl, by rw [h]; rfl, by decide⟩
  split
  · next h => exact .inl ⟨'n', rfl, by rw [h]; rfl, by decide⟩
  split
  · next h => exact .inl ⟨'r', rfl, by rw [h]; rfl, by decide⟩
  split
  · next h => exact .inl ⟨'t', rfl, by rw [h]; rfl, by decide⟩
  · next backslash quote lf cr _ => exact .inr ⟨rfl, not_or_intro cr lf, quote, backslash⟩

/-- What is escaped stands for the text. -/
theorem quotes_flatMap (xs : List Char) : Quotes (xs.flatMap quoteChar) xs := by
  induction xs with
  | nil => exact .nil
  | cons c xs ih =>
    rw [List.flatMap_cons]
    rcases quoteChar_cases c with ⟨e, eq, back, -⟩ | ⟨eq, -, -, plain⟩
    · rw [eq]
      exact .escape back ih
    · rw [eq]
      exact .plain plain ih

theorem inner_flatMap (xs : List Char) : Inner (xs.flatMap quoteChar) := by
  induction xs with
  | nil => exact .nil
  | cons c xs ih =>
    rw [List.flatMap_cons]
    rcases quoteChar_cases c with ⟨e, eq, -, goesOn⟩ | ⟨eq, goesOn, quote, plain⟩
    · rw [eq]
      exact .escape goesOn ih
    · rw [eq]
      exact .plain goesOn quote plain ih

/-- Between the quotes of a token, all escapes stand for something, or there is a first one that
does not. -/
theorem Inner.quotes_or (h : Inner cs) : (∃ xs, Quotes cs xs) ∨
    ∃ good xs c rest, cs = good ++ '\\' :: c :: rest ∧ Quotes good xs ∧ escaped c = none := by
  induction h with
  | nil => exact .inl ⟨[], .nil⟩
  | @plain c cs _ _ plain _ ih =>
    rcases ih with ⟨xs, quotes⟩ | ⟨good, xs, e, rest, rfl, quotes, bad⟩
    · exact .inl ⟨c :: xs, .plain plain quotes⟩
    · exact .inr ⟨c :: good, c :: xs, e, rest, rfl, .plain plain quotes, bad⟩
  | @escape c cs _ _ ih =>
    cases meant : escaped c with
    | none => exact .inr ⟨[], [], c, cs, rfl, .nil, meant⟩
    | some x =>
      rcases ih with ⟨xs, quotes⟩ | ⟨good, xs, e, rest, rfl, quotes, bad⟩
      · exact .inl ⟨x :: xs, .escape meant quotes⟩
      · exact .inr ⟨'\\' :: c :: good, x :: xs, e, rest, rfl, .escape meant quotes, bad⟩

/-- Behind escapes that stand for something, a token does not end with a backslash. -/
theorem Quotes.not_inner (h : Quotes cs xs) : ¬ Inner (cs ++ ['\\']) := by
  induction h with
  | nil =>
    intro inner
    cases inner with
    | plain _ _ backslash => exact backslash rfl
  | @plain c cs _ hc _ ih =>
    rw [List.cons_append]
    generalize cs ++ ['\\'] = ds at ih ⊢
    intro inner
    cases inner with
    | plain _ _ _ inner => exact ih inner
    | escape => exact hc rfl
  | escape _ _ ih =>
    intro inner
    cases inner with
    | plain _ _ backslash => exact backslash rfl
    | escape _ inner => exact ih inner

end Literal

/-! ## Tokens of strings -/

namespace Lexer

open Literal (Inner Inline)

variable {cs ds word : List Char} {path : Bool}

theorem stringBody_cons {escaped : Bool} {c : Char} (hc : Inline c)
    (goesOn : ¬(c = '"' ∧ escaped = false)) {body : List Char}
    (h : stringBody (c = '\\' ∧ escaped = false) cs = .ok body) :
    stringBody escaped (c :: cs) = .ok (c :: body) := by
  rw [stringBody, if_neg hc, if_neg goesOn, h]

/-- The text of a string ends with its closing quote. -/
theorem stringBody_of_inner (h : Inner cs) :
    stringBody false (cs ++ '"' :: ds) = .ok (cs ++ ['"']) := by
  induction h with
  | nil => rfl
  | @plain c cs hc quote backslash _ ih =>
    refine stringBody_cons hc (fun closes => quote closes.1) ?_
    rw [decide_eq_false (fun escapes => backslash escapes.1)]
    exact ih
  | @escape c cs hc _ ih =>
    have second : stringBody true (c :: (cs ++ '"' :: ds)) = .ok (c :: (cs ++ ['"'])) := by
      refine stringBody_cons hc (fun closes => Bool.noConfusion closes.2) ?_
      rw [decide_eq_false (fun escapes => Bool.noConfusion escapes.2)]
      exact ih
    exact stringBody_cons (by decide) (by decide) second

/-- Behind a backslash any character of the line may stand, and then the rest of a string. -/
theorem inner_of_stringBody {escaped : Bool} {body : List Char}
    (h : stringBody escaped cs = .ok body) : ∃ inner, Inner inner ∧
      ((escaped = false ∧ body = inner ++ ['"']) ∨
        ∃ c, escaped = true ∧ Inline c ∧ body = c :: (inner ++ ['"'])) := by
  induction cs generalizing escaped body with
  | nil => cases h
  | cons c cs ih =>
    rw [stringBody] at h
    split at h
    · cases h
    next goesOn =>
    split at h
    · next closes =>
      cases h
      obtain ⟨rfl, rfl⟩ := closes
      exact ⟨[], .nil, .inl ⟨rfl, rfl⟩⟩
    next inside =>
    split at h
    · next body' read =>
      cases h
      obtain ⟨inner, hinner, ⟨plain, rfl⟩ | ⟨e, escapes, he, rfl⟩⟩ := ih read
      · cases escaped with
        | true => exact ⟨inner, hinner, .inr ⟨c, rfl, goesOn, rfl⟩⟩
        | false =>
          have quote : c ≠ '"' := fun h => inside ⟨h, rfl⟩
          have backslash : c ≠ '\\' := fun h => by simp [h] at plain
          exact ⟨c :: inner, .plain goesOn quote backslash hinner, .inl ⟨rfl, rfl⟩⟩
      · obtain ⟨rfl, rfl⟩ := of_decide_eq_true escapes
        exact ⟨'\\' :: e :: inner, .escape he hinner, .inl ⟨rfl, rfl⟩⟩
    · cases h

/-- Characters between quotes are one token. -/
theorem lexeme_of_inner (h : Inner cs) : lexeme path ('"' :: (cs ++ '"' :: ds)) =
    .ok (.string, '"' :: (cs ++ ['"'])) := by
  have quote : single? '"' = none := rfl
  simp only [lexeme, quote, stringBody_of_inner h]
  rfl

/-- The token of a string has its characters between quotes. -/
theorem inner_of_lexeme (h : lexeme path cs = .ok (.string, word)) :
    ∃ inner, word = '"' :: (inner ++ ['"']) ∧ Inner inner := by
  generalize string : TokenKind.string = kind at h
  cases firstToken_of_lexeme h with
  | mark mark =>
    have others : ∀ m ∈ marks, m.2 ≠ .string := by decide
    exact absurd string.symm (others _ (mem_marks_of_single? mark))
  | string read =>
    obtain ⟨inner, hinner, ⟨-, rfl⟩ | ⟨_, escapes, -⟩⟩ := inner_of_stringBody read
    · exact ⟨inner, rfl, hinner⟩
    · cases escapes
  | name => exact absurd string.symm (nameKind_ne (by decide) (by decide) _)
  | _ => cases string

variable {d : Delimiters} {source : String} {beyond : List Char} {s next : Scan} {ts : List Token}

/-- The lexer yields a token from a source, or from a region of it. -/
def Yields (d : Delimiters) (source : String) (t : Token) : Prop :=
  t ∈ (lex d source).tokens ∨ ∃ region l, lexRegion d source region = some l ∧ t ∈ l.tokens

theorem inner_of_run {n : Nat} {t : Token} (mem : t ∈ (run d source beyond n s).tokens)
    (kind : t.kind = .string) :
    ∃ inner, t.text = String.ofList ('"' :: (inner ++ ['"'])) ∧ Inner inner := by
  obtain ⟨path, cs, word, read, text⟩ := exists_read_of_run mem (by rw [kind]; rfl)
  rw [kind] at read
  obtain ⟨inner, rfl, hinner⟩ := inner_of_lexeme read
  exact ⟨inner, text, hinner⟩

/-- A token of a string stands in the source, with its characters between quotes. -/
theorem Yields.inner {t : Token} (h : Yields d source t) (kind : t.kind = .string) :
    t.Reads source ∧ ∃ inner, t.text = String.ofList ('"' :: (inner ++ ['"'])) ∧ Inner inner := by
  have plain (raw : t.kind = .raw) : ¬ d.Pinches source := by
    rw [kind] at raw
    cases raw
  rcases h with mem | ⟨region, l, lexed, mem⟩
  · exact ⟨((legible_of_lex d source).1 t mem).reads plain, inner_of_run mem kind⟩
  · refine ⟨((legible_of_lexRegion lexed).1 t mem).reads plain, ?_⟩
    unfold lexRegion at lexed
    obtain ⟨cs, -, lexed⟩ := Option.bind_eq_some_iff.1 lexed
    obtain ⟨beyond, -, lexed⟩ := Option.bind_eq_some_iff.1 lexed
    cases lexed
    exact inner_of_run mem kind

/-- With the standard delimiters, characters between quotes are read as one token wherever a token
begins inside a tag. -/
theorem run_of_inner {n offset depth : Nat} {tag : TagKind} {opening : Span} {trims : Bool}
    (h : Inner cs) :
    run .standard source beyond (n + 1)
        ⟨.tag tag opening depth path, trims, offset, '"' :: (cs ++ '"' :: ds)⟩ =
      let l := run .standard source beyond n ⟨.tag tag opening depth false, trims,
        offset + Text.byteLength ('"' :: (cs ++ ['"'])), ds⟩
      ⟨token .string offset ('"' :: (cs ++ ['"'])) :: l.tokens, l.failure⟩ := by
  have read : lexeme path ('"' :: (cs ++ '"' :: ds)) = .ok (.string, '"' :: (cs ++ ['"'])) :=
    lexeme_of_inner h
  have free : isMark ('"' :: (cs ++ '"' :: ds) ++ beyond) = false :=
    isMark_of_begins (begins_of_lexeme read) nofun nofun nofun
  rw [run_of_lexeme (.inr (match?_eq_none free)) read]
  have rest : ('"' :: (cs ++ '"' :: ds)).drop ('"' :: (cs ++ ['"'])).length = ds := by
    have split : '"' :: (cs ++ '"' :: ds) = '"' :: (cs ++ ['"']) ++ ds := by simp
    rw [split, List.drop_left]
  rw [rest]
  rfl

end Lexer

/-! ## Reading -/

namespace Literal

variable {c : Char} {cs good rest xs : List Char} {source text : String} {span : Span}

/-- The place of an escape behind other characters in a literal that starts at an offset. -/
def escapePlace (start : Nat) (good : List Char) (c : Char) : Span :=
  let offset := start + Text.byteLength ('"' :: good)
  ⟨offset, offset + Text.byteLength ['\\', c]⟩

theorem unescape_append (h : Quotes good xs) (offset : Nat) : unescape offset (good ++ rest) =
    (unescape (offset + Text.byteLength good) rest).map (xs ++ ·) := by
  induction h generalizing offset with
  | nil =>
    show unescape offset rest = (unescape offset rest).map id
    cases unescape offset rest <;> rfl
  | @plain c cs xs hc _ ih =>
    rw [List.cons_append, unescape.eq_def]
    simp only [if_neg hc, ih, Text.byteLength_cons, Nat.add_assoc]
    cases unescape (offset + (c.utf8Size + Text.byteLength cs)) rest <;> rfl
  | @escape c x cs xs hc _ ih =>
    have one : ('\\').utf8Size = 1 := rfl
    simp only [List.cons_append, unescape, if_true, hc, ih, Text.byteLength_cons, Nat.add_assoc,
      one]
    cases unescape (offset + (1 + (c.utf8Size + Text.byteLength cs))) rest <;> rfl

theorem inner?_toList (h : text = String.ofList ('"' :: (cs ++ ['"']))) :
    inner? text.toList = some cs := by
  rw [h, String.toList_ofList, inner?_of_quotes]

/-- A literal is the text that its characters stand for. -/
theorem string_of_quotes (h : text = String.ofList ('"' :: (cs ++ ['"']))) (quotes : Quotes cs xs) :
    string source text span = .ok (String.ofList xs) := by
  have read : unescape (span.start + 1) (cs ++ []) = .ok (xs ++ []) := unescape_append quotes _
  rw [List.append_nil, List.append_nil] at read
  exact string_of_unescape (inner?_toList h) read

/-- A literal with a bad escape is an error at the place of the first one. -/
theorem string_of_escape
    (h : text = String.ofList ('"' :: (good ++ '\\' :: c :: rest ++ ['"'])))
    (quotes : Quotes good xs) (bad : escaped c = none) :
    string source text span =
      .error (.error (Error.syntaxAt .unknownEscape source (escapePlace span.start good c))) := by
  have quote : ('"').utf8Size = 1 := rfl
  have backslash : ('\\').utf8Size = 1 := rfl
  refine string_of_unescape_error (inner?_toList h) ?_
  rw [unescape_append quotes]
  simp only [unescape, if_true, bad, escapePlace, Text.byteLength_cons, Text.byteLength_nil, quote,
    backslash, Nat.add_assoc]
  rfl

/-- The text at the place of an escape. -/
theorem slice_escapePlace {t : Token} (h : t.Reads source)
    (text : t.text = String.ofList ('"' :: (good ++ '\\' :: c :: rest ++ ['"']))) :
    Text.slice (escapePlace t.span.start good c) source = some (String.ofList ['\\', c]) := by
  obtain ⟨before, cs, after, eq, span, text'⟩ := h
  rw [text] at text'
  obtain rfl := String.ofList_injective text'
  have split : source.toList =
      before ++ '"' :: good ++ ['\\', c] ++ (rest ++ '"' :: after) := by
    rw [eq]
    simp
  have cut := Text.sliceChars_append (before ++ '"' :: good) ['\\', c] (rest ++ '"' :: after)
  rw [← split, Text.byteLength_append] at cut
  rw [escapePlace, span, Text.slice]
  exact congrArg (Option.map String.ofList) cut

/-- There is no text in an empty source. -/
theorem isEmpty_of_slice (h : Text.slice span source = some (String.ofList (c :: cs))) :
    source.isEmpty = false := by
  by_contra full
  have empty : source = "" := String.isEmpty_iff.1 (by simpa using full)
  subst empty
  obtain ⟨part, cut, eq⟩ := Option.map_eq_some_iff.1 h
  obtain rfl := String.ofList_injective eq
  obtain ⟨before, after, split, -, -⟩ := Text.exists_append_of_sliceChars cut
  simp at split

end Literal

namespace Parse

variable {s : Surroundings} {t : Token} {n : Nat}

theorem term_string (kind : t.kind = .string) (R : List Token) : term s (n + 1) (t :: R) =
    (Literal.string s.source t.text t.span).map fun v => (.literal (.text v) t.span, R) := by
  rw [term, any_cons_bind]
  simp only [kind]
  cases Literal.string s.source t.text t.span <;> rfl

theorem mapKey_string (kind : t.kind = .string) (R : List Token) : mapKey s (t :: R) =
    (Literal.string s.source t.text t.span).map fun v => (v, R) := by
  rw [mapKey, any_cons_bind]
  simp only [kind]
  cases Literal.string s.source t.text t.span <;> rfl

/-- A string token is a text or an error, wherever one is read. -/
structure ReadAs (source : String) (t : Token) (r : Except Error String) : Prop where
  value : Literal.string source t.text t.span = lift r
  /-- As a part of an expression. -/
  term (failure : Option Failure) (n : Nat) (R : List Token) :
    Parse.term ⟨source, failure⟩ (n + 1) (t :: R) =
      (lift r).map fun v => (.literal (.text v) t.span, R)
  /-- As the key of a map entry. -/
  key (failure : Option Failure) (R : List Token) :
    mapKey ⟨source, failure⟩ (t :: R) = (lift r).map fun v => (v, R)

theorem readAs {source : String} {r : Except Error String} (kind : t.kind = .string)
    (read : Literal.string source t.text t.span = lift r) : ReadAs source t r where
  value := read
  term failure n R := by rw [term_string kind, read]
  key failure R := by rw [mapKey_string kind, read]

end Parse

/-! ## Literals of texts -/

namespace Literal

/-- The source that prints a literal. -/
def quotedTag (s : String) : String := "\x7b\x7b " ++ quoted s ++ " \x7d\x7d"

/-- The template that prints a literal. -/
def template (s : String) (span whole : Span) : Template :=
  ⟨none, quotedTag s, [.output (.literal (.text s) span) whole]⟩

/-- The literal of a text is read back. -/
structure ReadsBack (s : String) : Prop where
  /-- With the standard delimiters it is one token wherever a token begins inside a tag, and the
  lexer goes on with what stands behind it. -/
  token (source : String) (beyond ds : List Char) (tag : TagKind) (opening : Span) (depth : Nat)
    (path trims : Bool) (offset n : Nat) :
    run .standard source beyond (n + 1)
        ⟨.tag tag opening depth path, trims, offset, (quoted s).toList ++ ds⟩ =
      let l := run .standard source beyond n ⟨.tag tag opening depth false, trims,
        offset + Text.byteLength (quoted s).toList, ds⟩
      ⟨Lexer.token .string offset (quoted s).toList :: l.tokens, l.failure⟩
  /-- Wherever the token is read, it is the text. -/
  read (source : String) (t : Token) :
    t.lexeme = (.string, quoted s) → ReadAs source t (.ok s)
  /-- The tag of the literal prints the text. -/
  printed (e : Engine) (job : Job) (data : Value) : e.delimiters = .standard →
    e.defaultFormatter = .standard → job.data = .ok data → job.room = none →
      ∃ span whole, e.compile (quotedTag s) = .ok (template s span whole) ∧
        (e.render (template s span whole) job).result = .ok .empty ∧
        (e.render (template s span whole) job).body = s

variable (s : String)

theorem string_quoted (source : String) (span : Span) : string source (quoted s) span = .ok s := by
  have read : string source (quoted s) span = .ok (String.ofList s.toList) :=
    string_of_quotes rfl (quotes_flatMap s.toList)
  rwa [String.ofList_toList] at read

/-- A literal is spelled as one token. -/
theorem spelled_quoted {path : Bool} :
    Spelled path (quoted s).toList [(.string, quoted s)] := by
  have read : lexeme path ('"' :: (s.toList.flatMap quoteChar ++ ['"'])) = .ok (.string, _) :=
    lexeme_of_inner (inner_flatMap s.toList)
  rw [quoted, String.toList_ofList]
  refine .token read nofun ?_
  rw [List.drop_length]
  exact .nil

theorem run_quoted (source : String) (beyond ds : List Char) (tag : TagKind) (opening : Span)
    (depth : Nat) (path trims : Bool) (offset n : Nat) :
    run .standard source beyond (n + 1)
        ⟨.tag tag opening depth path, trims, offset, (quoted s).toList ++ ds⟩ =
      let l := run .standard source beyond n ⟨.tag tag opening depth false, trims,
        offset + Text.byteLength (quoted s).toList, ds⟩
      ⟨Lexer.token .string offset (quoted s).toList :: l.tokens, l.failure⟩ := by
  have split : (quoted s).toList ++ ds = '"' :: (s.toList.flatMap quoteChar ++ '"' :: ds) := by
    rw [quoted, String.toList_ofList]
    simp
  rw [split, run_of_inner (inner_flatMap s.toList), quoted, String.toList_ofList]

theorem exists_compile_quotedTag {e : Engine} (he : e.delimiters = .standard) :
    ∃ span whole, e.compile (quotedTag s) = .ok (template s span whole) := by
  have tag : (quotedTag s).toList =
      '\x7b' :: '\x7b' :: ' ' :: ((quoted s).toList ++ [' '] ++ ['\x7d', '\x7d']) := by
    have front : "\x7b\x7b ".toList = ['\x7b', '\x7b', ' '] := rfl
    have back : " \x7d\x7d".toList = [' ', '\x7d', '\x7d'] := rfl
    simp only [quotedTag, String.toList_append, front, back, List.append_assoc, List.cons_append,
      List.nil_append]
  have spelled : Spelled false ((quoted s).toList ++ [' ']) [(.string, quoted s)] :=
    (spelled_quoted s).append (breaks_cons rfl) fun _ => .blank rfl .nil
  obtain ⟨C, offset, whole, hC, ok, -⟩ :=
    Engine.compile_expressionTag he tag spelled (.single rfl)
  obtain ⟨t, rfl, ht⟩ := List.map_eq_singleton_iff.1 hC
  obtain ⟨kind, text⟩ := Prod.mk.inj ht
  have last : startsWith .pipe [expressionClosing offset] = false := rfl
  refine ⟨t.span, whole, ok _ ?_⟩
  rw [expression, bound, Parse.expr, List.singleton_append, term_string kind, text, string_quoted]
  exact filters_eq_self rfl (by omega) _ last

theorem readsBack : ReadsBack s where
  token := run_quoted s
  read source t ht := by
    obtain ⟨kind, text⟩ := Prod.mk.inj ht
    exact readAs kind (text ▸ string_quoted s source t.span)
  printed e job data he hf hdata hroom := by
    obtain ⟨span, whole, compiled⟩ := exists_compile_quotedTag s he
    have written : e.defaultFormatter (.text s) = .written s := by
      rw [hf, Formatter.standard]
    refine ⟨span, whole, compiled, ?_⟩
    rw [template, Engine.render_literal e hdata hroom _ span whole written]
    exact ⟨rfl, String.empty_append⟩

/-- The expression of a literal on its own. -/
def expr (s : String) : Expr := .literal (.text s) ⟨0, Text.byteLength (quoted s).toList⟩

/-- A literal on its own is an expression. -/
theorem alone_quoted : Alone .standard (quoted s) expression (expr s) := by
  let whole : Span := ⟨0, Text.byteLength (quoted s).toList⟩
  have cut : Text.slice whole (quoted s) = some (quoted s) := by
    have middle := Text.sliceChars_append [] (quoted s).toList []
    simp only [List.nil_append, List.append_nil, Text.byteLength_nil, Nat.zero_add] at middle
    rw [Text.slice, middle, Option.map_some, String.ofList_toList]
  obtain ⟨beyond, lexed⟩ := lexRegion_eq_run (d := .standard) cut
  have read := run_quoted s (quoted s) beyond [] .block whole 0 false false 0
    (quoted s).toList.length
  rw [List.append_nil, run_of_nil (s := ⟨_, _, _, []⟩) rfl] at read
  rw [read] at lexed
  have last : startsWith .pipe [] = false := rfl
  refine ⟨_, lexed, rfl, ?_⟩
  show expression ⟨quoted s, none⟩ [Lexer.token .string 0 (quoted s).toList] = _
  rw [expression, bound, Parse.expr, term_string rfl, Lexer.token, String.ofList_toList,
    string_quoted, Nat.zero_add]
  exact filters_eq_self rfl (by omega) _ last

/-- Literals in a list are read as the texts, in each of the ways of a list. -/
theorem parses_quoted {r : Reader} {name : Ident} {o : Occurrence} {l : Listing} {ss : List String}
    (standard : r.language.delimiters = .standard) (ne : ss ≠ [])
    (fits : l.Fits .standard ss.length)
    (slice : Text.slice o.span r.source = some (l.text (ss.map quoted))) :
    l.Parses r name o (ss.map expr) := by
  have alone : List.Forall₂ (fun text x => Alone r.language.delimiters text expression x)
      (ss.map quoted) (ss.map expr) := by
    rw [standard, List.forall₂_map_left_iff, List.forall₂_map_right_iff]
    exact List.forall₂_same.2 fun s _ => alone_quoted s
  have apart : Expr.Separable (ss.map expr) := by
    intro x mem
    obtain ⟨s, -, rfl⟩ := List.mem_map.1 (List.dropLast_subset _ mem)
    rfl
  refine Listing.parses_of_separable (.inl standard) slice alone (by simpa using ne) ?_ apart
  rw [standard, List.length_map]
  exact fits

/-- All escapes of a string token stand for something, and it is the text that its characters stand
for. Or else it is an error, at the place of the first escape that stands for nothing. In no case
does a backslash stand alone at its end. -/
def Resolves (source : String) (t : Token) : Prop :=
  ∃ inner, t.text = String.ofList ('"' :: (inner ++ ['"'])) ∧
    (∀ good xs, Quotes good xs → inner ≠ good ++ ['\\']) ∧
    ((∃ xs, Quotes inner xs ∧ ReadAs source t (.ok (String.ofList xs))) ∨
      ∃ good xs c rest, inner = good ++ '\\' :: c :: rest ∧ Quotes good xs ∧ escaped c = none ∧
        Text.slice (escapePlace t.span.start good c) source = some (String.ofList ['\\', c]) ∧
        ReadAs source t (.error ⟨.invalidSource .unknownEscape,
          some ⟨source, escapePlace t.span.start good c⟩, none⟩))

theorem resolves_of_yields {d : Delimiters} {source : String} {t : Token}
    (yielded : Yields d source t) (kind : t.kind = .string) : Resolves source t := by
  obtain ⟨reads, inner, text, hinner⟩ := yielded.inner kind
  refine ⟨inner, text, ?_, ?_⟩
  · rintro good xs quotes rfl
    exact quotes.not_inner hinner
  rcases hinner.quotes_or with ⟨xs, quotes⟩ | ⟨good, xs, c, rest, rfl, quotes, bad⟩
  · exact .inl ⟨xs, quotes, readAs kind (string_of_quotes text quotes)⟩
  · have slice := slice_escapePlace reads text
    refine .inr ⟨good, xs, c, rest, rfl, quotes, bad, slice, readAs kind ?_⟩
    rw [string_of_escape text quotes bad, Error.syntaxAt, Error.locate,
      isEmpty_of_slice slice]
    rfl

/-- The literal of a text is one token, which is read as the text, and its tag prints the text.
Literals in the arguments of a directive, in lists and in maps are read as the texts as well.
Conversely, every string token of a source is a text, or an error at its first bad escape. -/
theorem readsBack_quoted :
    (∀ s, ReadsBack s) ∧
    (∀ (r : Reader) (name : Ident) (o : Occurrence) (l : Listing) (ss : List String),
      r.language.delimiters = .standard → ss ≠ [] → l.Fits .standard ss.length →
      Text.slice o.span r.source = some (l.text (ss.map quoted)) →
        l.Parses r name o (ss.map expr)) ∧
    ∀ (d : Delimiters) (source : String) (t : Token), Yields d source t → t.kind = .string →
      Resolves source t :=
  ⟨readsBack, fun _ _ _ _ _ standard ne fits slice => parses_quoted standard ne fits slice,
    fun _ _ _ => resolves_of_yields⟩

/-- A text with delimiters in it, and a token with a bad escape behind a character of two bytes. -/
theorem readsBack_quoted_delimiters :
    let source := "\x7b% d \"%\x7d\", \"\\\\\" %\x7d\x7b\x7b \"é\\q\" \x7d\x7d"
    let r : Reader := ⟨⟨source, none⟩, ⟨.standard, []⟩, ""⟩
    let t : Token := ⟨.string, ⟨21, 27⟩, "\"é\\q\""⟩
    (∃ u, (Engine.new .standard).compile (quotedTag "\x7d\x7d\n\"\\") = .ok u ∧
      ((Engine.new .standard).render u (.ofData .none)).body = "\x7d\x7d\n\"\\") ∧
    Listing.call.Parses r ⟨"d", ⟨3, 4⟩⟩ ⟨"\"%\x7d\", \"\\\\\"", ⟨5, 15⟩, ⟨"", 1, 6⟩⟩
      [expr "%\x7d", expr "\\"] ∧
    Yields .standard source t ∧ Resolves source t := by
  intro source r t
  obtain ⟨span, whole, compiled, -, printed⟩ := (readsBack_quoted.1 "\x7d\x7d\n\"\\").printed
    (.new .standard) (.ofData .none) .none rfl rfl rfl rfl
  have yielded : Yields .standard source t := .inl (by decide)
  refine ⟨⟨_, compiled, printed⟩, ?_, yielded, readsBack_quoted.2.2 .standard source t yielded rfl⟩
  exact readsBack_quoted.2.1 r _ _ .call ["%\x7d", "\\"] rfl (by simp) trivial (by decide)

end Literal

end Stencil
