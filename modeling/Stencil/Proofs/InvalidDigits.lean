import Stencil.Proofs.TemplateFaults

/-!
# Places of invalid digits

A number may have a sign in front of it, and blanks between the two. If one of its characters is no
digit of its radix, the place of the first such character is reported. It is counted from where the
number begins with its sign, but without the sign and the blanks. So it is right for numbers without
a sign. For all others it lies in front of the character, by as many bytes as the sign and the
blanks have.

- `SourceNumber`: a number in a source, with its sign.
- `SourceNumber.term_tokens`: what is read from the tokens of a number.
- `SourceNumber.exists_of_mem`, `SourceNumber.exists_of_near`: the numbers that tokens stand for.
- `SourceNumber.place`, `SourceNumber.reported`: where a character is, and where it is reported.
- `Template.invalidDigit_place`: the errors in numbers, and those of templates that have them.
- `Template.not_reported_signed`: a number with a sign for which the place is not the one reported.
-/

namespace Stencil

open Text (byteLength)
open Literal (Sign InvalidDigit)

/-! ## Faults -/

namespace Error

variable {source : String} {span : Span} {fault fault' : SyntaxFault}

theorem fault_of_cause (h : (syntaxAt fault source span).cause = .invalidSource fault') :
    fault = fault' := by
  rw [syntaxAt, cause_locate] at h
  cases h
  rfl

/-- A fault in a source that has some text is placed in it. -/
theorem syntaxAt_eq (nonempty : source.toList ≠ []) :
    syntaxAt fault source span = ⟨.invalidSource fault, some ⟨source, span⟩, none⟩ := by
  have full : source.isEmpty = false := by
    by_contra empty
    obtain rfl := String.isEmpty_iff.1 (by simpa using empty)
    exact nonempty rfl
  rw [syntaxAt, locate, if_pos (by simp [ofCause, full])]
  rfl

end Error

/-! ## Numbers in a source -/

/-- The token of a sign at an offset. -/
def Literal.Sign.tokens (offset : Nat) : Sign → List Token
  | .none => []
  | .plus => [Lexer.token .plus offset ['+']]
  | .minus => [Lexer.token .minus offset ['-']]

/-- A number in a source, with the sign in front of it and the blanks between the two. Its tokens
stand next to each other among those of the source. -/
structure SourceNumber (d : Delimiters) (source : String) where
  before : List Char
  sign : Sign
  gap : List Char
  text : List Char
  after : List Char
  whole : source.toList = before ++ (sign.chars ++ gap ++ (text ++ after))
  blank : ∀ c ∈ gap, Lexer.isSpace c
  apart : sign = .none → gap = []
  stands : sign.tokens (byteLength before) ++
    [Lexer.token .number (byteLength (before ++ (sign.chars ++ gap))) text] <:+:
      (lex d source).significant

namespace SourceNumber

variable {d : Delimiters} {source : String}

section

variable (x : SourceNumber d source)

/-- What stands in front of the number. -/
def lead : List Char := x.sign.chars ++ x.gap

/-- The place of the number with its sign. -/
def span : Span := ⟨byteLength x.before, byteLength (x.before ++ (x.lead ++ x.text))⟩

/-- The token of the number without its sign. -/
def number : Token := Lexer.token .number (byteLength (x.before ++ x.lead)) x.text

/-- The tokens of the number with its sign. -/
def tokens : List Token := x.sign.tokens (byteLength x.before) ++ [x.number]

/-- The value of the number, or the error in it. -/
def read : Except Error Value := Literal.number source x.text x.span x.sign.isNegative

theorem lead_of_unsigned (h : x.sign = .none) : x.lead = [] := by
  rw [lead, h, x.apart h]
  rfl

theorem lead_ne_nil (h : x.sign ≠ .none) : x.lead ≠ [] := by
  rw [lead]
  cases sign : x.sign with
  | none => exact absurd sign h
  | plus => exact List.cons_ne_nil _ _
  | minus => exact List.cons_ne_nil _ _

/-- The place of a number is that of its sign and its token together. -/
theorem join_eq {u : Token} (sign : x.sign.tokens (byteLength x.before) = [u]) :
    u.span.join x.number.span = x.span := by
  have one : u.span = ⟨byteLength x.before, byteLength x.before + 1⟩ ∧ 1 ≤ byteLength x.lead := by
    rw [lead, Text.byteLength_append]
    cases kind : x.sign with
    | none =>
      rw [kind] at sign
      cases sign
    | _ =>
      rw [kind] at sign
      cases sign
      exact ⟨rfl, Nat.le_add_right 1 _⟩
  obtain ⟨first, wide⟩ := one
  simp only [Span.join, first, number, Lexer.token, span, Text.byteLength_append, Span.mk.injEq]
  omega

/-- What is read from the tokens of a number. -/
theorem term_tokens (failure : Option Failure) (n : Nat) (R : List Token) :
    Parse.term ⟨source, failure⟩ (n + 1) (x.tokens ++ R) =
      (Parse.lift x.read).map fun v => (.literal v x.span, R) := by
  have text : x.number.text.toList = x.text := String.toList_ofList
  rw [tokens, read]
  cases sign : x.sign with
  | none =>
    have place : x.number.span = x.span := by
      rw [number, span, x.lead_of_unsigned sign, List.append_nil, List.nil_append,
        Text.byteLength_append]
      rfl
    have read := @NumberLiteral.term_number ⟨source, failure⟩ x.number n rfl R
    rwa [text, place] at read
  | plus =>
    have place := x.join_eq (congrArg (Sign.tokens (byteLength x.before)) sign)
    have read := @NumberLiteral.term_signed ⟨source, failure⟩
      (Lexer.token .plus (byteLength x.before) ['+']) x.number false n rfl rfl R
    rwa [text, place] at read
  | minus =>
    have place := x.join_eq (congrArg (Sign.tokens (byteLength x.before)) sign)
    have read := @NumberLiteral.term_signed ⟨source, failure⟩
      (Lexer.token .minus (byteLength x.before) ['-']) x.number true n rfl rfl R
    rwa [text, place] at read

/-- Numbers have characters of one byte each. -/
theorem narrow : ∀ c ∈ x.text, c.utf8Size = 1 := by
  have mem : x.number ∈ (lex d source).significant := x.stands.subset (by simp [number, lead])
  obtain ⟨path, cs, word, read, text⟩ :=
    Lexer.exists_read_of_run (List.mem_of_mem_filter mem) rfl
  obtain rfl : x.text = word := String.ofList_injective text
  exact Lexer.narrow_of_lexeme read (.inl rfl)

end

/-! ## Tokens of numbers -/

/-- A token of a number stands for that number. -/
theorem exists_of_mem {t : Token} (mem : t ∈ (lex d source).significant) (kind : t.kind = .number) :
    ∃ x : SourceNumber d source, x.sign = .none ∧ x.text = t.text.toList ∧ x.span = t.span := by
  obtain ⟨before, after, split⟩ := List.append_of_mem (List.mem_of_mem_filter mem)
  have start : source.toList = [] ++ source.toList := rfl
  obtain ⟨upTo, word, rest, path, -, -, -, -, -, whole, eq, -, -⟩ :=
    Lexer.exists_word_of_run split (by rw [kind]; rfl) start rfl
  rw [kind] at eq
  subst eq
  let x : SourceNumber d source :=
    { before := upTo, sign := .none, gap := [], text := word, after := rest, whole
      blank := nofun
      apart := fun _ => rfl
      stands := by
        obtain ⟨front, rear, split⟩ := List.append_of_mem mem
        refine ⟨front, rear, ?_⟩
        rw [split]
        simp [Sign.tokens, Sign.chars] }
  refine ⟨x, rfl, String.toList_ofList.symm, ?_⟩
  rw [span, lead, Text.byteLength_append]
  rfl

/-- The token of a sign stands for that sign. -/
theorem exists_sign {t : Token} {negative path : Bool} {offset : Nat} {cs word : List Char}
    (hsign : t.kind = if negative then .minus else .plus)
    (read : Lexer.lexeme path cs = .ok (t.kind, word))
    (place : t = Lexer.token t.kind offset word) :
    ∃ sign : Sign, sign.isNegative = negative ∧ sign.chars = word ∧ sign.tokens offset = [t] := by
  have signs : ∀ m ∈ Lexer.marks, (m.2 = .plus → m.1 = '+') ∧ (m.2 = .minus → m.1 = '-') := by
    decide
  rw [hsign] at read place
  obtain ⟨c, rfl, mem⟩ :
      ∃ c, word = [c] ∧ (c, if negative then .minus else .plus) ∈ Lexer.marks := by
    generalize same : (if negative then TokenKind.minus else .plus) = kind at read
    cases Lexer.firstToken_of_lexeme read with
    | mark mark => exact ⟨_, rfl, Lexer.mem_marks_of_single? mark⟩
    | name =>
      cases negative with
      | true => exact absurd same.symm (Lexer.nameKind_ne (by decide) (by decide) _)
      | false => exact absurd same.symm (Lexer.nameKind_ne (by decide) (by decide) _)
    | _ => cases negative <;> cases same
  cases negative with
  | true =>
    obtain rfl : c = '-' := (signs _ mem).2 rfl
    exact ⟨.minus, rfl, rfl, congrArg (fun u => [u]) place.symm⟩
  | false =>
    obtain rfl : c = '+' := (signs _ mem).1 rfl
    exact ⟨.plus, rfl, rfl, congrArg (fun u => [u]) place.symm⟩

/-- The tokens of a sign and of a number behind it stand for the number with its sign. -/
theorem exists_of_near {sign t : Token} {negative : Bool}
    (near : [sign, t] <:+: (lex d source).significant)
    (hsign : sign.kind = if negative then .minus else .plus) (kind : t.kind = .number) :
    ∃ x : SourceNumber d source, x.sign.isNegative = negative ∧ x.text = t.text.toList ∧
      x.span = sign.span.join t.span := by
  obtain ⟨before, blanks, after, split, blank⟩ := Token.exists_append_of_pair near
  have inner : sign.kind.isInner := by
    rw [hsign]
    cases negative <;> rfl
  have start : source.toList = [] ++ source.toList := rfl
  obtain ⟨upTo, word, rest, path, m, tag, opening, depth, trims, whole, first, read, behind⟩ :=
    Lexer.exists_word_of_run split inner start rfl
  obtain ⟨gap, word', after, path', rfl, spaces, second, -⟩ :=
    Lexer.exists_word_of_blanks behind blank (by rw [kind]; rfl)
  obtain ⟨sign', negative', rfl, tokens⟩ := exists_sign hsign read first
  rw [kind, ← Text.byteLength_append, List.append_assoc] at second
  let x : SourceNumber d source :=
    { before := upTo, sign := sign', gap, text := word', after
      whole := by rw [whole, List.append_assoc]
      blank := spaces
      apart := by
        rintro rfl
        cases tokens
      stands := by
        rw [tokens, ← second]
        exact near }
  refine ⟨x, negative', ?_, ?_⟩
  · rw [second]
    exact String.toList_ofList.symm
  · rw [second]
    exact (x.join_eq tokens).symm

/-! ## Invalid digits -/

section

variable (x : SourceNumber d source) (bad : InvalidDigit x.text)

/-- The place of the first character that is no digit. -/
def place : Span :=
  let m := byteLength (x.before ++ (x.lead ++ bad.upTo))
  ⟨m, m + 1⟩

/-- The place that is reported for it: where it would be without the sign and the blanks. -/
def reported : Span :=
  let m := byteLength (x.before ++ bad.upTo)
  ⟨m, m + 1⟩

/-- The character is what stands at its place. -/
theorem slice_place : Text.slice (x.place bad) source = some (String.ofList [bad.char]) := by
  have split : source.toList =
      x.before ++ (x.lead ++ bad.upTo) ++ [bad.char] ++ (bad.rest ++ x.after) := by
    rw [x.whole, lead]
    nth_rewrite 1 [bad.whole_eq]
    simp
  have one : byteLength [bad.char] = 1 := by
    rw [Text.byteLength_cons, x.narrow bad.char (bad.mem_text (by simp))]
    rfl
  have cut := Text.sliceChars_append (x.before ++ (x.lead ++ bad.upTo)) [bad.char]
    (bad.rest ++ x.after)
  rw [one] at cut
  rw [Text.slice, split, place, cut]
  rfl

theorem reported_start : (x.reported bad).start + byteLength x.lead = (x.place bad).start := by
  simp only [reported, place, Text.byteLength_append]
  omega

/-- Just for numbers without a sign the place is the right one. -/
theorem reported_eq_place_iff : x.reported bad = x.place bad ↔ x.sign = .none := by
  constructor
  · intro same
    by_contra signed
    have wide := Text.byteLength_pos (x.lead_ne_nil signed)
    have start := x.reported_start bad
    rw [same] at start
    omega
  · intro unsigned
    rw [reported, place, x.lead_of_unsigned unsigned, List.nil_append]

end

theorem toList_ne_nil (x : SourceNumber d source) (bad : InvalidDigit x.text) :
    source.toList ≠ [] := by
  have some : x.text ≠ [] := List.ne_nil_of_mem (bad.mem_text (c := bad.char) (by simp))
  rw [x.whole]
  simp [some]

/-- An error in a number for an invalid digit is one for the first character that is no digit. -/
theorem exists_invalidDigit (x : SourceNumber d source) {base : Nat} {err : Error}
    (failed : x.read = .error err) (cause : err.cause = .invalidSource (.invalidDigit base)) :
    ∃ bad : InvalidDigit x.text, bad.radix.base = base ∧
      err = ⟨.invalidSource (.invalidDigit base), some ⟨source, x.reported bad⟩, none⟩ := by
  rcases Literal.eq_or_of_number failed with rfl | whole
  · cases Error.fault_of_cause cause
  rcases Literal.exists_of_integer whole with ⟨bad, rfl⟩ | ⟨base', rfl⟩
  · cases Error.fault_of_cause cause
    refine ⟨bad, rfl, ?_⟩
    have narrow : byteLength bad.upTo = bad.position :=
      Text.byteLength_of_narrow fun c mem => x.narrow c (bad.mem_text (by simp [mem]))
    rw [reported, Text.byteLength_append, narrow, Error.syntaxAt_eq (x.toList_ne_nil bad),
      Nat.add_assoc]
    rfl
  · cases Error.fault_of_cause cause

/-- The place of the character, from the one that is reported. -/
theorem place_of_read (x : SourceNumber d source) {base m n : Nat}
    (failed : x.read =
      .error ⟨.invalidSource (.invalidDigit base), some ⟨source, ⟨m, n⟩⟩, none⟩)
    (bad : InvalidDigit x.text) :
    x.place bad = ⟨m + byteLength x.lead, m + byteLength x.lead + 1⟩ := by
  obtain ⟨found, -, same⟩ := x.exists_invalidDigit failed rfl
  obtain rfl : found = bad := Subsingleton.elim found bad
  have reported : x.reported found = ⟨m, n⟩ := by
    injection same with _ excerpt
    injection excerpt with excerpt
    injection excerpt with _ span
    exact span.symm
  have start : (x.place found).start = m + byteLength x.lead := by
    rw [← x.reported_start found, reported]
  show (⟨(x.place found).start, (x.place found).start + 1⟩ : Span) = _
  rw [start]

/-- Tokens are blamed for an invalid digit just if a number among them has one. -/
theorem exists_read {ts : List Token} {base : Nat} {err : Error}
    (part : ts <:+: (lex d source).significant)
    (blamed : Parse.Blamed ⟨source, none⟩ ts (.error err))
    (cause : err.cause = .invalidSource (.invalidDigit base)) :
    ∃ x : SourceNumber d source, x.read = .error err := by
  cases blamed with
  | lexer failed => cases failed
  | atEnd wanted => cases Error.fault_of_cause cause
  | token mem concerns =>
    have fine (kind : TokenKind) : ¬ SyntaxFault.Concerns kind (.invalidDigit base) := nofun
    cases Error.fault_of_cause cause
    exact absurd concerns (fine _)
  | string mem kind failed =>
    unfold Literal.string at failed
    split at failed
    · cases failed
    · split at failed
      · cases failed
      · cases failed
        cases Error.fault_of_cause cause
  | number mem kind failed =>
    obtain ⟨x, sign, text, span⟩ := exists_of_mem (part.subset mem) kind
    refine ⟨x, ?_⟩
    rw [read, sign, text, span]
    exact failed
  | signed near hsign kind failed =>
    obtain ⟨x, negative, text, span⟩ := exists_of_near (near.trans part) hsign kind
    refine ⟨x, ?_⟩
    rw [read, negative, text, span]
    exact failed

/-- A source that begins with the tag of a number is not compiled if the number cannot be read. -/
theorem compile_of_read {l : Language} {name : Option String} {t : Token} {R : List Token}
    {err : Error} (x : SourceNumber l.delimiters source)
    (stands : (lex l.delimiters source).significant = t :: (x.tokens ++ R))
    (opens : t.kind = .opening .expression) (failed : x.read = .error err) :
    Template.compile l name source = .error (.error (err.inTemplate name)) := by
  let r := Parse.readerOf l name source
  have first (n : Nat) :
      Parse.term r.toSurroundings (n + 1) (x.tokens ++ R) = .error (.error err) := by
    have read := x.term_tokens r.failure n R
    rw [failed] at read
    exact read
  have fails : Parse.expression r.toSurroundings (x.tokens ++ R) = .error (.error err) := by
    rw [Parse.expression, Parse.bound, Parse.expr, first]
    rfl
  have begins : Parse.Reached r .empty (t :: (x.tokens ++ R)) := by
    rw [← stands]
    exact .start
  refine Parse.compile_of_statement (f := .error err) begins ?_
  rw [Parse.statement_eq, Parse.markup, opens]
  show (Parse.expression r.toSurroundings _ >>= _) >>= _ = _
  rw [fails]
  rfl

end SourceNumber

namespace Template

/-- The tokens of a number are read as the number. If this fails for an invalid digit, the error is
for the first character that is neither a digit of the radix nor an underscore, which is one byte.
The reported place is that of this character for a number without a sign. With a sign it lies in
front of the character, by as many bytes as the sign and the blanks behind it have. A source that is
not compiled for an invalid digit has such a number, unless a directive reports an error of this
kind. -/
theorem invalidDigit_place (l : Language) (name : Option String) (source : String) :
    (∀ (x : SourceNumber l.delimiters source) failure n R,
      Parse.term ⟨source, failure⟩ (n + 1) (x.tokens ++ R) =
        (Parse.lift x.read).map fun v => (.literal v x.span, R)) ∧
    (∀ (x : SourceNumber l.delimiters source) base err, x.read = .error err →
      err.cause = .invalidSource (.invalidDigit base) →
      ∃ bad : InvalidDigit x.text, bad.radix.base = base ∧
        Text.slice (x.place bad) source = some (String.ofList [bad.char]) ∧
        err = ⟨.invalidSource (.invalidDigit base), some ⟨source, x.reported bad⟩, none⟩ ∧
        (x.reported bad).start + byteLength x.lead = (x.place bad).start ∧
        (x.reported bad = x.place bad ↔ x.sign = .none)) ∧
    ∀ base err, compile l name source = .error (.error err) →
      err.cause = .invalidSource (.invalidDigit base) →
      (∃ e, l.Reports e ∧ e.cause = err.cause) ∨
        ∃ (x : SourceNumber l.delimiters source) (e : Error),
          x.read = .error e ∧ err = e.inTemplate name := by
  refine ⟨fun x => x.term_tokens, fun x base err failed cause => ?_,
    fun base err failed cause => ?_⟩
  · obtain ⟨bad, radix, rfl⟩ := x.exists_invalidDigit failed cause
    exact ⟨bad, radix, x.slice_place bad, rfl, x.reported_start bad, x.reported_eq_place_iff bad⟩
  · unfold compile at failed
    split at failed
    · cases failed
    · next f rejected =>
      cases f with
      | broken => cases failed
      | error e =>
        cases failed
        rw [Error.cause_inTemplate] at cause ⊢
        cases Parse.rejects_template l name source _ rejected with
        | lexer refused =>
          cases refused with
          | fault span kind =>
            cases Error.fault_of_cause cause
            cases kind
        | tag span kind =>
          cases Error.fault_of_cause cause
          cases kind
        | tokens part blamed =>
          obtain ⟨x, read⟩ := SourceNumber.exists_read part blamed cause
          exact .inr ⟨x, e, read, rfl⟩
        | reported span reports => exact .inl ⟨_, reports, (Error.cause_locate _ _ _).symm⟩

/-- A number of radix two with a sign and a blank behind it, in which the last character is no
digit. -/
def signedNumber : SourceNumber .standard "\x7b\x7b - 0b1_2 \x7d\x7d" where
  before := "\x7b\x7b ".toList
  sign := .minus
  gap := " ".toList
  text := "0b1_2".toList
  after := " \x7d\x7d".toList
  whole := rfl
  blank := List.forall_mem_singleton.2 rfl
  apart := nofun
  stands := ⟨[⟨.opening .expression, ⟨0, 2⟩, "\x7b\x7b"⟩],
    [⟨.closing .expression, ⟨11, 13⟩, "\x7d\x7d"⟩], rfl⟩

/-- The sign and the blank behind it are two bytes. -/
theorem invalidDigit_place_blank :
    let source := "\x7b\x7b - 0b1_2 \x7d\x7d"
    let l := (Engine.new .standard).language
    let err : Error := ⟨.invalidSource (.invalidDigit 2), some ⟨source, ⟨7, 8⟩⟩, none⟩
    compile l none source = .error (.error err) ∧
      (∃ x : SourceNumber .standard source, x.read = .error err) ∧
      signedNumber.read = .error err ∧ ∃ bad : InvalidDigit signedNumber.text,
        signedNumber.place bad = ⟨9, 10⟩ ∧ Text.slice ⟨9, 10⟩ source = some "2" := by
  intro source l err
  obtain ⟨-, located, rejected⟩ := invalidDigit_place l none source
  have read : signedNumber.read = .error err := rfl
  have compiled : compile l none source = .error (.error err) :=
    @SourceNumber.compile_of_read source l none ⟨.opening .expression, ⟨0, 2⟩, "\x7b\x7b"⟩
      [⟨.closing .expression, ⟨11, 13⟩, "\x7d\x7d"⟩] err signedNumber (by decide) rfl read
  obtain ⟨bad, -⟩ := located signedNumber 2 err read rfl
  have place : signedNumber.place bad = ⟨9, 10⟩ := signedNumber.place_of_read read bad
  refine ⟨compiled, ?_, read, bad, place, by decide⟩
  rcases rejected 2 err compiled rfl with ⟨e, reports, -⟩ | ⟨x, e, failed, rfl⟩
  · exact absurd reports (Engine.not_reports_new _ _)
  · exact ⟨x, failed⟩

/-- A number of radix two with a sign right in front of it, in which the last character is no
digit. -/
def adjacentNumber : SourceNumber .standard "\x7b\x7b -0b102 \x7d\x7d" where
  before := "\x7b\x7b ".toList
  sign := .minus
  gap := "".toList
  text := "0b102".toList
  after := " \x7d\x7d".toList
  whole := rfl
  blank := nofun
  apart := nofun
  stands := ⟨[⟨.opening .expression, ⟨0, 2⟩, "\x7b\x7b"⟩],
    [⟨.closing .expression, ⟨10, 12⟩, "\x7d\x7d"⟩], rfl⟩

/-- The digit in front of the one that is invalid is reported. -/
theorem not_reported_signed :
    let source := "\x7b\x7b -0b102 \x7d\x7d"
    let err : Error := ⟨.invalidSource (.invalidDigit 2), some ⟨source, ⟨7, 8⟩⟩, none⟩
    compile (Engine.new .standard).language none source = .error (.error err) ∧
      adjacentNumber.read = .error err ∧ Nonempty (InvalidDigit adjacentNumber.text) ∧
      (∀ bad : InvalidDigit adjacentNumber.text, adjacentNumber.place bad = ⟨8, 9⟩) ∧
      Text.slice ⟨7, 8⟩ source = some "0" ∧ Text.slice ⟨8, 9⟩ source = some "2" := by
  intro source err
  have read : adjacentNumber.read = .error err := rfl
  have compiled := @SourceNumber.compile_of_read source (Engine.new .standard).language none
    ⟨.opening .expression, ⟨0, 2⟩, "\x7b\x7b"⟩ [⟨.closing .expression, ⟨10, 12⟩, "\x7d\x7d"⟩] err
    adjacentNumber (by decide) rfl read
  obtain ⟨bad, -⟩ := adjacentNumber.exists_invalidDigit read rfl
  exact ⟨compiled, read, ⟨bad⟩, adjacentNumber.place_of_read read, by decide, by decide⟩

end Template

end Stencil
