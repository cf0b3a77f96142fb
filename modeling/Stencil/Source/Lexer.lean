import Stencil.Error
import Stencil.Source.Token
import Stencil.Text.Blank
import Stencil.Text.Identifier

/-!
# From source to tokens

The lexer is in one of three modes: in the text between tags, inside a tag, or inside a comment.
Each step takes at least one character off the source.

- `Lexer.Scan`: the mode, the place in the source and the text from there on.
- `Lexer.step`: the next tokens and what is left.
- `Lexed`: the tokens of a source, and the failure that ended them, if any.
- `lex`: the tokens of a whole source.
- `lexRegion`: the tokens of a region of a source, read as the inside of a block tag.

Specification: section E1; `Lexer.next`, `lex_template`, `lex_block` and `lex_comment`; the region
is that of `with_bounds`.
-/

namespace Stencil

namespace Lexer

/-! ## Modes -/

/-- Where the lexer is. -/
inductive Mode where
  /-- In the text between tags. -/
  | text
  /-- Inside a tag that began at `opening`; `depth` braces are open, and `path` says that a member
  access has just been read. -/
  | tag (kind : TagKind) (opening : Span) (depth : Nat) (path : Bool)
  /-- Inside a comment that began at `opening`. -/
  | comment (opening : Span)
deriving DecidableEq

/-- A state of the lexer: its mode, whether the next text loses its leading blanks, the offset
reached, and the text from there on. -/
structure Scan where
  mode : Mode
  trimsNext : Bool
  offset : Nat
  rest : List Char

/-- The result of a step: some tokens and the next state, or a failure. -/
inductive Step where
  | tokens (ts : List Token) (next : Scan)
  | failed (f : Failure)

/-! ## The inside of tags -/

/-- Blanks inside a tag. -/
def isSpace (c : Char) : Bool := c == '\t' || c == ' ' || c == '\r' || c == '\n'

/-- The characters of a number after its first digit. -/
def isNumberPart (c : Char) : Bool :=
  c.isAlphanum || c == '_' || c == '-' || c == '+' || c == '.'

/-- Tokens of one character. -/
def single? (c : Char) : Option TokenKind :=
  if c = '.' then some .dot
  else if c = '|' then some .pipe
  else if c = ',' then some .comma
  else if c = ':' then some .colon
  else if c = '=' then some .equals
  else if c = '+' then some .plus
  else if c = '-' then some .minus
  else if c = '[' then some .leftBracket
  else if c = ']' then some .rightBracket
  else if c = '\x7b' then some .leftBrace
  else if c = '\x7d' then some .rightBrace
  else none

/-- The characters of a string after its opening quote, up to and with its closing quote. Without
a closing quote on the line, the characters up to where the line ends. -/
def stringBody : Bool → List Char → Except (List Char) (List Char)
  | _, [] => .error []
  | escaped, c :: cs =>
    if c = '\r' ∨ c = '\n' then .error []
    else if c = '"' ∧ escaped = false then .ok [c]
    else match stringBody (c = '\\' ∧ escaped = false) cs with
      | .ok body => .ok (c :: body)
      | .error body => .error (c :: body)

/-- The kind and the characters of the token at the start of a text inside a tag, or a fault with
the characters that it concerns. -/
def lexeme (path : Bool) : List Char → Except (SyntaxFault × List Char) (TokenKind × List Char)
  | [] => .error (.unexpectedCharacter, [])
  | c :: cs =>
    match single? c with
    | some kind => .ok (kind, [c])
    | none =>
      if c = '?' then
        match cs with
        | '.' :: _ => .ok (.questionDot, ['?', '.'])
        | d :: _ => .error (.unexpectedCharacter, [c, d])
        | [] => .error (.unexpectedCharacter, [c])
      else if c = '"' then
        match stringBody false cs with
        | .ok body => .ok (.string, c :: body)
        | .error body => .error (.undelimitedString, c :: body)
      else if c.isDigit && path then .ok (.index, c :: cs.takeWhile Char.isDigit)
      else if c.isDigit then .ok (.number, c :: cs.takeWhile isNumberPart)
      else if isSpace c then .ok (.whitespace, c :: cs.takeWhile isSpace)
      else if Text.isIdentifierStart c then
        let name := c :: cs.takeWhile Text.isIdentifierPart
        if (Keyword.ofString? (String.ofList name)).isSome then .ok (.keyword, name)
        else .ok (.identifier, name)
      else .error (.unexpectedCharacter, [c])

/-- The number of open braces after a token. -/
def depthAfter (depth : Nat) : TokenKind → Nat
  | .leftBrace => depth + 1
  | .rightBrace => depth - 1
  | _ => depth

/-- Whether a token leaves the lexer behind a member access. -/
def pathAfter (path : Bool) : TokenKind → Bool
  | .dot => true
  | .questionDot => true
  | .whitespace => path
  | _ => false

/-! ## Steps -/

/-- A token of some characters at an offset. -/
def token (kind : TokenKind) (offset : Nat) (cs : List Char) : Token :=
  ⟨kind, ⟨offset, offset + Text.byteLength cs⟩, String.ofList cs⟩

/-- A failed step with a fault at a place. -/
def fault (source : String) (f : SyntaxFault) (span : Span) : Step :=
  .failed (.error (Error.syntaxAt f source span))

/-- The mode inside a tag whose opening delimiter has just been read. -/
def Mode.inside (kind : TagKind) (opening : Span) : Mode :=
  match kind with
  | .comment => .comment opening
  | kind => .tag kind opening 0 false

/-- The text of the source between two offsets as a raw token, without its trailing blanks if the
tag behind it trims, and without its leading blanks if the tag before it trims. The trailing blanks
are those of the whole source up to the tag, so the token may end before it starts; it has no text
then, and no leading blanks can be removed. -/
def rawToken (source : String) (start stop : Nat) (trimsEnd trimsStart : Bool) : Option Token := do
  let stop' ←
    if trimsEnd then
      (Text.takeBytes stop source.toList).map fun before => Text.byteLength (Text.trimEnd before)
    else some stop
  if trimsStart then
    let cs ← Text.sliceChars ⟨start, stop'⟩ source.toList
    let kept := Text.trimStart cs
    some ⟨.raw, ⟨stop' - Text.byteLength kept, stop'⟩, String.ofList kept⟩
  else some ⟨.raw, ⟨start, stop'⟩, (Text.slice ⟨start, stop'⟩ source).getD ""⟩

/-- A step in the text between tags: the text up to the next tag and the opening delimiter of that
tag. -/
def stepText (d : Delimiters) (source : String) (s : Scan) : Step :=
  match d.find s.rest with
  | none =>
    let stop := s.offset + Text.byteLength s.rest
    match rawToken source s.offset stop false s.trimsNext with
    | none => .failed .broken
    | some t => .tokens [t] ⟨.text, false, stop, []⟩
  | some (before, (marker, form), rest) =>
    let start := s.offset + Text.byteLength before
    let stop := start + Text.byteLength form
    let span : Span := ⟨start, stop⟩
    if marker.isOpening then
      let tag : Token := ⟨.opening marker.kind, span, String.ofList form⟩
      let mode := Mode.inside marker.kind span
      let left := rest.drop form.length
      if before.isEmpty then .tokens [tag] ⟨mode, s.trimsNext, stop, left⟩
      else match rawToken source s.offset start marker.trims s.trimsNext with
        | none => .failed .broken
        | some t => .tokens [t, tag] ⟨mode, false, stop, left⟩
    else fault source (.unexpectedTag (.closing marker.kind)) span

/-- A step inside a tag: its closing delimiter, or one token. The delimiters are looked for in the
whole source, so `beyond` is the text behind the region that is read. A closing brace that matches
an open one is no delimiter. -/
def stepTag (d : Delimiters) (source : String) (beyond : List Char) (s : Scan) (kind : TagKind)
    (opening : Span) (depth : Nat) (path : Bool) : Step :=
  let closesBrace := 0 < depth && s.rest.head? == some '\x7d'
  match if closesBrace then none else d.match? (s.rest ++ beyond) with
  | some (marker, form) =>
    let span : Span := ⟨s.offset, s.offset + Text.byteLength form⟩
    if marker.isOpening then fault source (.unclosedTag kind) opening
    else if marker.kind = kind then
      .tokens [⟨.closing kind, span, String.ofList form⟩]
        ⟨.text, marker.trims, span.stop, s.rest.drop form.length⟩
    else fault source (.unexpectedTag (.closing marker.kind)) span
  | none =>
    match lexeme path s.rest with
    | .error (f, cs) => fault source f ⟨s.offset, s.offset + Text.byteLength cs⟩
    | .ok (k, cs) =>
      let t := token k s.offset cs
      .tokens [t] ⟨.tag kind opening (depthAfter depth k) (pathAfter path k), s.trimsNext,
        t.span.stop, s.rest.drop cs.length⟩

/-- A step inside a comment: the text up to the closing delimiter, and that delimiter. -/
def stepComment (d : Delimiters) (source : String) (s : Scan) (opening : Span) : Step :=
  match d.find s.rest with
  | none =>
    let t := token .raw s.offset s.rest
    .tokens [t] ⟨.comment opening, s.trimsNext, t.span.stop, []⟩
  | some (before, (marker, form), rest) =>
    let start := s.offset + Text.byteLength before
    let span : Span := ⟨start, start + Text.byteLength form⟩
    if marker.isOpening then fault source (.unclosedTag .comment) opening
    else if marker.kind = .comment then
      let tag : Token := ⟨.closing .comment, span, String.ofList form⟩
      let next : Scan := ⟨.text, marker.trims, span.stop, rest.drop form.length⟩
      if before.isEmpty then .tokens [tag] next
      else .tokens [token .raw s.offset before, tag] next
    else fault source (.unexpectedTag (.closing marker.kind)) span

/-- A step in the mode of the lexer. -/
def step (d : Delimiters) (source : String) (beyond : List Char) (s : Scan) : Step :=
  match s.mode with
  | .text => stepText d source s
  | .tag kind opening depth path => stepTag d source beyond s kind opening depth path
  | .comment opening => stepComment d source s opening

end Lexer

/-! ## Whole sources -/

/-- The tokens of a source in order, and the failure that ended them before the end, if any. -/
structure Lexed where
  tokens : List Token
  failure : Option Failure

namespace Lexer

/-- The tokens from a state on. The first argument bounds the number of steps. -/
def run (d : Delimiters) (source : String) (beyond : List Char) : Nat → Scan → Lexed
  | 0, _ => ⟨[], none⟩
  | n + 1, s =>
    if s.rest.isEmpty then ⟨[], none⟩
    else match step d source beyond s with
      | .failed f => ⟨[], some f⟩
      | .tokens ts next =>
        let l := run d source beyond n next
        ⟨ts ++ l.tokens, l.failure⟩

end Lexer

/-- The tokens of a source, blanks inside tags included. Every step takes a character, so there are
no more steps than characters. -/
def lex (d : Delimiters) (source : String) : Lexed :=
  let cs := source.toList
  Lexer.run d source [] (cs.length + 1) ⟨.text, false, 0, cs⟩

/-- The tokens of a region of a source, read as the inside of a block tag. -/
def lexRegion (d : Delimiters) (source : String) (region : Span) : Option Lexed := do
  let cs ← Text.sliceChars region source.toList
  let beyond ← Text.dropBytes region.stop source.toList
  some (Lexer.run d source beyond (cs.length + 1)
    ⟨.tag .block region 0 false, false, region.start, cs⟩)

/-- The tokens without the blanks inside tags. -/
def Lexed.significant (l : Lexed) : List Token := l.tokens.filter fun t => t.kind != .whitespace

end Stencil
