import Stencil.Markdown.Emphasis
import Stencil.Markdown.Library
import Stencil.Markdown.Reference
import Stencil.Markdown.Tag

/-!
# Inline elements of a text

- `Code.read?`: code between backticks.
- `Autolink.uri?`, `Autolink.mail?`: addresses in angle brackets.
- `References`: the targets and footnotes that a text may refer to.
- `References.follow?`: what a closing bracket ends.
- `Inline.ofText`: the inline elements of a text.
-/

namespace Stencil.Markdown

/-! ## Code -/

namespace Code

/-- The text up to a row of so many backticks, and what follows. The first argument bounds the
number of rows. -/
def upTo? : Nat → Nat → List Char → Option (List Char × List Char)
  | 0, _, _ => none
  | fuel + 1, n, cs =>
    let text := cs.takeWhile (· != '`')
    match cs.dropWhile (· != '`') with
    | [] => none
    | rest =>
      let (m, after) := takeRun '`' rest
      if m = n then some (text, after)
      else (upTo? fuel n after).map fun r => (text ++ List.replicate m '`' ++ r.1, r.2)

/-- The code of a text between backticks. Line ends are spaces, and one space at each end does not
belong to the code unless there is nothing else. -/
def content (cs : List Char) : List Char :=
  let isEdge (c : Char) := c == ' ' || c == '\n'
  let inner :=
    if cs.any (· != ' ') && cs.head?.any isEdge && cs.getLast?.any isEdge then
      (cs.drop 1).dropLast
    else cs
  inner.map fun c => if c = '\n' then ' ' else c

/-- The code at the start of a text behind so many backticks, and what follows. -/
def read? (n : Nat) (cs : List Char) : Option (List Char × List Char) :=
  (upTo? (cs.length + 1) n cs).map fun r => (content r.1, r.2)

end Code

/-! ## Addresses in angle brackets -/

namespace Autolink

/-- An address with a scheme of 2 to 32 characters, behind its `<`, and what follows its `>`. -/
def uri? (cs : List Char) : Option (List Char × List Char) :=
  let name := cs.takeWhile inScheme
  match cs.dropWhile inScheme with
  | ':' :: rest =>
    let body := rest.takeWhile fun c => 0x20 < c.toNat && c != '<' && c != '>'
    match rest.drop body.length with
    | '>' :: after =>
      if name.head?.any isLetter && 2 ≤ name.length && name.length ≤ 32 then
        some (name ++ ':' :: body, after)
      else none
    | _ => none
  | _ => none

/-- An electronic mail address behind its `<`, and what follows its `>`. -/
def mail? (cs : List Char) : Option (List Char × List Char) :=
  let mailbox := cs.takeWhile inMailbox
  match cs.dropWhile inMailbox with
  | '@' :: rest =>
    let domain := rest.takeWhile fun c => isAlphanumeric c || c == '-' || c == '.'
    match rest.drop domain.length with
    | '>' :: after =>
      if !mailbox.isEmpty && (domain.splitOn '.').all isDomainPart then
        some (mailbox ++ '@' :: domain, after)
      else none
    | _ => none
  | _ => none

end Autolink

/-! ## Brackets -/

/-- What a text may refer to. -/
structure References where
  extensions : Extensions
  /-- The targets with what their labels are compared by. The first one with a label counts. -/
  targets : List (String × Target)
  /-- What the labels of the footnotes are compared by. -/
  footnotes : List String

/-- What brackets refer to, and how. -/
inductive Referent where
  | target (kind : LinkKind) (t : Target)
  | footnote (label : List Char)

namespace References

/-- The references to some definitions and footnotes. -/
def of (extensions : Extensions) (definitions : List Definition) (footnotes : List (List Char)) :
    References :=
  ⟨extensions, definitions.map fun d => (Label.key d.label, d.target), footnotes.map Label.key⟩

/-- The target of a label. -/
def target? (r : References) (label : List Char) : Option Target :=
  r.targets.lookup (Label.key label)

/-- Labels that begin so belong to footnotes. -/
def startsFootnote (r : References) (cs : List Char) : Bool :=
  r.extensions.footnotes && cs.head? == some '^'

/-- What the text in brackets refers to by itself, given the text behind the opening bracket and
the one behind the closing bracket. -/
def own? (r : References) (inside behind : List Char) : Option Referent :=
  if r.startsFootnote inside then
    match Label.read? (inside.drop 1) with
    | some (label, rest) =>
      if rest.length = behind.length && r.footnotes.contains (Label.key label) then
        some (.footnote (Label.collapse label))
      else none
    | none => none
  else
    match Label.read? inside with
    | some (label, rest) =>
      if rest.length = behind.length then (r.target? label).map (.target .shortcut) else none
    | none => none

/-- What the text in brackets refers to, and what follows. A target in parentheses comes first,
then one by a label in further brackets, then one by the text itself. -/
def follow? (r : References) (inside behind : List Char) : Option (Referent × List Char) :=
  match (after? ['('] behind).bind Target.inline? with
  | some (t, rest) => some (.target .inline t, rest)
  | none =>
    let own := r.own? inside behind
    match behind with
    | '[' :: ']' :: rest =>
      own.map fun x =>
        match x with
        | .target _ t => (.target .collapsed t, rest)
        | .footnote label => (.footnote label, behind)
    | '[' :: cs =>
      if r.startsFootnote cs then own.map (·, behind)
      else match Label.read? cs with
        | some (label, rest) => (r.target? label).map fun t => (.target .reference t, rest)
        | none => own.map (·, behind)
    | _ => own.map (·, behind)

end References

namespace Piece

/-- The nearest bracket, with the pieces behind it and before it, in reverse. -/
def bracket? : List Piece → Option (List Piece × (Bool × Bool × List Char) × List Piece)
  | [] => none
  | .bracket isImage active after :: ps => some ([], (isImage, active, after), ps)
  | p :: ps => (bracket? ps).map fun (inner, b, before) => (p :: inner, b, before)

/-- A bracket that opens no link. -/
def deactivate : Piece → Piece
  | .bracket false _ after => .bracket false false after
  | p => p

/-- A bracket that opens nothing. -/
def disable : Piece → Piece
  | .bracket isImage _ after => .bracket isImage false after
  | p => p

/-- A text as a piece. -/
def ofText (cs : List Char) : Piece := .inline (.text cs)

/-- Reads a closing bracket behind some pieces, which are in reverse, and gives what follows. -/
def closeBracket (r : References) (pieces : List Piece) (rest : List Char) :
    List Piece × List Char :=
  match bracket? pieces with
  | none => (ofText [']'] :: pieces, rest)
  | some (inner, (isImage, active, inside), before) =>
    match if active then r.follow? inside rest else none with
    | some (.target kind t, rest) =>
      let body := resolve inner.reverse
      if isImage then (.inline (.image kind t body) :: before, rest)
      else (.inline (.link kind t body) :: before.map deactivate, rest)
    | some (.footnote label, rest) =>
      let before := before.map disable
      let before := if isImage then ofText ['!'] :: before else before
      (.inline (.footnote label) :: before, rest)
    | none =>
      let mark := ofText (if isImage then ['!', '['] else ['['])
      (ofText [']'] :: (inner ++ mark :: before), rest)

end Piece

/-! ## Texts -/

namespace Inline

/-- The characters that may begin something else than text. -/
def isSpecial (c : Char) : Bool :=
  isGap c || ['\\', '`', '<', '&', '*', '_', '~', '!', '[', ']'].contains c

/-- A text read up to some point: the pieces in reverse, the character before, and the rest. -/
structure Reading where
  pieces : List Piece
  before : Option Char
  rest : List Char

namespace Reading

/-- Adds a text. -/
def text (r : Reading) (cs rest : List Char) : Reading :=
  ⟨Piece.ofText cs :: r.pieces, cs.getLast?, rest⟩

/-- Adds an inline element that ends with a character. -/
def inline (r : Reading) (i : Inline) (last : Char) (rest : List Char) : Reading :=
  ⟨.inline i :: r.pieces, some last, rest⟩

/-- Reads what begins with an angle bracket. -/
def angle (r : Reading) (cs : List Char) : Reading :=
  match Autolink.uri? cs with
  | some (url, rest) => r.inline (.link .autolink ⟨url, []⟩ [.text url]) '>' rest
  | none =>
    match Autolink.mail? cs with
    | some (address, rest) => r.inline (.link .email ⟨address, []⟩ [.text address]) '>' rest
    | none =>
      match Tag.read? cs with
      | some (tag, rest) => r.inline (.html tag) '>' rest
      | none => r.text ['<'] cs

/-- Reads a row of marks. -/
def run (extensions : Extensions) (r : Reading) (mark : Char) (cs : List Char) : Reading :=
  let (n, rest) := takeRun mark cs
  if mark == '~' && (!extensions.strikethrough || 2 < n) then r.text (List.replicate n mark) rest
  else ⟨.run (.read mark n r.before rest.head?) :: r.pieces, some mark, rest⟩

/-- Reads what comes next. -/
def step (refs : References) (r : Reading) : Reading :=
  match r.rest with
  | [] => r
  | '\\' :: '\n' :: cs => r.inline .hardBreak '\n' cs
  | '\\' :: c :: cs => if isAsciiPunctuation c then r.text [c] cs else r.text ['\\'] (c :: cs)
  | '\n' :: cs => r.inline .softBreak '\n' cs
  | '`' :: cs =>
    let (n, rest) := takeRun '`' ('`' :: cs)
    match Code.read? n rest with
    | some (found, rest) => r.inline (.code found) '`' rest
    | none => r.text (List.replicate n '`') rest
  | '<' :: cs => r.angle cs
  | '&' :: cs =>
    match Entity.read? cs with
    | some (found, rest) => { r.text found rest with before := some ';' }
    | none => r.text ['&'] cs
  | '!' :: '[' :: cs => ⟨.bracket true true cs :: r.pieces, some '[', cs⟩
  | '[' :: cs => ⟨.bracket false true cs :: r.pieces, some '[', cs⟩
  | ']' :: cs =>
    let (pieces, rest) := Piece.closeBracket refs r.pieces cs
    ⟨pieces, some ']', rest⟩
  | c :: cs =>
    if c == '*' || c == '_' || c == '~' then r.run refs.extensions c (c :: cs)
    else if isSpace c then
      let blanks := (c :: cs).takeWhile isSpace
      match (c :: cs).dropWhile isSpace with
      | '\n' :: rest => r.inline (if 2 ≤ blanks.length then .hardBreak else .softBreak) '\n' rest
      | rest => r.text blanks rest
    else
      r.text (c :: cs.takeWhile (!isSpecial ·)) (cs.dropWhile (!isSpecial ·))

end Reading

/-- Reads so many steps. -/
def scan (refs : References) : Nat → Reading → Reading
  | 0, r => r
  | n + 1, r => if r.rest.isEmpty then r else scan refs n (r.step refs)

/-- The inline elements of a text. -/
def ofText (refs : References) (cs : List Char) : List Inline :=
  Piece.resolve (scan refs cs.length ⟨[], none, cs⟩).pieces.reverse

end Inline

end Stencil.Markdown
