import Stencil.Decimal.Reading
import Stencil.Markdown.Event
import Stencil.Markdown.Flavor
import Stencil.Markdown.Line
import Stencil.Markdown.Reference
import Stencil.Markdown.Tag
import Stencil.Text.Bytes

/-!
# How blocks begin

- `Opening`: the ways in which a block begins.
- `Opening.rule`, `Opening.heading?`, `Opening.fence?`, `Opening.item?`, `Opening.footnote?`: single
  ways.
- `Opening.underline?`: the line below a paragraph that makes it a heading.
- `Heading.attributes`: the attributes at the end of a heading.
- `Table.alignments?`, `Table.columns`, `Table.cells`: the lines of tables.
-/

namespace Stencil.Markdown

/-- The kind of a list: the mark of its items, and the number of the first one. -/
structure ListKind where
  mark : Char
  start : Option Nat
deriving DecidableEq

/-- A fence of code. -/
structure Fence where
  mark : Char
  length : Nat
  /-- The columns before it, which are taken off the lines of the code. -/
  indent : Nat
  info : List Char
deriving DecidableEq

/-- The ways in which a block begins. -/
inductive Opening where
  | quote (rest : Line)
  | heading (level : Level) (text : List Char)
  | fence (f : Fence)
  | html (stop : Tag.BlockEnd)
  | rule
  /-- An item of a list with the columns that its lines are indented by. -/
  | item (kind : ListKind) (width : Nat) (rest : Line)
  | footnote (label : List Char) (rest : Line)

namespace Opening

/-- The line is a rule: three or more of the same mark, and blanks. -/
def isRule (cs : List Char) : Bool :=
  match cs with
  | c :: _ =>
    (c == '*' || c == '-' || c == '_') && cs.all (fun d => d == c || isSpace d) &&
      3 ≤ cs.countP (· == c)
  | [] => false

/-- The level of a heading with so many number signs. -/
def level? : Nat → Option Level
  | 1 => some .h1
  | 2 => some .h2
  | 3 => some .h3
  | 4 => some .h4
  | 5 => some .h5
  | 6 => some .h6
  | _ => none

/-- The level and the text of a heading that begins with number signs. -/
def heading? (cs : List Char) : Option (Level × List Char) :=
  let (n, rest) := takeRun '#' cs
  if rest.isEmpty || rest.head?.any isSpace then (level? n).map (·, trimSpaces rest) else none

/-- A text without the number signs that close a heading. -/
def closeHeading (cs : List Char) : List Char :=
  let cs := trimRight cs
  match cs.reverse.dropWhile (· == '#') with
  | [] => []
  | c :: rest =>
    if isSpace c && cs.getLast? == some '#' then trimRight (c :: rest).reverse else cs

/-- A fence of code. What is written behind backticks holds none. -/
def fence? (indent : Nat) (cs : List Char) : Option Fence :=
  match cs with
  | c :: _ =>
    let (n, rest) := takeRun c cs
    if (c == '`' || c == '~') && 3 ≤ n && !(c == '`' && rest.contains '`') then
      some ⟨c, n, indent, trimSpaces rest⟩
    else none
  | [] => none

/-- The line closes a fence. -/
def closesFence (f : Fence) (l : Line) : Bool :=
  let (n, rest) := takeRun f.mark l.unindented.text
  l.indent ≤ 3 && f.length ≤ n && rest.all isSpace

/-- The mark of an item, and the number of characters that it takes. -/
def mark? : List Char → Option (ListKind × Nat)
  | [] => none
  | c :: cs =>
    if c == '-' || c == '+' || c == '*' then some (⟨c, none⟩, 1)
    else
      let ds := (c :: cs).takeWhile Char.isDigit
      match (c :: cs).dropWhile Char.isDigit with
      | d :: _ =>
        if 1 ≤ ds.length && ds.length ≤ 9 && (d == '.' || d == ')') then
          some (⟨d, some (Decimal.ofDigits ds)⟩, ds.length + 1)
        else none
      | [] => none

/-- An item of a list, given the columns before it. Up to four blanks behind the mark belong to the
indentation of the item, but only one if code follows them. -/
def item? (indent : Nat) (l : Line) : Option Opening := do
  let (kind, n) ← mark? l.chars
  let rest := l.drop n
  if rest.isBlank then some (.item kind (indent + n + 1) rest)
  else
    let gap := rest.indent
    if gap = 0 then none
    else
      let gap := if 4 < gap then 1 else gap
      some (.item kind (indent + n + gap) (rest.skip gap))

/-- A label of a footnote in brackets, and what follows. -/
def footnoteLabel? : List Char → Option (List Char × List Char)
  | '[' :: '^' :: cs => Label.read? cs
  | _ => none

/-- A footnote. -/
def footnote? (l : Line) : Option Opening := do
  let (label, rest) ← footnoteLabel? l.chars
  match rest with
  | ':' :: rest => some (.footnote (Label.collapse label) (l.drop (l.chars.length - rest.length)))
  | _ => none

/-- The block that begins at a line, which has no blanks at its start, given the columns before
it. Inside a paragraph not all of them can begin. -/
def at? (extensions : Extensions) (inParagraph : Bool) (indent : Nat) (l : Line) :
    Option Opening :=
  let cs := l.chars
  match cs with
  | '>' :: _ =>
    let rest := l.drop 1
    some (.quote (if rest.indent = 0 then rest else rest.skip 1))
  | _ =>
    match heading? cs with
    | some (level, text) => some (.heading level text)
    | none =>
      match fence? indent cs with
      | some f => some (.fence f)
      | none =>
        match (after? ['<'] cs).bind (Tag.blockEnd? inParagraph) with
        | some stop => some (.html stop)
        | none =>
          if isRule cs then some .rule
          else match item? indent l with
            | some i => some i
            | none => if extensions.footnotes then footnote? l else none

/-- The level of the heading that a line below a paragraph makes of it. -/
def underline? (cs : List Char) : Option Level :=
  match trimRight cs with
  | [] => none
  | c :: rest =>
    if rest.all (· == c) then (if c == '=' then some .h1 else if c == '-' then some .h2 else none)
    else none

/-- An item may interrupt a paragraph if it is not empty, and numbered from one if at all. -/
def interrupts : Opening → Bool
  | .item kind _ rest => !rest.isBlank && kind.start.all (· == 1)
  | _ => true

end Opening

/-! ## Attributes of headings -/

namespace Heading

/-- Adds an attribute as it is written. A single character of ASCII is none. -/
def addAttribute (a : Attributes) (word : List Char) : Attributes :=
  if Text.byteLength word ≤ 1 then a
  else match word with
  | '#' :: rest => { a with id := some rest }
  | '.' :: rest => { a with classes := a.classes ++ [rest] }
  | word =>
    let name := word.takeWhile (· != '=')
    match word.dropWhile (· != '=') with
    | _ :: value => { a with others := a.others ++ [(name, some value)] }
    | [] => { a with others := a.others ++ [(word, none)] }

/-- The blanks between attributes. -/
def isBlank (c : Char) : Bool := c == ' ' || c == '\t' || c == '\n' || c == '\x0c' || c == '\r'

/-- The attributes of a text. -/
def words (cs : List Char) : List (List Char) := (cs.splitOnP isBlank).filter (!·.isEmpty)

/-- The characters that may not stand between the braces. -/
def isExcluded (c : Char) : Bool :=
  c == '\x7b' || c == '\x7d' || c == '<' || c == '>' || c == '\\' || c == '\n'

/-- The text and the attributes of a heading. They stand between braces at its end. -/
def attributes (cs : List Char) : List Char × Attributes :=
  match (cs.reverse.dropWhile isGap) with
  | '\x7d' :: rest =>
    match rest.dropWhile (!isExcluded ·) with
    | '\x7b' :: before =>
      let inner := (rest.takeWhile (!isExcluded ·)).reverse
      (trimRight before.reverse, (words inner).foldl addAttribute .none)
    | _ => (cs, .none)
  | _ => (cs, .none)

end Heading

/-! ## Tables -/

namespace Table

/-- What is known of the column that is being read: its alignment, whether it has begun, and
whether it has a dash. -/
structure Column where
  alignment : Alignment
  begun : Bool
  dashed : Bool

/-- The alignment of a column behind a colon. -/
def colon (c : Column) : Alignment :=
  match c.begun, c.alignment with
  | false, .none => .left
  | true, .left => .center
  | true, .none => .right
  | _, a => a

/-- The alignments of the columns of a line. Every column needs a dash. -/
def scanAlignments : List Char → Column → Option (List Alignment)
  | [], c => if c.begun then (if c.dashed then some [c.alignment] else none) else some []
  | d :: ds, c =>
    if d == ' ' || d == '\t' then scanAlignments ds c
    else if d == ':' then scanAlignments ds { c with alignment := colon c, begun := true }
    else if d == '-' then scanAlignments ds { c with begun := true, dashed := true }
    else if d == '|' then
      if c.dashed then (scanAlignments ds ⟨.none, false, false⟩).map (c.alignment :: ·) else none
    else none

/-- The alignments that the second line of a table gives. -/
def alignments? (cs : List Char) : Option (List Alignment) :=
  let cs := match cs with
    | '|' :: rest => rest
    | rest => rest
  match scanAlignments cs ⟨.none, false, false⟩ with
  | some (a :: as) => some (a :: as)
  | _ => none

/-- The bars in a line that are not escaped. -/
def bars : List Char → Nat
  | [] => 0
  | [c] => if c = '|' then 1 else 0
  | '\\' :: c :: cs => if isAsciiPunctuation c then bars cs else bars (c :: cs)
  | c :: cs => (if c = '|' then 1 else 0) + bars cs

/-- The number of columns of the first line of a table; without a bar it is none. -/
def columns? (cs : List Char) : Option Nat :=
  let cs := trimSpaces cs
  let n := bars cs
  if n = 0 then none
  else
    let n := if cs.head? = some '|' then n - 1 else n
    some (if cs.getLast? = some '|' && bars cs.dropLast < bars cs then n else n + 1)

/-- The text up to a bar that is not escaped, with the escaped bars in it, and what follows from
the bar on. -/
def cell : List Char → List Char × List Char
  | [] => ([], [])
  | '\\' :: '|' :: cs =>
    let (text, rest) := cell cs
    ('|' :: text, rest)
  | c :: cs =>
    if c = '|' then ([], c :: cs)
    else
      let (text, rest) := cell cs
      (c :: text, rest)

/-- The cells of a line. The first argument bounds their number. -/
def cellsWithin : Nat → List Char → List (List Char)
  | 0, _ => []
  | n + 1, cs =>
    let cs := trimLeft (match cs with
      | '|' :: rest => rest
      | rest => rest)
    if cs.isEmpty then []
    else
      let (text, rest) := cell cs
      trimRight text :: cellsWithin n rest

/-- The cells of a line, as many as there are columns. -/
def cells (columns : Nat) (cs : List Char) : List (List Char) :=
  let found := (cellsWithin (cs.length + 1) (trimSpaces cs)).take columns
  found ++ List.replicate (columns - found.length) []

end Table

end Stencil.Markdown
