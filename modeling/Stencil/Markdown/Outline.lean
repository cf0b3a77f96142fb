import Stencil.Markdown.Document
import Stencil.Markdown.Opening

/-!
# The blocks of a text

Lines are read one after the other. A line first goes on with the containers that are open, as far
as they match; then it may begin blocks; what is left of it belongs to the innermost block.

- `Leaf`: the block of lines that is open.
- `Frame`: an open container, with the blocks before it.
- `Outline`: the blocks read so far.
- `Outline.addLine`: reads a line.
- `Outline.ofLines`: the blocks of some lines, and the definitions among them.
-/

namespace Stencil.Markdown

/-- A block whose text is not yet read. -/
abbrev RawBlock := Block (List Char)

/-- A block of lines that is open; the lines are in reverse. -/
inductive Leaf where
  | paragraph (task : Option Bool) (lines : List (List Char))
  | fenced (f : Fence) (lines : List (List Char))
  | indented (lines : List (List Char))
  | html (stop : Tag.BlockEnd) (lines : List (List Char))
  | table (alignments : List Alignment) (head : List (List Char))
    (rows : List (List (List Char)))

/-- An open container. The blocks before it, and its items if it is a list, are in reverse. An item
stands above its list, which may be open without an item. -/
inductive Frame where
  | quote (before : List RawBlock)
  | footnote (label : List Char) (before : List RawBlock)
  | list (kind : ListKind) (loose : Bool) (items : List (List RawBlock)) (before : List RawBlock)
  | item (width : Nat)

/-- What has been read so far. -/
structure Outline where
  extensions : Extensions
  /-- The open containers, the innermost first. -/
  frames : List Frame
  /-- The blocks of the innermost container, in reverse. -/
  children : List RawBlock
  leaf : Option Leaf
  /-- The box of a task, which the next paragraph begins with. -/
  task : Option Bool
  /-- The line before was blank. -/
  blank : Bool
  /-- The definitions, in reverse. -/
  definitions : List Definition
  footnotes : List (List Char)

namespace Outline

/-- Nothing has been read. -/
def empty (extensions : Extensions) : Outline := ⟨extensions, [], [], none, none, false, [], []⟩

/-! ## Closing -/

/-- The lines of a paragraph as one text, without blanks at its end. -/
def joined (lines : List (List Char)) : List Char := trimRight (['\n'].intercalate lines.reverse)

/-- Adds a finished block to the innermost container. -/
def push (o : Outline) (b : RawBlock) : Outline := { o with children := b :: o.children }

/-- Keeps the definitions at the start of a paragraph, and gives the rest of it. -/
def define (o : Outline) (lines : List (List Char)) : Outline × List Char :=
  let text := joined lines
  let (ds, rest) := Definition.stripAll (lines.length + 1) text
  ({ o with definitions := ds.reverse ++ o.definitions }, rest)

/-- Closes the block of lines that is open. -/
def closeLeaf (o : Outline) : Outline :=
  let o' := { o with leaf := none }
  match o.leaf with
  | none => o'
  | some (.paragraph task lines) =>
    let (o', rest) := define o' lines
    if rest.all isGap then o' else o'.push (.paragraph task rest)
  | some (.fenced f lines) => o'.push (.code (some (unescape f.info)) lines.reverse.flatten)
  | some (.indented lines) =>
    o'.push (.code none (lines.dropWhile (·.all isGap)).reverse.flatten)
  | some (.html _ lines) => o'.push (.html lines.reverse.flatten)
  | some (.table alignments head rows) => o'.push (.table alignments head rows.reverse)

/-- Closes the innermost container. -/
def closeFrame (o : Outline) : Outline :=
  match o.frames with
  | [] => o
  | .quote before :: rest =>
    { o with frames := rest, children := .quote o.children.reverse :: before }
  | .footnote label before :: rest =>
    { o with frames := rest, children := .footnote label o.children.reverse :: before }
  | .list kind loose items before :: rest =>
    { o with frames := rest, children := .list kind.start (!loose) items.reverse :: before }
  | .item _ :: .list kind loose items before :: rest =>
    let items := o.children.reverse :: items
    { o with frames := .list kind loose items before :: rest, children := [] }
  | .item _ :: rest => { o with frames := rest }

/-- Closes containers until so many are open. -/
def closeTo (n : Nat) (o : Outline) : Outline :=
  (List.range (o.frames.length - n)).foldl (fun o _ => o.closeFrame) o

/-- Closes a list without an open item. -/
def closeList (o : Outline) : Outline :=
  match o.frames with
  | .list _ _ _ _ :: _ => o.closeFrame
  | _ => o

/-- Two blocks of an item with a blank line between them make its list loose. -/
def loosen (o : Outline) : Outline :=
  match o.frames with
  | .item width :: .list kind loose items before :: rest =>
    let loose := loose || (o.blank && !o.children.isEmpty)
    { o with frames := .item width :: .list kind loose items before :: rest }
  | _ => o

/-! ## Opening -/

/-- Prepares for a block that is not an item. -/
def beginBlock (o : Outline) : Outline := o.closeList.loosen

/-- Opens an item, in the innermost list if it is of the same kind. -/
def openItem (o : Outline) (kind : ListKind) (width : Nat) : Outline :=
  match o.frames with
  | .list k loose items before :: rest =>
    if k.mark = kind.mark then
      { o with frames := .item width :: .list k (loose || o.blank) items before :: rest }
    else
      let o := o.beginBlock
      { o with frames := .item width :: .list kind false [] o.children :: o.frames, children := [] }
  | _ =>
    let o := o.beginBlock
    { o with frames := .item width :: .list kind false [] o.children :: o.frames, children := [] }

/-- The box of a task at the start of an item, and what follows. -/
def takeTask (o : Outline) (l : Line) : Option Bool × Line :=
  if !o.extensions.taskLists then (none, l)
  else
    let inner := l.unindented
    match inner.chars with
    | '[' :: c :: ']' :: d :: _ =>
      if isSpace d && (isSpace c || c == 'x' || c == 'X') then (some (!isSpace c), inner.drop 3)
      else (none, l)
    | _ => (none, l)

/-- A heading with its attributes. -/
def headingBlock (o : Outline) (level : Level) (text : List Char) : RawBlock :=
  if o.extensions.headingAttributes then
    let (text, attributes) := Heading.attributes text
    .heading level attributes (Opening.closeHeading text)
  else .heading level .none (Opening.closeHeading text)

/-- A heading of a paragraph and the line below it. -/
def underlinedBlock (o : Outline) (level : Level) (text : List Char) : RawBlock :=
  if o.extensions.headingAttributes then
    let (text, attributes) := Heading.attributes text
    .heading level attributes text
  else .heading level .none text

/-- Adds a line of text: it goes on with the paragraph or table that is open, or begins a
paragraph. -/
def addText (o : Outline) (l : Line) : Outline :=
  let text := trimLeft l.unindented.text
  match o.leaf with
  | some (.paragraph task lines) =>
    { o with leaf := some (.paragraph task (text :: lines)), blank := false }
  | some (.table alignments head rows) =>
    let row := Table.cells alignments.length text
    { o with leaf := some (.table alignments head (row :: rows)), blank := false }
  | _ =>
    let o := o.beginBlock
    { o with leaf := some (.paragraph o.task [text]), task := none, blank := false }

/-- Begins a block of lines. -/
def beginLeaf (o : Outline) (leaf : Leaf) : Outline :=
  { o.beginBlock with leaf := some leaf, blank := false }

/-- Adds a finished block. -/
def addBlock (o : Outline) (b : RawBlock) : Outline := { o.beginBlock.push b with blank := false }

/-- Adds a line to a block of HTML, which it may end. -/
def addHtml (o : Outline) (stop : Tag.BlockEnd) (lines : List (List Char)) (l : Line) : Outline :=
  let o := { o with leaf := some (.html stop (l.fullText :: lines)), blank := false }
  if stop.isAt l.chars then o.closeLeaf else o

/-- A paragraph or a table is open. -/
def inText (o : Outline) : Bool :=
  match o.leaf with
  | some (.paragraph _ _) => true
  | some (.table _ _ _) => true
  | _ => false

/-- A paragraph is open. -/
def inParagraph (o : Outline) : Bool :=
  match o.leaf with
  | some (.paragraph _ _) => true
  | _ => false

/-- Reads what is left of a line behind the containers it goes on with, of which so many stay open.
It may begin containers, the number of which the first argument bounds. `attached` says that the
line goes on with all of them. -/
def addRest : Nat → Nat → Bool → Line → Outline → Outline
  | 0, _, _, l, o => o.addText l
  | n + 1, depth, attached, l, o =>
    if l.isBlank then { o with blank := false }
    else
      let inner := l.unindented
      if 4 ≤ l.indent then
        if o.inText then o.addText l
        else
          let o := (o.closeLeaf.closeTo depth)
          o.beginLeaf (.indented [(l.skip 4).fullText])
      else
        let opening := (Opening.at? o.extensions o.inText l.indent inner).filter fun p =>
          !(attached && o.inParagraph) || p.interrupts
        match opening with
        | none => if o.inText then o.addText l else (o.closeTo depth).addText l
        | some p =>
          let o := o.closeLeaf.closeTo depth
          match p with
          | .quote rest =>
            let o := o.beginBlock
            let o := { o with
              frames := .quote o.children :: o.frames
              children := []
              blank := false }
            o.addRest n o.frames.length true rest
          | .footnote label rest =>
            let o := o.beginBlock
            let o := { o with
              frames := .footnote label o.children :: o.frames
              children := []
              blank := false
              footnotes := label :: o.footnotes }
            o.addRest n o.frames.length true rest
          | .item kind width rest =>
            let o := { o.openItem kind width with blank := false }
            let (task, rest) := o.takeTask rest
            let o := { o with task := task.or o.task }
            o.addRest n o.frames.length true rest
          | .heading level text => o.addBlock (o.headingBlock level text)
          | .fence f => o.beginLeaf (.fenced f [])
          | .html stop => o.beginBlock.addHtml stop [] l
          | .rule => o.addBlock .rule

/-! ## Going on -/

/-- The line behind the container, if it goes on with it. An item that is still empty is ended by a
blank line. -/
def goesOn (isEmpty : Bool) (f : Frame) (l : Line) : Option Line :=
  match f with
  | .list _ _ _ _ => some l
  | .quote _ =>
    match l.unindented.chars with
    | '>' :: _ =>
      if l.indent ≤ 3 then
        let rest := l.unindented.drop 1
        some (if rest.indent = 0 then rest else rest.skip 1)
      else none
    | _ => none
  | .footnote _ _ =>
    if l.isBlank then some l else if 4 ≤ l.indent then some (l.skip 4) else none
  | .item width =>
    if l.isBlank then (if isEmpty then none else some (l.skip width))
    else if width ≤ l.indent then some (l.skip width)
    else none

/-- The number of containers, from the outermost on, that a line goes on with, and the rest of the
line. -/
def matching (isEmpty : Bool) : List Frame → Line → Nat × Line
  | [], l => (0, l)
  | f :: fs, l =>
    match goesOn (isEmpty && fs.isEmpty) f l with
    | none => (0, l)
    | some rest =>
      let (n, rest) := matching isEmpty fs rest
      (n + 1, rest)

/-- The innermost of the first containers is a quote. -/
def endsInQuote (depth : Nat) (o : Outline) : Bool :=
  match o.frames.drop (o.frames.length - depth) with
  | .quote _ :: _ => true
  | _ => false

/-- Reads a blank line. -/
def addBlank (depth : Nat) (o : Outline) : Outline :=
  let inQuote := o.endsInQuote depth
  let o := o.closeLeaf.closeTo depth
  { o with blank := !inQuote }

/-- The table that a line makes of the paragraph above it: its alignments, its head, and the lines
of the paragraph that remain. The head is the only line of the paragraph, or begins with a bar. -/
def table? (o : Outline) (lines : List (List Char)) (l : Line) :
    Option (List Alignment × List (List Char) × List (List Char)) :=
  match lines with
  | [] => none
  | head :: before =>
    if !o.extensions.tables || 3 < l.indent || !(before.isEmpty || head.head? == some '|') then none
    else do
      let alignments ← Table.alignments? l.unindented.text
      let columns ← Table.columns? head
      if columns = alignments.length then some (alignments, Table.cells columns head, before)
      else none

/-- Reads a line that goes on with all containers and belongs to a paragraph, unless a block
begins. -/
def addToParagraph (o : Outline) (depth : Nat) (task : Option Bool) (lines : List (List Char))
    (l : Line) : Outline :=
  match o.table? lines l with
  | some (alignments, head, before) =>
    let o := if before.isEmpty then { o with leaf := none }
      else { o with leaf := some (.paragraph task before) }.closeLeaf
    o.beginLeaf (.table alignments head [])
  | none =>
    match if l.indent ≤ 3 then Opening.underline? l.unindented.text else none with
    | some level =>
      let (o', rest) := { o with leaf := none }.define lines
      if rest.all isGap then { o' with leaf := some (.paragraph task [l.unindented.text]) }
      else o'.addBlock (o'.underlinedBlock level rest)
    | none => o.addRest (l.chars.length + 1) depth true l

/-- Reads a line. -/
def addLine (o : Outline) (l : Line) : Outline :=
  let isEmpty := o.children.isEmpty && o.leaf.isNone
  let total := o.frames.length
  let (depth, rest) := matching isEmpty o.frames.reverse l
  if depth = total then
    match o.leaf with
    | some (.fenced f lines) =>
      if Opening.closesFence f rest then { o.closeLeaf with blank := false }
      else
        let rest := rest.skip (min f.indent rest.indent)
        { o with leaf := some (.fenced f (rest.fullText :: lines)), blank := false }
    | some (.html stop lines) =>
      if stop = .blank && rest.isBlank then o.addBlank depth else o.addHtml stop lines rest
    | some (.indented lines) =>
      if rest.isBlank then
        { o with leaf := some (.indented ((rest.skip 4).fullText :: lines)), blank := true }
      else if 4 ≤ rest.indent then
        { o with leaf := some (.indented ((rest.skip 4).fullText :: lines)), blank := false }
      else o.closeLeaf.addRest (rest.chars.length + 1) depth true rest
    | some (.paragraph task lines) =>
      if rest.isBlank then o.addBlank depth else o.addToParagraph depth task lines rest
    | _ =>
      if rest.isBlank then o.addBlank depth
      else o.addRest (rest.chars.length + 1) depth true rest
  else if rest.isBlank then o.addBlank depth
  else
    let o := if o.inParagraph then o else o.closeLeaf
    o.addRest (rest.chars.length + 1) depth false rest

/-- Closes everything. -/
def finish (o : Outline) : Outline := o.closeLeaf.closeTo 0

/-- The blocks of some lines. -/
def ofLines (extensions : Extensions) (ls : List Line) : Outline :=
  (ls.foldl addLine (empty extensions)).finish

end Outline

end Stencil.Markdown
