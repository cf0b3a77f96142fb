import Stencil.Markdown.Library

/-!
# Documents as HTML

The HTML of a document is written event by event. A line ends before and behind some elements.
What stands in an image is collected as its description.

- `Writer`: how far a document is written.
- `Writer.step`: writes an event.
- `Writer.document`: the pieces of the HTML of a document.
-/

namespace Stencil.Markdown

/-- An image that is open: where it leads, its description so far, and the number of open elements
in it. -/
structure OpenImage where
  target : Target
  alt : List Char
  depth : Nat

/-- How far a document is written. -/
structure Writer where
  /-- A line begins. -/
  atStart : Bool
  /-- The footnotes in the order of their numbers. -/
  footnotes : List (List Char)
  /-- The cells are those of the head of a table. -/
  inHead : Bool
  alignments : List Alignment
  /-- The number of cells before the next one. -/
  column : Nat
  image : Option OpenImage

/-! ## Lines -/

namespace Event

/-- The event begins a line. -/
def startsLine : Event → Bool
  | .start .paragraph => true
  | .start (.heading _ _) => true
  | .start .quote => true
  | .start (.code _) => true
  | .start (.list _) => true
  | .start .item => true
  | .start (.footnote _) => true
  | .rule => true
  | _ => false

/-- The event ends a line. -/
def endsLine : Event → Bool
  | .start .quote => true
  | .start (.list _) => true
  | .stop .paragraph => true
  | .stop (.heading _) => true
  | .stop .quote => true
  | .stop .code => true
  | .stop (.list _) => true
  | .stop .item => true
  | .stop .footnote => true
  | .stop .table => true
  | .stop .tableHead => true
  | .stop .tableRow => true
  | .softBreak => true
  | .hardBreak => true
  | .rule => true
  | .task _ => true
  | _ => false

/-- The footnote that an event mentions. -/
def label? : Event → Option (List Char)
  | .start (.footnote label) => some label
  | .footnote label => some label
  | _ => none

end Event

/-! ## Writers -/

namespace Writer

/-- Nothing is written. -/
def empty : Writer := ⟨true, [], false, [], 0, none⟩

/-- Numbers the footnote that an event mentions, unless it has a number. -/
def mention (w : Writer) (e : Event) : Writer :=
  match e.label? with
  | none => w
  | some label =>
    if w.footnotes.contains label then w else { w with footnotes := w.footnotes ++ [label] }

/-- The number of the footnote that an event mentions. -/
def number (w : Writer) (e : Event) : List Char :=
  match e.label? with
  | none => []
  | some label => (toString (w.footnotes.idxOf label + 1)).toList

/-- Goes to the row or column of a table that an event begins. -/
def move (w : Writer) : Event → Writer
  | .start (.table alignments) => { w with alignments }
  | .start .tableHead => { w with inHead := true, column := 0 }
  | .start .tableRow => { w with column := 0 }
  | .stop .tableHead => { w with inHead := false }
  | .stop .tableCell => { w with column := w.column + 1 }
  | _ => w

/-- What an event does not say. -/
def setting (w : Writer) (e : Event) : Setting :=
  ⟨w.number e, w.inHead, w.alignments[w.column]?.getD .none⟩

/-- The pieces that an event is written as. -/
def pieces (w : Writer) (e : Event) : List Mark :=
  (if e.startsLine && !w.atStart then [.newline] else []) ++ e.marks (w.setting e) ++
    (if e.endsLine then [.newline] else [])

/-- Some pieces have been written. -/
def wrote (w : Writer) (ms : List Mark) : Writer :=
  { w with
    atStart := match (Mark.print ms).getLast? with
      | none => w.atStart
      | some c => c == '\n' }

/-- What an event adds to the description of an image. -/
def description (w : Writer) : Event → List Char
  | .start _ => []
  | .stop _ => []
  | .text cs => cs
  | .code cs => cs
  | .html _ => []
  | .inlineHtml cs => cs
  | .footnote label => '[' :: w.number (.footnote label) ++ [']']
  | .softBreak => [' ']
  | .hardBreak => [' ']
  | .rule => [' ']
  | .task isTicked => ['[', if isTicked then 'x' else ' ', ']']

/-- Goes on with the description of an image. -/
def goOn (w : Writer) (i : OpenImage) (e : Event) (depth : Nat) : Writer :=
  { w with image := some ⟨i.target, i.alt ++ w.description e, depth⟩ }

/-- Writes an event within an image. The image is written when it ends. -/
def describe (w : Writer) (i : OpenImage) (e : Event) : Writer × List Mark :=
  let w := w.mention e
  match e, i.depth with
  | .start _, depth => (w.goOn i e (depth + 1), [])
  | .stop _, depth + 1 => (w.goOn i e depth, [])
  | .stop _, 0 => ({ w with image := none, atStart := false }, [i.target.image i.alt])
  | _, depth => (w.goOn i e depth, [])

/-- Writes an event. -/
def step (w : Writer) (e : Event) : Writer × List Mark :=
  match w.image, e with
  | some i, e => w.describe i e
  | none, .start (.image _ t) => ({ w with image := some ⟨t, [], 0⟩ }, [])
  | none, e =>
    let w := (w.mention e).move e
    let ms := w.pieces e
    (w.wrote ms, ms)

/-- The pieces that some events are written as. -/
def run (w : Writer) : List Event → List Mark
  | [] => []
  | e :: es => (w.step e).2 ++ run (w.step e).1 es

/-- The pieces of the HTML of a document. -/
def document (es : List Event) : List Mark := empty.run es

end Writer

end Stencil.Markdown
