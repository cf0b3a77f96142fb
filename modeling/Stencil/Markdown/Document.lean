import Stencil.Markdown.Event

/-!
# Markdown documents

- `Block`: the blocks of a document. They hold texts of some type: text as it is written while the
  blocks are told apart, and inline elements in the end.
- `Inline`: the inline elements.
- `Block.map`: the same blocks with other texts.
- `Inline.events`, `Block.events`: the events of elements and blocks.
-/

namespace Stencil.Markdown

/-- The blocks of a document. -/
inductive Block (α : Type) where
  /-- A paragraph; in a list of tasks it may begin with a box that is ticked or not. -/
  | paragraph (task : Option Bool) (text : α)
  | heading (level : Level) (attributes : Attributes) (text : α)
  | rule
  /-- Code, with what is written behind the opening fence if there is one. -/
  | code (info : Option (List Char)) (text : List Char)
  | html (text : List Char)
  | quote (body : List (Block α))
  /-- A list, with the number of its first item if the items are numbered. The paragraphs of a
  tight list are none. -/
  | list (start : Option Nat) (tight : Bool) (items : List (List (Block α)))
  | table (alignments : List Alignment) (head : List α) (rows : List (List α))
  | footnote (label : List Char) (body : List (Block α))

/-- The inline elements of a document. -/
inductive Inline where
  | text (cs : List Char)
  | code (cs : List Char)
  | html (cs : List Char)
  | softBreak
  | hardBreak
  | emphasis (body : List Inline)
  | strong (body : List Inline)
  | strike (body : List Inline)
  | link (kind : LinkKind) (target : Target) (body : List Inline)
  | image (kind : LinkKind) (target : Target) (body : List Inline)
  | footnote (label : List Char)
deriving Inhabited

namespace Block

variable {α β : Type}

mutual

/-- The block with its texts changed. -/
def map (f : α → β) : Block α → Block β
  | .paragraph task text => .paragraph task (f text)
  | .heading level attributes text => .heading level attributes (f text)
  | .rule => .rule
  | .code info text => .code info text
  | .html text => .html text
  | .quote body => .quote (mapAll f body)
  | .list start tight items => .list start tight (mapItems f items)
  | .table alignments head rows => .table alignments (head.map f) (rows.map (List.map f))
  | .footnote label body => .footnote label (mapAll f body)

/-- The blocks with their texts changed. -/
def mapAll (f : α → β) : List (Block α) → List (Block β)
  | [] => []
  | b :: bs => map f b :: mapAll f bs

/-- The items with their texts changed. -/
def mapItems (f : α → β) : List (List (Block α)) → List (List (Block β))
  | [] => []
  | item :: items => mapAll f item :: mapItems f items

end

end Block

/-! ## Events -/

namespace Inline

mutual

/-- The events of an element. -/
def events : Inline → List Event
  | .text cs => [.text cs]
  | .code cs => [.code cs]
  | .html cs => [.inlineHtml cs]
  | .softBreak => [.softBreak]
  | .hardBreak => [.hardBreak]
  | .emphasis body => Element.emphasis.around (eventsAll body)
  | .strong body => Element.strong.around (eventsAll body)
  | .strike body => Element.strike.around (eventsAll body)
  | .link kind t body => (Element.link kind t).around (eventsAll body)
  | .image kind t body => (Element.image kind t).around (eventsAll body)
  | .footnote label => [.footnote label]

/-- The events of some elements. -/
def eventsAll : List Inline → List Event
  | [] => []
  | i :: is => events i ++ eventsAll is

end

end Inline

namespace Block

/-- The events of a row of a table. -/
def rowEvents (row : Element) (cells : List (List Inline)) : List Event :=
  row.around (cells.flatMap fun cell => Element.tableCell.around (Inline.eventsAll cell))

mutual

/-- The events of a block. The paragraphs of a tight list are only what stands in them. -/
def events (tight : Bool) : Block (List Inline) → List Event
  | .paragraph task text =>
    let inner := task.toList.map Event.task ++ Inline.eventsAll text
    if tight then inner else Element.paragraph.around inner
  | .heading level a text => (Element.heading level a).around (Inline.eventsAll text)
  | .rule => [.rule]
  | .code info text => (Element.code info).around [.text text]
  | .html text => Element.html.around [.html text]
  | .quote body => Element.quote.around (eventsAll false body)
  | .list start tight items => (Element.list start).around (eventsItems tight items)
  | .table alignments head rows =>
    (Element.table alignments).around
      (rowEvents .tableHead head ++ rows.flatMap (rowEvents .tableRow))
  | .footnote label body => (Element.footnote label).around (eventsAll false body)

/-- The events of some blocks. -/
def eventsAll (tight : Bool) : List (Block (List Inline)) → List Event
  | [] => []
  | b :: bs => events tight b ++ eventsAll tight bs

/-- The events of the items of a list. -/
def eventsItems (tight : Bool) : List (List (Block (List Inline))) → List Event
  | [] => []
  | item :: items => Element.item.around (eventsAll tight item) ++ eventsItems tight items

end

end Block

end Stencil.Markdown
