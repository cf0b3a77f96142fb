/-!
# The events of a document

A reader of markdown gives a document as a sequence of events, as the package `pulldown-cmark` does:
an element begins or ends, or something stands in it. What belongs to constructs that no flavor
turns on is left out, and so is the label of a link by reference, which nothing looks at.

- `LinkKind`, `Target`: how a link or an image is written, and where it leads.
- `Level`, `Attributes`: what is known of a heading.
- `Element`, `ElementEnd`, `Event`: the events.
- `Element.around`: the events of an element.
- `Balanced`: every element that begins ends, and elements are nested.
-/

namespace Stencil.Markdown

/-! ## Parts of events -/

/-- How a link or an image is written. -/
inductive LinkKind where
  /-- `[text](target)`. -/
  | inline
  /-- `[text][label]`. -/
  | reference
  /-- `[label][]`. -/
  | collapsed
  /-- `[label]`. -/
  | shortcut
  /-- An address with a scheme in angle brackets. -/
  | autolink
  /-- An address of electronic mail in angle brackets. -/
  | email
deriving DecidableEq

/-- Where a link or an image leads. -/
structure Target where
  url : List Char
  title : List Char
deriving DecidableEq

/-- The level of a heading. -/
inductive Level where
  | h1
  | h2
  | h3
  | h4
  | h5
  | h6
deriving DecidableEq

/-- The element of a heading. -/
def Level.name : Level → String
  | .h1 => "h1"
  | .h2 => "h2"
  | .h3 => "h3"
  | .h4 => "h4"
  | .h5 => "h5"
  | .h6 => "h6"

/-- What a heading may carry. -/
structure Attributes where
  id : Option (List Char)
  classes : List (List Char)
  others : List (List Char × Option (List Char))
deriving DecidableEq

/-- A heading that carries nothing. -/
def Attributes.none : Attributes := ⟨Option.none, [], []⟩

/-- How the cells of a column are aligned. -/
inductive Alignment where
  | none
  | left
  | center
  | right
deriving DecidableEq

/-! ## Events -/

/-- The elements of a document. -/
inductive Element where
  | paragraph
  | heading (level : Level) (attributes : Attributes)
  | quote
  /-- Code, with what is written behind the opening fence if there is one. -/
  | code (info : Option (List Char))
  | html
  /-- A list, with the number of its first item if the items are numbered. -/
  | list (start : Option Nat)
  | item
  | footnote (label : List Char)
  | table (alignments : List Alignment)
  | tableHead
  | tableRow
  | tableCell
  | emphasis
  | strong
  | strike
  | link (kind : LinkKind) (target : Target)
  | image (kind : LinkKind) (target : Target)
deriving DecidableEq

/-- The end of an element, with what is said of the element there. -/
inductive ElementEnd where
  | paragraph
  | heading (level : Level)
  | quote
  | code
  | html
  | list (isNumbered : Bool)
  | item
  | footnote
  | table
  | tableHead
  | tableRow
  | tableCell
  | emphasis
  | strong
  | strike
  | link
  | image
deriving DecidableEq

/-- The end of an element. -/
def Element.stop : Element → ElementEnd
  | .paragraph => .paragraph
  | .heading level _ => .heading level
  | .quote => .quote
  | .code _ => .code
  | .html => .html
  | .list start => .list start.isSome
  | .item => .item
  | .footnote _ => .footnote
  | .table _ => .table
  | .tableHead => .tableHead
  | .tableRow => .tableRow
  | .tableCell => .tableCell
  | .emphasis => .emphasis
  | .strong => .strong
  | .strike => .strike
  | .link _ _ => .link
  | .image _ _ => .image

/-- A part of a document. -/
inductive Event where
  | start (x : Element)
  | stop (x : ElementEnd)
  | text (cs : List Char)
  | code (cs : List Char)
  /-- Raw HTML in a block of its own. -/
  | html (cs : List Char)
  /-- Raw HTML within a text. -/
  | inlineHtml (cs : List Char)
  /-- A footnote is mentioned. -/
  | footnote (label : List Char)
  | softBreak
  | hardBreak
  | rule
  /-- The box of a task. -/
  | task (isTicked : Bool)
deriving DecidableEq

/-- An event that neither begins nor ends an element. -/
def Event.isLeaf : Event → Bool
  | .start _ => false
  | .stop _ => false
  | _ => true

/-- The events of an element. -/
def Element.around (x : Element) (inner : List Event) : List Event :=
  .start x :: inner ++ [.stop x.stop]

/-! ## Nesting -/

/-- Every element that begins ends, and elements are nested. -/
inductive Balanced : List Event → Prop
  | nil : Balanced []
  | leaf {e : Event} {es : List Event} (isLeaf : e.isLeaf) (rest : Balanced es) : Balanced (e :: es)
  | element {x : Element} {inner es : List Event} (within : Balanced inner) (rest : Balanced es) :
      Balanced (.start x :: inner ++ .stop x.stop :: es)

namespace Balanced

variable {es es' inner : List Event}

theorem one {e : Event} (isLeaf : e.isLeaf) : Balanced [e] := .leaf isLeaf .nil

theorem around (x : Element) (within : Balanced inner) : Balanced (x.around inner) :=
  .element within .nil

theorem append (h : Balanced es) (h' : Balanced es') : Balanced (es ++ es') := by
  induction h with
  | nil => exact h'
  | leaf isLeaf rest ih => exact .leaf isLeaf ih
  | element within rest _ ih =>
    rw [List.append_assoc, List.cons_append]
    exact .element within ih

theorem flatMap {α : Type} {f : α → List Event} {as : List α} (h : ∀ a ∈ as, Balanced (f a)) :
    Balanced (as.flatMap f) := by
  induction as with
  | nil => exact .nil
  | cons a as ih =>
    rw [List.forall_mem_cons] at h
    rw [List.flatMap_cons]
    exact h.1.append (ih h.2)

end Balanced

end Stencil.Markdown
