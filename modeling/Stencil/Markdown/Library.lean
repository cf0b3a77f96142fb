import Stencil.Markdown.Event
import Stencil.Markdown.Flavor
import Stencil.Markdown.Markup

/-!
# Libraries of markdown

Texts are read, and HTML is written, by a library. It is a parameter: nothing is known of it but
what its documentation says. The conversion relies on four properties, which are those that the
package `pulldown-cmark` (version 0.13) documents.

- `Library`: the two functions of a library.
- `Event.marks`: the tags and texts that an event stands for.
- `Written`: some pieces are the HTML of a document.
- `Library.Balances`: the elements of a document are nested.
- `Library.ReadsAttributes`: headings carry attributes only where these are turned on.
- `Library.ReadsMail`: a link to electronic mail leads to an address.
- `Library.WritesHtml`: the HTML of a document consists of what its events stand for.
-/

namespace Stencil.Markdown

/-- A library of markdown. -/
structure Library where
  /-- The events of a text, given the constructs that are turned on. -/
  events : Extensions → String → List Event
  /-- The HTML of a document. -/
  html : List Event → String

/-! ## What events stand for -/

/-- The attributes of a heading. -/
def Attributes.list (a : Attributes) : List Attribute :=
  (a.id.map fun id => .plain ['i', 'd'] id).toList ++
    (if a.classes.isEmpty then []
      else [.plain ['c', 'l', 'a', 's', 's'] ([' '].intercalate a.classes)]) ++
    a.others.map fun (name, value) => .plain name (value.getD [])

/-- The attribute of a title, if there is one. -/
def Target.titles (t : Target) : List Attribute :=
  if t.title.isEmpty then [] else [.plain ['t', 'i', 't', 'l', 'e'] t.title]

/-- What is written before the address of a link. -/
def LinkKind.scheme : LinkKind → List Char
  | .email => "mailto:".toList
  | _ => []

/-- The attributes of a cell. -/
def Alignment.style (a : Alignment) : List Attribute :=
  let of (side : String) : List Attribute :=
    [.plain ['s', 't', 'y', 'l', 'e'] ("text-align: ".toList ++ side.toList)]
  match a with
  | .none => []
  | .left => of "left"
  | .center => of "center"
  | .right => of "right"

/-- The class of an element. -/
def classOf (name : String) : List Attribute := [.plain ['c', 'l', 'a', 's', 's'] name.toList]

/-- The attributes of code. The first word behind its fence is the language. -/
def language (info : Option (List Char)) : List Attribute :=
  match (info.getD []).takeWhile (· != ' ') with
  | [] => []
  | name => [.plain ['c', 'l', 'a', 's', 's'] ("language-".toList ++ name)]

/-- The number of the first item of a list, unless it is one. -/
def numbering : Option Nat → List Attribute
  | none => []
  | some 1 => []
  | some n => [.plain ['s', 't', 'a', 'r', 't'] (toString n).toList]

/-- The attributes of the box of a task. -/
def box (isTicked : Bool) : List Attribute :=
  ([("disabled", ""), ("type", "checkbox")] ++ if isTicked then [("checked", "")] else []).map
    fun (name, value) => .plain name.toList value.toList

/-- What an event does not say by itself: the number of the footnote that it mentions, and the row
and the column of a cell. -/
structure Setting where
  number : List Char
  inHead : Bool
  alignment : Alignment

/-- The element of a cell. -/
def Setting.cell (s : Setting) : String := if s.inHead then "th" else "td"

/-- What is raised above a line. -/
def raised (name : String) (inner : List Mark) : List Mark :=
  .opening "sup" (classOf name) :: inner ++ [.closing "sup"]

/-- The tags that begin an element. An image is written as a whole. -/
def Element.marks (s : Setting) : Element → List Mark
  | .paragraph => [.opening "p" []]
  | .heading level a => [.opening level.name a.list]
  | .quote => [.opening "blockquote" []]
  | .code info => [.opening "pre" [], .opening "code" (language info)]
  | .html => []
  | .list start => [.opening (if start.isSome then "ol" else "ul") (numbering start)]
  | .item => [.opening "li" []]
  | .footnote label =>
    .opening "div" (classOf "footnote-definition" ++ [.plain ['i', 'd'] label]) ::
      raised "footnote-definition-label" [.text s.number]
  | .table _ => [.opening "table" []]
  | .tableHead => [.opening "thead" [], .opening "tr" []]
  | .tableRow => [.opening "tr" []]
  | .tableCell => [.opening s.cell s.alignment.style]
  | .emphasis => [.opening "em" []]
  | .strong => [.opening "strong" []]
  | .strike => [.opening "del" []]
  | .link kind t =>
    [.opening "a" (.address ['h', 'r', 'e', 'f'] (kind.scheme ++ t.url) :: t.titles)]
  | .image _ _ => []

/-- The tags that end an element. -/
def ElementEnd.marks (s : Setting) : ElementEnd → List Mark
  | .paragraph => [.closing "p"]
  | .heading level => [.closing level.name]
  | .quote => [.closing "blockquote"]
  | .code => [.closing "code", .closing "pre"]
  | .html => []
  | .list isNumbered => [.closing (if isNumbered then "ol" else "ul")]
  | .item => [.closing "li"]
  | .footnote => [.closing "div"]
  | .table => [.closing "tbody", .closing "table"]
  | .tableHead => [.closing "tr", .closing "thead", .opening "tbody" []]
  | .tableRow => [.closing "tr"]
  | .tableCell => [.closing s.cell]
  | .emphasis => [.closing "em"]
  | .strong => [.closing "strong"]
  | .strike => [.closing "del"]
  | .link => [.closing "a"]
  | .image => []

/-- The tags and texts that an event stands for, without the ends of lines. -/
def Event.marks (s : Setting) : Event → List Mark
  | .start x => x.marks s
  | .stop x => x.marks s
  | .text cs => [.text cs]
  | .code cs => [.opening "code" [], .text cs, .closing "code"]
  | .html cs => [.raw cs]
  | .inlineHtml cs => [.raw cs]
  | .footnote label =>
    raised "footnote-reference"
      [.opening "a" [.plain ['h', 'r', 'e', 'f'] ('#' :: label)], .text s.number, .closing "a"]
  | .softBreak => []
  | .hardBreak => [.empty "br" [] [' ']]
  | .rule => [.empty "hr" [] [' ']]
  | .task isTicked => [.empty "input" (box isTicked) []]

/-- The tag of an image, with a description of what stands in it. -/
def Target.image (t : Target) (alt : List Char) : Mark :=
  .empty "img" (.address ['s', 'r', 'c'] t.url :: .plain ['a', 'l', 't'] alt :: t.titles) [' ']

/-- Some pieces are the HTML of a document: those of its events one after the other, with ends of
lines between them. What stands in an image is described in a text. -/
inductive Written : List Event → List Mark → Prop
  | nil : Written [] []
  | newline {es : List Event} {ms : List Mark} (rest : Written es ms) : Written es (.newline :: ms)
  | event {e : Event} {es : List Event} {ms : List Mark} (s : Setting)
      (notImage : ∀ kind t, e ≠ .start (.image kind t)) (rest : Written es ms) :
      Written (e :: es) (e.marks s ++ ms)
  | image {kind : LinkKind} {t : Target} {inner es : List Event} {ms : List Mark} (alt : List Char)
      (within : Balanced inner) (rest : Written es ms) :
      Written (.start (.image kind t) :: inner ++ .stop .image :: es) (t.image alt :: ms)

/-! ## What a library documents -/

/-- A character before the at sign of an address of electronic mail. -/
def inMailbox (c : Char) : Bool :=
  isAlphanumeric c ||
    [
      '.', '!', '#', '$', '%', '&', '\'', '*', '+', '/', '=', '?', '^', '_', '`', '\x7b', '|',
      '\x7d', '~', '-'
    ].contains c

/-- A part of a domain: letters, digits and hyphens, with no hyphen at its ends. -/
def isDomainPart (cs : List Char) : Bool :=
  !cs.isEmpty && cs.length ≤ 63 && cs.all (fun c => isAlphanumeric c || c == '-') &&
    cs.head? != some '-' && cs.getLast? != some '-'

/-- An address of electronic mail. -/
def IsAddress (cs : List Char) : Prop :=
  ∃ mailbox parts, (∀ c ∈ mailbox, inMailbox c) ∧ (∀ part ∈ parts, isDomainPart part) ∧
    cs = mailbox ++ '@' :: ['.'].intercalate parts

namespace Library

variable (L : Library)

/-- The elements of a document are nested. -/
def Balances : Prop := ∀ x text, Balanced (L.events x text)

/-- Headings carry attributes only where these are turned on. -/
def ReadsAttributes : Prop :=
  ∀ (x : Extensions) text level a, x.headingAttributes = false →
    .start (.heading level a) ∈ L.events x text → a = .none

/-- A link to electronic mail leads to an address. -/
def ReadsMail : Prop :=
  ∀ x text t, .start (.link .email t) ∈ L.events x text → IsAddress t.url

/-- The HTML of a document consists of what its events stand for. -/
def WritesHtml : Prop :=
  ∀ es, Balanced es → ∃ ms, Written es ms ∧ L.html es = String.ofList (Mark.print ms)

end Library

end Stencil.Markdown
