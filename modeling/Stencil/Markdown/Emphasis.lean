import Stencil.Markdown.Character
import Stencil.Markdown.Document

/-!
# Emphasis

Rows of asterisks, underscores and tildes open and close emphasis, depending on what stands beside
them. Once all rows of a text are known, each one that closes is paired with the nearest one before
it that opens.

- `Run`: a row of equal marks.
- `Run.read`: what a row may do, by the characters beside it.
- `Run.pairs`: a row closes another one.
- `Piece`: an inline element, a row or a bracket.
- `Piece.resolve`: the inline elements of some pieces.
-/

namespace Stencil.Markdown

/-- A row of equal marks. -/
structure Run where
  mark : Char
  /-- The number of marks in the text. -/
  total : Nat
  /-- The number of marks that are not yet used. -/
  left : Nat
  opens : Bool
  closes : Bool
deriving DecidableEq

/-- A part of a text of which the inline elements are not yet known. -/
inductive Piece where
  | inline (i : Inline)
  | run (r : Run)
  /-- An opening bracket, with the text behind it. Links do not contain links, and so a bracket
  before a link is no longer active. -/
  | bracket (isImage active : Bool) (after : List Char)

namespace Run

/-- A character beside which a row may end a word. -/
def isEdge : Option Char → Bool
  | none => true
  | some c => Text.isBlank c || isPunctuation c

/-- A row faces a character within a word or at its other side. Asterisks and several tildes may
do so inside of words. -/
def faces (mark : Char) (count : Nat) (behind ahead : Option Char) : Bool :=
  match ahead with
  | none => false
  | some c =>
    !Text.isBlank c &&
      ((mark == '*' || (mark == '~' && 1 < count)) && !isPunctuation c ||
        isEdge behind ||
        (mark == '~' && behind == some '~'))

/-- A row between two characters. -/
def read (mark : Char) (count : Nat) (before after : Option Char) : Run :=
  ⟨mark, count, count, faces mark count before after, faces mark count after before⟩

/-- The marks that are not yet used. -/
def text (r : Run) : List Char := List.replicate r.left r.mark

/-- A row may both open and close. -/
def isBoth (r : Run) : Bool := r.opens && r.closes

/-- A row closes another one. Tildes are paired with as many. If one of the rows may both open and
close, the marks of both are not a multiple of three in all, unless each is. -/
def pairs (opener closer : Run) : Bool :=
  opener.opens && opener.mark == closer.mark &&
    (opener.mark != '~' || opener.total == closer.total) &&
    ((!opener.isBoth && !closer.isBoth) || (opener.total + closer.total) % 3 != 0 ||
      closer.total % 3 == 0)

end Run

namespace Piece

/-- The inline elements of some pieces, with rows and brackets as they are written. -/
def plain (ps : List Piece) : List Inline :=
  ps.map fun p =>
    match p with
    | .inline i => i
    | .run r => .text r.text
    | .bracket isImage _ _ => .text (if isImage then ['!', '['] else ['['])

/-- The text between so many marks on each side. -/
def wrap (mark : Char) : Nat → List Inline → List Inline
  | 0, body => body
  | 1, body => [if mark = '~' then .strike body else .emphasis body]
  | n + 2, body => wrap mark n [if mark = '~' then .strike body else .strong body]

/-- The nearest row that a row closes, with the pieces behind it and before it, in reverse. -/
def opener? (closer : Run) : List Piece → Option (List Piece × Run × List Piece)
  | [] => none
  | .run r :: ps =>
    if r.pairs closer then some ([], r, ps)
    else (opener? closer ps).map fun (inner, o, before) => (.run r :: inner, o, before)
  | p :: ps => (opener? closer ps).map fun (inner, o, before) => (p :: inner, o, before)

/-- Uses the marks of a row to close rows among the pieces before it, which are in reverse. The
first argument bounds the number of rows. -/
def close : Nat → Run → List Piece → Run × List Piece
  | 0, r, before => (r, before)
  | n + 1, r, before =>
    if r.left = 0 then (r, before)
    else match opener? r before with
      | none => (r, before)
      | some (inner, o, before) =>
        let used := min r.left o.left
        let body := (wrap r.mark used (plain inner.reverse)).map Piece.inline
        let before := if used < o.left then .run { o with left := o.left - used } :: before
          else before
        close n { r with left := r.left - used } (body ++ before)

/-- Adds a piece to the ones before it, which are in reverse. -/
def add (before : List Piece) : Piece → List Piece
  | .run r =>
    let (r, before) := if r.closes then close r.left r before else (r, before)
    if r.left = 0 then before
    else if r.opens then .run r :: before
    else .inline (.text r.text) :: before
  | p => p :: before

/-- The inline elements of some pieces. -/
def resolve (ps : List Piece) : List Inline := plain (ps.foldl add []).reverse

end Piece

end Stencil.Markdown
