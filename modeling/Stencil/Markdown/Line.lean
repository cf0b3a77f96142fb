import Stencil.Markdown.Character

/-!
# Lines of markdown

Blocks are told apart line by line, by the columns at which the text of a line begins. Tabs reach to
the next column that is a multiple of four, and may be used up in parts.

- `Line`: the rest of a line from a column on.
- `Line.indent`, `Line.skip`, `Line.unindented`: the blanks at its start.
- `Line.drop`: the line behind some characters.
- `lines`: the lines of a text.
-/

namespace Stencil.Markdown

/-- The rest of a line. -/
structure Line where
  /-- The column at which the characters begin. -/
  column : Nat
  /-- The columns of a tab before it that has been used up in part. -/
  spare : Nat
  chars : List Char
  /-- A line feed ends the line, and not the end of the text. -/
  ended : Bool

namespace Line

/-- A whole line. -/
def ofChars (chars : List Char) (ended : Bool) : Line := ⟨0, 0, chars, ended⟩

/-- The columns that a tab takes. -/
def tabWidth (column : Nat) : Nat := 4 - column % 4

/-- The columns of the blanks at the start of a text. -/
def blankWidth (column : Nat) : List Char → Nat
  | ' ' :: cs => 1 + blankWidth (column + 1) cs
  | '\t' :: cs => tabWidth column + blankWidth (column + tabWidth column) cs
  | _ => 0

/-- The columns of the blanks at the start of the line. -/
def indent (l : Line) : Nat := l.spare + blankWidth l.column l.chars

/-- Blanks of some columns taken off a text: the column reached, what is left of a tab, and the
rest. -/
def skipColumns : Nat → Nat → List Char → Nat × Nat × List Char
  | 0, column, cs => (column, 0, cs)
  | _ + 1, column, [] => (column, 0, [])
  | n + 1, column, c :: cs =>
    if c = ' ' then skipColumns n (column + 1) cs
    else if c = '\t' then
      let w := tabWidth column
      if n + 1 < w then (column + w, w - (n + 1), cs)
      else skipColumns (n + 1 - w) (column + w) cs
    else (column, 0, c :: cs)
termination_by n _ cs => (cs.length, n)

/-- The line without blanks of some columns at its start. -/
def skip (n : Nat) (l : Line) : Line :=
  if n ≤ l.spare then { l with spare := l.spare - n }
  else
    let (column, spare, chars) := skipColumns (n - l.spare) l.column l.chars
    { l with column, spare, chars }

/-- The line without the blanks at its start. -/
def unindented (l : Line) : Line := l.skip l.indent

/-- The line behind some characters, none of them a tab. -/
def drop (n : Nat) (l : Line) : Line := { l with column := l.column + n, chars := l.chars.drop n }

/-- The text of the line. -/
def text (l : Line) : List Char := List.replicate l.spare ' ' ++ l.chars

/-- The text of the line with the line feed that ends it. -/
def fullText (l : Line) : List Char := l.text ++ (if l.ended then ['\n'] else [])

/-- The line holds blanks only. -/
def isBlank (l : Line) : Bool := l.chars.all isSpace

end Line

/-- The lines of a text. A carriage return ends a line too, alone or before a line feed. -/
def lines : List Char → List Line
  | [] => []
  | c :: cs =>
    if c = '\n' then .ofChars [] true :: lines cs
    else if c = '\r' then
      match cs with
      | '\n' :: rest => .ofChars [] true :: lines rest
      | rest => .ofChars [] true :: lines rest
    else match lines cs with
      | [] => [.ofChars [c] false]
      | l :: ls => { l with chars := c :: l.chars } :: ls

end Stencil.Markdown
