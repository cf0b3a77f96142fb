import Stencil.Error
import Stencil.Text.Width

/-!
# Errors with an excerpt of the source

- `Error.message`: the wording of an error with its byte offsets.
- `Text.Measure`: how many columns texts take.
- `Excerpt.lines`: the lines of a source; a line feed at the end begins no further line.
- `Excerpt.place`: the line in which an offset lies, counted from zero, and the text before it
  there.
- `Excerpt.render`: the line of the source with the region underlined.
- `Error.reportBy`: the excerpt with the wording, or the wording alone.
- `Error.report`: the same with the measure of this library, `Text.width`.

The functions that cut the source are `none` where an offset is no character boundary.

Specification: section E5; `fmt_pretty` and `to_line_col`.
-/

namespace Stencil

/-- How many columns a text takes on a screen. Terminals do not agree on this, so it is left to the
one who prints an error; a measure may also count the characters. -/
abbrev Text.Measure := List Char → Nat

/-- The wording of an error, with the byte offsets of its place. -/
def Error.message (e : Error) : String :=
  match e.excerpt with
  | none => e.cause.message
  | some x =>
    e.cause.message ++ " between bytes " ++ toString x.span.start ++ " and " ++ toString x.span.stop

namespace Excerpt

/-- The lines of a text, its last part included if it is not empty. -/
def lines : List Char → List (List Char)
  | [] => []
  | c :: cs =>
    if c = '\n' then [] :: lines cs
    else match lines cs with
      | [] => [[c]]
      | l :: ls => (c :: l) :: ls

/-- The number of the line in which an offset lies, and the text before it in that line. Behind the
last line it is the end of that line. -/
def place (offset : Nat) : List (List Char) → Option (Nat × List Char)
  | [] => some (0, [])
  | l :: ls =>
    let n := Text.byteLength l + 1
    if offset < n then (Text.takeBytes offset l).map fun before => (0, before)
    else match ls with
      | [] => some (0, l)
      | l' :: ls' => (place (offset - n) (l' :: ls')).map fun p => (p.1 + 1, p.2)

/-- The columns before a place, none where there are no lines. -/
def column (m : Text.Measure) (ls : List (List Char)) (before : List Char) : Nat :=
  if ls.isEmpty then 0 else m before

/-- `n` spaces. -/
def spaces (n : Nat) : List Char := List.replicate n ' '

/-- The line of the source with the region underlined and a message behind it. -/
def render (m : Text.Measure) (x : Excerpt) (name : Option String) (message : String) :
    Option String := do
  let ls := lines x.source.toList
  let (line, before) ← place x.span.start ls
  let column := column m ls before
  let region ← Text.sliceChars x.span x.source.toList
  let code := (ls[line]?).getD []
  let number := Nat.toDigits 10 (line + 1)
  let margin := '\n' :: ' ' :: spaces number.length
  let head := match name with
    | none => []
    | some n => margin ++ "--> ".toList ++ n.toList ++ ':' :: number ++
        ':' :: Nat.toDigits 10 (column + 1)
  let underline := List.replicate (max 1 (m region)) '^'
  some (String.ofList (head ++ margin ++ " |\n ".toList ++ number ++ " | ".toList ++ code ++
    margin ++ " | ".toList ++ spaces column ++ underline ++ ' ' :: message.toList ++ ['\n']))

end Excerpt

/-- The excerpt of an error with its wording, or the wording alone if it has no place. -/
def Error.reportBy (m : Text.Measure) (e : Error) : Option String :=
  match e.excerpt with
  | none => some e.cause.message
  | some x => x.render m e.template e.cause.message

/-- The excerpt of an error with its wording, with the columns of this library. -/
def Error.report (e : Error) : Option String := e.reportBy Text.width

end Stencil
