import Stencil.Markdown.Event
import Stencil.Markdown.Entity
import Stencil.Text.LetterCase

/-!
# Links and their definitions

- `Label.read?`, `Label.key`: labels in brackets, and what they are compared by.
- `Target.destination?`, `Target.title?`: the parts of a link.
- `Target.inline?`: a destination and a title in parentheses.
- `Definition.read?`: a definition such as `[label]: destination "title"`.
- `Definition.stripAll`: the definitions at the start of a paragraph, and the rest.
-/

namespace Stencil.Markdown

/-! ## Labels -/

namespace Label

/-- The text up to the closing bracket, and what follows. Brackets in it must be escaped. -/
def scan : List Char → Option (List Char × List Char)
  | [] => none
  | '[' :: _ => none
  | ']' :: rest => some ([], rest)
  | '\\' :: c :: cs =>
    if isAsciiPunctuation c then (scan cs).map fun r => ('\\' :: c :: r.1, r.2)
    else (scan (c :: cs)).map fun r => ('\\' :: r.1, r.2)
  | c :: cs => (scan cs).map fun r => (c :: r.1, r.2)

/-- Reads a label behind its opening bracket. It has a character that is no blank, and at most 999
in all. -/
def read? (cs : List Char) : Option (List Char × List Char) :=
  (scan cs).filter fun r => r.1.any (!isGap ·) && r.1.length ≤ 999

/-- The words of a text. -/
def words (cs : List Char) : List (List Char) :=
  (cs.splitBy fun a b => isGap a == isGap b).filter fun w => !w.any isGap

/-- The words of a label with one space between them. -/
def collapse (cs : List Char) : List Char := [' '].intercalate (words cs)

/-- What labels are compared by: their words, up to the case of letters. -/
def key (cs : List Char) : String :=
  Text.lower (Text.upper (Text.lower (String.ofList (collapse cs))))

end Label

/-! ## Targets -/

namespace Target

/-- A destination behind `<`. -/
def bracketed? : List Char → Option (List Char × List Char)
  | [] => none
  | '\n' :: _ => none
  | '<' :: _ => none
  | '>' :: rest => some ([], rest)
  | '\\' :: c :: cs =>
    if isAsciiPunctuation c then (bracketed? cs).map fun r => ('\\' :: c :: r.1, r.2)
    else (bracketed? (c :: cs)).map fun r => ('\\' :: r.1, r.2)
  | c :: cs => (bracketed? cs).map fun r => (c :: r.1, r.2)

/-- A destination without brackets inside of some parentheses: it ends at a blank, a control
character or a parenthesis that closes none of its own. -/
def plain? (most : Nat) : Nat → List Char → Option (List Char × List Char)
  | 0, [] => some ([], [])
  | _ + 1, [] => none
  | depth, '\\' :: c :: cs =>
    if isAsciiPunctuation c then (plain? most depth cs).map fun r => ('\\' :: c :: r.1, r.2)
    else (plain? most depth (c :: cs)).map fun r => ('\\' :: r.1, r.2)
  | depth, '(' :: cs =>
    if most < depth then none else (plain? most (depth + 1) cs).map fun r => ('(' :: r.1, r.2)
  | 0, ')' :: cs => some ([], ')' :: cs)
  | depth + 1, ')' :: cs => (plain? most depth cs).map fun r => (')' :: r.1, r.2)
  | depth, c :: cs =>
    if c.toNat ≤ 0x20 then (if depth = 0 then some ([], c :: cs) else none)
    else (plain? most depth cs).map fun r => (c :: r.1, r.2)

/-- The destination at the start of a text, as it is written, and what follows. -/
def destination? (most : Nat) : List Char → Option (List Char × List Char)
  | '<' :: cs => bracketed? cs
  | cs => plain? most 0 cs

/-- A title up to its closing mark; the opening one may not occur in it. -/
def quoted? (opening closing : Char) : List Char → Option (List Char × List Char)
  | [] => none
  | '\\' :: c :: cs =>
    if isAsciiPunctuation c then (quoted? opening closing cs).map fun r => ('\\' :: c :: r.1, r.2)
    else (quoted? opening closing (c :: cs)).map fun r => ('\\' :: r.1, r.2)
  | c :: cs =>
    if c = closing then some ([], cs)
    else if c = opening then none
    else (quoted? opening closing cs).map fun r => (c :: r.1, r.2)

/-- The title at the start of a text, as it is written, and what follows. -/
def title? : List Char → Option (List Char × List Char)
  | '"' :: cs => quoted? '"' '"' cs
  | '\'' :: cs => quoted? '\'' '\'' cs
  | '(' :: cs => quoted? '(' ')' cs
  | _ => none

/-- A text without the blanks at its start, among them at most one end of a line. -/
def skipGap (cs : List Char) : List Char :=
  match trimLeft cs with
  | '\n' :: rest => trimLeft rest
  | rest => rest

/-- A destination and perhaps a title in parentheses, behind the opening one. -/
def inline? (cs : List Char) : Option (Target × List Char) := do
  let (url, cs) ← destination? 32 (skipGap cs)
  let cs := skipGap cs
  let (title, cs) := (title? cs).getD ([], cs)
  match skipGap cs with
  | ')' :: rest => some (⟨unescape url, unescape title⟩, rest)
  | _ => none

end Target

/-! ## Definitions -/

/-- The target of a label. -/
structure Definition where
  label : List Char
  target : Target

namespace Definition

/-- What follows the end of the line, if only blanks come before it. -/
def lineEnd? (cs : List Char) : Option (List Char) :=
  match trimLeft cs with
  | [] => some []
  | '\n' :: rest => some rest
  | _ => none

/-- Reads a definition, and gives what follows its last line. A title that does not end its line
does not belong to the definition, which then ends before it. -/
def read? : List Char → Option (Definition × List Char)
  | '[' :: cs => do
    let (label, cs) ← Label.read? cs
    let cs ← after? [':'] cs
    let start := Target.skipGap cs
    let (url, cs) ← Target.destination? 1 start
    if url.isEmpty && start.head? != some '<' then none
    else
      let bare := (lineEnd? cs).map fun rest => (⟨label, ⟨unescape url, []⟩⟩, rest)
      let next := Target.skipGap cs
      if next.length = cs.length then bare
      else match Target.title? next with
        | none => bare
        | some (title, cs) =>
          match lineEnd? cs with
          | some rest => some (⟨label, ⟨unescape url, unescape title⟩⟩, rest)
          | none => bare
  | _ => none

/-- The definitions at the start of a paragraph, and the rest of it. The first argument bounds
their number. -/
def stripAll : Nat → List Char → List Definition × List Char
  | 0, cs => ([], cs)
  | n + 1, cs =>
    match read? cs with
    | none => ([], cs)
    | some (d, rest) =>
      let (ds, rest) := stripAll n rest
      (d :: ds, rest)

end Definition

end Stencil.Markdown
