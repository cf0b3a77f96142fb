import Stencil.Markdown.Inlines
import Stencil.Markdown.Outline
import Stencil.Markdown.Writer

/-!
# A library of markdown

The library that a program runs with. Results about markdown are stated for every library, and this
one has the properties that they ask for.

- `CommonMark.read`: the blocks of a text.
- `commonMark`: the library.
-/

namespace Stencil.Markdown

/-- The blocks of a text. The character without a meaning is replaced first. -/
def CommonMark.read (text : String) (extensions : Extensions) : List (Block (List Inline)) :=
  let cs := text.toList.map fun c => if c = '\x00' then '\ufffd' else c
  let outline := Outline.ofLines extensions (lines cs)
  let refs := References.of extensions outline.definitions.reverse outline.footnotes
  Block.mapAll (Inline.ofText refs) outline.children.reverse

/-- The library that a program runs with. -/
def commonMark : Library where
  events extensions text := Block.eventsAll false (CommonMark.read text extensions)
  html es := String.ofList (Mark.print (Writer.document es))

end Stencil.Markdown
