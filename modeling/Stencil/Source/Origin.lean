import Stencil.Digest
import Stencil.Text.Bytes

/-!
# Places in templates

- `Origin`: a template, a line and a column, the latter two counted from one.
- `Origin.identityOf`: the name of a template, or a digest of its source.
- `Origin.locate`: the line and the column of the end of a text.
- `Origin.at?`: the place of an offset; `none` inside a character or beyond the end.

Specification: section E2; `Origin.identity` and `Origin.new`.
-/

namespace Stencil

/-- A place in a template. -/
structure Origin where
  identity : String
  line : Nat
  column : Nat
deriving DecidableEq

namespace Origin

/-- A named template is known by its name, another one by eight bytes of the digest of its
source. -/
def identityOf (name : Option String) (source : String) : String :=
  name.getD (Digest.hexOf source 8)

/-- The line and the column behind a text: a line feed begins a line, any other character takes a
column. -/
def locate (cs : List Char) : Nat × Nat :=
  cs.foldl (fun p c => if c = '\n' then (p.1 + 1, 1) else (p.1, p.2 + 1)) (1, 1)

/-- The place of a byte offset. -/
def at? (identity source : String) (offset : Nat) : Option Origin :=
  (Text.takeBytes offset source.toList).map fun before =>
    ⟨identity, (locate before).1, (locate before).2⟩

/-- The place as text. -/
def text (o : Origin) : String :=
  o.identity ++ ":" ++ toString o.line ++ ":" ++ toString o.column

end Origin

end Stencil
