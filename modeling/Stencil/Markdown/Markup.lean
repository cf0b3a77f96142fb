import Stencil.Decimal.Layout
import Stencil.Markdown.Character
import Stencil.Text.Bytes

/-!
# Markup

- `Attribute`, `Mark`: the pieces of HTML.
- `Mark.written`, `Mark.print`: how pieces are written.
-/

namespace Stencil.Markdown

/-! ## Escapes -/

namespace Escape

/-- The entity of a character that has a meaning in the text of an element. -/
def bodyEntity (c : Char) : List Char :=
  if c = '&' then "&amp;".toList
  else if c = '<' then "&lt;".toList
  else if c = '>' then "&gt;".toList
  else [c]

/-- The entity of a character that has a meaning in an attribute. -/
def attributeEntity (c : Char) : List Char :=
  if c = '"' then "&quot;".toList
  else if c = '\'' then "&#39;".toList
  else bodyEntity c

/-- The characters that an address keeps. -/
def isPlain (c : Char) : Bool :=
  isAlphanumeric c ||
    [
      '!', '#', '$', '%', '(', ')', '*', '+', ',', '-', '.', '/', ':', ';', '=', '?', '@', '_', '~'
    ].contains c

/-- A hexadecimal digit. -/
def hexDigit (n : Nat) : Char :=
  if n < 10 then Char.ofNat ('0'.toNat + n) else Char.ofNat ('A'.toNat + (n - 10))

/-- A byte behind a percent sign. -/
def percent (n : Nat) : List Char := ['%', hexDigit (n / 16), hexDigit (n % 16)]

/-- How a character is written in an address. -/
def addressEntity (c : Char) : List Char :=
  if isPlain c then [c]
  else if c = '&' then "&amp;".toList
  else if c = '\'' then "&#x27;".toList
  else (String.singleton c).toUTF8.toList.flatMap fun b => percent b.toNat

end Escape

/-! ## Pieces -/

/-- An attribute of a tag. -/
inductive Attribute where
  | plain (name value : List Char)
  /-- An attribute whose value is an address. -/
  | address (name value : List Char)
deriving DecidableEq

/-- A piece of HTML. -/
inductive Mark where
  | opening (name : String) (attributes : List Attribute)
  | closing (name : String)
  /-- A tag without a closing one; what is written between its attributes and `/>`. -/
  | empty (name : String) (attributes : List Attribute) (gap : List Char)
  | text (cs : List Char)
  /-- HTML as it stands. -/
  | raw (cs : List Char)
  /-- The end of a line. -/
  | newline
deriving DecidableEq

/-- An attribute as it is written behind the name of a tag. -/
def Attribute.text : Attribute → List Char
  | .plain name value =>
    ' ' :: name.flatMap Escape.attributeEntity ++
      ['=', '"'] ++ value.flatMap Escape.attributeEntity ++ ['"']
  | .address name value => ' ' :: name ++ ['=', '"'] ++ value.flatMap Escape.addressEntity ++ ['"']

namespace Mark

/-- How a piece is written. -/
def written : Mark → List Char
  | .opening name attributes => '<' :: name.toList ++ attributes.flatMap Attribute.text ++ ['>']
  | .closing name => '<' :: '/' :: name.toList ++ ['>']
  | .empty name attributes gap =>
    '<' :: name.toList ++ attributes.flatMap Attribute.text ++ gap ++ ['/', '>']
  | .text cs => cs.flatMap Escape.bodyEntity
  | .raw cs => cs
  | .newline => ['\n']

/-- The text of some pieces. -/
def print (ms : List Mark) : List Char := ms.flatMap written

theorem print_cons (m : Mark) (ms : List Mark) : print (m :: ms) = m.written ++ print ms :=
  List.flatMap_cons

end Mark

end Stencil.Markdown
