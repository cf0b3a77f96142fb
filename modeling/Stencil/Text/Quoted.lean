import Stencil.Text.Quoted.Table
import Stencil.Text.Ranges

/-!
# Quoted text

A text between double quotes in which every character can be told apart: quotes, backslashes and
controls are escaped, and so is a character without a form of its own or one that would join the
character before it.

- `Text.quoted`: the quoted form.
-/

namespace Stencil.Text

namespace Quoted

/-- The character is written as its code point. -/
def needsCode (c : Char) : Bool :=
  let n := c.toNat
  if n < 128 then n < 0x20 || n == 0x7F
  else inRanges graphemeExtend n || inRanges unprintable n

/-- The code point of a character between braces, in hexadecimal. -/
def code (c : Char) : List Char :=
  ['\\', 'u', '\x7b'] ++ Nat.toDigits 16 c.toNat ++ ['\x7d']

/-- The form of one character. -/
def escape (c : Char) : List Char :=
  if c = '\x00' then ['\\', '0']
  else if c = '\t' then ['\\', 't']
  else if c = '\r' then ['\\', 'r']
  else if c = '\n' then ['\\', 'n']
  else if c = '\\' then ['\\', '\\']
  else if c = '"' then ['\\', '"']
  else if needsCode c then code c
  else [c]

end Quoted

/-- The text between double quotes, with escapes. -/
def quoted (s : String) : String :=
  String.ofList ('"' :: s.toList.flatMap Quoted.escape ++ ['"'])

end Stencil.Text
