import Stencil.Decimal.Reading
import Stencil.Markdown.Character
import Stencil.Markdown.Entity.Table

/-!
# Character references

- `Entity.named?`: the characters of a name.
- `Entity.read?`: reads a reference such as `amp;` or `#65;` behind its ampersand.
- `unescape`: a text with its backslash escapes and character references resolved.
-/

namespace Stencil.Markdown

namespace Entity

/-- The value of a hexadecimal digit. -/
def hexDigit? (c : Char) : Option Nat :=
  if c.isDigit then some (c.toNat - '0'.toNat)
  else if 'a' ≤ c && c ≤ 'f' then some (c.toNat - 'a'.toNat + 10)
  else if 'A' ≤ c && c ≤ 'F' then some (c.toNat - 'A'.toNat + 10)
  else none

/-- The number with the given hexadecimal digits. -/
def ofHex (cs : List Char) : Nat := cs.foldl (fun n c => 16 * n + (hexDigit? c).getD 0) 0

/-- The names with their characters. -/
def entries : List (String × List Char) :=
  names.flatMap fun line => pairUp (line.splitOn " ")
where
  /-- Names and characters in turn. -/
  pairUp : List String → List (String × List Char)
    | name :: code :: rest =>
      (name, (code.splitOn ".").map fun n => Char.ofNat (ofHex n.toList)) :: pairUp rest
    | _ => []

/-- The characters of a name. -/
def named? (name : List Char) : Option (List Char) := entries.lookup (String.ofList name)

/-- The character of a number; zero stands for the replacement character. -/
def numbered? (n : Nat) : Option Char :=
  if n = 0 then some '�' else if n.isValidChar then some (Char.ofNat n) else none

/-- The number at the start of a text, of at most so many digits, followed by a semicolon. -/
def number? (isDigit : Char → Bool) (most : Nat) (value : List Char → Nat) (cs : List Char) :
    Option (List Char × List Char) :=
  let ds := cs.takeWhile isDigit
  if ds.isEmpty || most < ds.length then none
  else match cs.dropWhile isDigit with
    | ';' :: rest => (numbered? (value ds)).map fun c => ([c], rest)
    | _ => none

/-- Reads a reference behind its ampersand. -/
def read? : List Char → Option (List Char × List Char)
  | '#' :: 'x' :: cs => number? (fun c => (hexDigit? c).isSome) 6 ofHex cs
  | '#' :: 'X' :: cs => number? (fun c => (hexDigit? c).isSome) 6 ofHex cs
  | '#' :: cs => number? Char.isDigit 7 Decimal.ofDigits cs
  | cs =>
    match cs.dropWhile isAlphanumeric with
    | ';' :: rest => (named? (cs.takeWhile isAlphanumeric)).map fun found => (found, rest)
    | _ => none

end Entity

/-- Resolves escapes and references. The first argument bounds the number of steps. -/
def unescapeWithin : Nat → List Char → List Char
  | 0, cs => cs
  | _ + 1, [] => []
  | n + 1, '\\' :: c :: cs =>
    if isAsciiPunctuation c then c :: unescapeWithin n cs
    else '\\' :: unescapeWithin n (c :: cs)
  | n + 1, '&' :: cs =>
    match Entity.read? cs with
    | some (found, rest) => found ++ unescapeWithin n rest
    | none => '&' :: unescapeWithin n cs
  | n + 1, c :: cs => c :: unescapeWithin n cs

/-- The text with its backslash escapes and character references resolved. -/
def unescape (cs : List Char) : List Char := unescapeWithin cs.length cs

end Stencil.Markdown
