import Stencil.Markdown.Punctuation.Table
import Stencil.Text.Blank
import Stencil.Text.Ranges

/-!
# Characters of markdown

- `isSpace`: the blanks within a line.
- `isLetter`, `isAlphanumeric`, `inScheme`, `isAsciiPunctuation`: classes of ASCII.
- `isPunctuation`: punctuation marks and symbols.
- `trimSpaces`: a text without blanks at its ends.
-/

namespace Stencil.Markdown

/-- The blanks within a line. -/
def isSpace (c : Char) : Bool := c == ' ' || c == '\t' || c == '\x0b' || c == '\x0c'

/-- A blank or the end of a line. -/
def isGap (c : Char) : Bool := isSpace c || c == '\n'

/-- A letter of ASCII. -/
def isLetter (c : Char) : Bool := ('a' ≤ c && c ≤ 'z') || ('A' ≤ c && c ≤ 'Z')

/-- A letter or digit of ASCII. -/
def isAlphanumeric (c : Char) : Bool := isLetter c || c.isDigit

/-- The characters of a scheme. -/
def inScheme (c : Char) : Bool := isAlphanumeric c || c == '+' || c == '-' || c == '.'

/-- A punctuation mark or symbol of ASCII. -/
def isAsciiPunctuation (c : Char) : Bool :=
  '\x21' ≤ c && c ≤ '\x7e' && !isAlphanumeric c

/-- A punctuation mark or symbol. -/
def isPunctuation (c : Char) : Bool :=
  isAsciiPunctuation c || (0x80 ≤ c.toNat && Text.inRanges Punctuation.punctuation c.toNat)

/-- A text without blanks at its start. -/
def trimLeft (cs : List Char) : List Char := cs.dropWhile isSpace

/-- A text without blanks at its end. -/
def trimRight (cs : List Char) : List Char := (cs.reverse.dropWhile isSpace).reverse

/-- A text without blanks at its ends. -/
def trimSpaces (cs : List Char) : List Char := trimRight (trimLeft cs)

/-- The number of times a character stands at the start of a text, and what follows. -/
def takeRun (c : Char) (cs : List Char) : Nat × List Char :=
  let rest := cs.dropWhile (· == c)
  (cs.length - rest.length, rest)

/-- A letter of ASCII in lower case. -/
def lowerAscii (cs : List Char) : List Char := cs.map Char.toLower

/-- What follows a given start of a text. -/
def after? (start cs : List Char) : Option (List Char) :=
  if start.isPrefixOf cs then some (cs.drop start.length) else none

/-- What follows the first occurrence of a text in another one. -/
def afterFirst? (part : List Char) : List Char → Option (List Char)
  | [] => if part.isEmpty then some [] else none
  | c :: cs =>
    match after? part (c :: cs) with
    | some rest => some rest
    | none => afterFirst? part cs

end Stencil.Markdown
