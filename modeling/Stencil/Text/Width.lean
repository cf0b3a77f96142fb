import Stencil.Text.Ranges
import Stencil.Text.Width.Table

/-!
# The columns taken by a text

A measure after the documentation of the package `unicode-width`. A text is measured from its end,
because what follows a character decides how wide it is: a selector turns it into a picture, a
joiner merges it into the picture after it, and some letters merge with the next one. Results that
depend on the columns of texts are stated for every measure; this one is for printing.

- `Width.Following`: what the part already measured begins with.
- `Width.place`: the columns that a character adds in front of it.
- `Text.width`: the columns of a text.
-/

namespace Stencil.Text

namespace Width

/-- What a measured text begins with, as far as the character before it is concerned. -/
inductive Following where
  /-- Nothing that matters. -/
  | plain
  /-- A line feed. -/
  | lineFeed
  /-- The selector of the picture form; `joined` if a joined picture follows it. -/
  | pictureSelector (joined : Bool)
  /-- The selector of the text form. -/
  | textSelector
  /-- A picture. -/
  | picture
  /-- A joiner with a picture behind it. -/
  | joinedPicture
  /-- A skin tone; `joined` if it belongs to a joined picture. -/
  | skinTone (joined : Bool)
  /-- An Arabic alef. -/
  | alef
  /-- A Hebrew lamed; `joined` once a joiner stands before it. -/
  | lamed (joined : Bool)
  /-- A Khmer letter that can be subscribed. -/
  | khmerLetter
  /-- A Tifinagh consonant; `joined` once a joiner stands before it. -/
  | tifinagh (joined : Bool)
  /-- A Buginese ya; `joined` once a joiner stands before it, and then `vowel` once an i does. -/
  | buginese (joined vowel : Bool)
  /-- A Lisu tone letter that ends a combination of two. -/
  | lisu
  /-- An Orkhon i; `joined` once a joiner stands before it. -/
  | orkhon (joined : Bool)
deriving DecidableEq

/-- The columns of a character on its own. -/
def alone (n : Nat) : Nat :=
  if inRanges zero n then 0 else if inRanges wide n then 2 else 1

/-- Has a picture form that a selector chooses. -/
def hasPicture (n : Nat) : Bool :=
  inRanges emojiBase n && !(0x1F1E6 ≤ n && n ≤ 0x1F1FF) && !(0x1F3FB ≤ n && n ≤ 0x1F3FF)

/-- An alef of the Arabic script. -/
def isAlef (n : Nat) : Bool :=
  n == 0x622 || n == 0x623 || n == 0x625 || n == 0x627 || (0x671 ≤ n && n ≤ 0x673) || n == 0x675 ||
    n == 0x773 || n == 0x774 || (0x870 ≤ n && n ≤ 0x882)

/-- A lam of the Arabic script. -/
def isLam (n : Nat) : Bool :=
  n == 0x644 || (0x6B5 ≤ n && n ≤ 0x6B8) || n == 0x76A || n == 0x8A6 || n == 0x8C7

/-- A Khmer letter that a coeng sign subscribes. -/
def isKhmerLetter (n : Nat) : Bool :=
  (0x1780 ≤ n && n ≤ 0x1782) || n == 0x1784 || (0x1786 ≤ n && n ≤ 0x1788) || n == 0x178A ||
    (0x178C ≤ n && n ≤ 0x1793) || (0x1795 ≤ n && n ≤ 0x17A2) || (0x17A7 ≤ n && n ≤ 0x17B3)

/-- A Tifinagh consonant. -/
def isTifinagh (n : Nat) : Bool := (0x2D31 ≤ n && n ≤ 0x2D65) || n == 0x2D6F

/-- What a character taken on its own leaves for the one before it. -/
def leaves (n : Nat) : Following :=
  if 0x1F3FB ≤ n && n ≤ 0x1F3FF then .skinTone false
  else if inRanges emojiPresentation n && !(0x1F1E6 ≤ n && n ≤ 0x1F1FF) then .picture
  else if isAlef n then .alef
  else if n == 0x5DC then .lamed false
  else if isKhmerLetter n then .khmerLetter
  else if isTifinagh n then .tifinagh false
  else if n == 0x1A10 then .buginese false false
  else if n == 0xA4FC || n == 0xA4FD then .lisu
  else if n == 0x10C03 then .orkhon false
  else .plain

/-- The selectors are placed in front of anything. -/
def placeSelector (n : Nat) (f : Following) : Option (Int × Following) :=
  if n == 0xFE0F then some (0, .pictureSelector (f == .joinedPicture))
  else if n == 0xFE0E then some (0, .textSelector)
  else none

/-- The character merges with what follows it. A sign that subscribes a letter takes its column
away. -/
def merge (n : Nat) : Following → Option (Int × Following)
  | .pictureSelector joined =>
    if hasPicture n then some (if joined then 0 else 2, .picture) else none
  | .textSelector =>
    if inRanges emojiPresentation n && !(0x1F200 ≤ n && n ≤ 0x1F2FF) then some (1, .plain) else none
  | .picture => if n == 0x200D then some (0, .joinedPicture) else none
  | .skinTone joined =>
    if inRanges emojiModifierBase n then some (0, .picture)
    else if n == 0x200D && !joined then some (0, .joinedPicture)
    else none
  | .joinedPicture =>
    if 0x1F3FB ≤ n && n ≤ 0x1F3FF then some (0, .skinTone true)
    else if inRanges emojiPresentation n && !(0x1F1E6 ≤ n && n ≤ 0x1F1FF) then some (0, .picture)
    else none
  | .alef =>
    if isLam n then some (0, .plain)
    else if inRanges zero n && n != 0x200D then some (0, .alef)
    else none
  | .lamed joined =>
    if n == 0x200D then some (0, .lamed true)
    else if n == 0x5D0 && joined then some (0, .plain)
    else none
  | .khmerLetter => if n == 0x17D2 then some (-1, .plain) else none
  | .tifinagh joined =>
    if n == 0x200D || n == 0x2D7F then some (0, .tifinagh true)
    else if joined && isTifinagh n then some (0, .tifinagh false)
    else none
  | .buginese joined vowel =>
    if n == 0x200D && !vowel then some (0, .buginese true false)
    else if n == 0x1A17 && joined && !vowel then some (0, .buginese true true)
    else if n == 0x1A15 && vowel then some (0, .plain)
    else none
  | .lisu => if 0xA4F8 ≤ n && n ≤ 0xA4FB then some (0, .plain) else none
  | .orkhon joined =>
    if n == 0x200D then some (0, .orkhon true)
    else if n == 0x10C32 && joined then some (0, .plain)
    else none
  | .plain | .lineFeed => none

/-- The columns that a character adds in front of a measured text, and what the longer text begins
with. A line feed takes no column, nor does a carriage return before it. -/
def place (c : Char) (f : Following) : Int × Following :=
  let n := c.toNat
  match f, merge n f with
  | .pictureSelector _, some r => r
  | _, m =>
    if n == 0x0A then (0, .lineFeed)
    else if n == 0x0D && f == .lineFeed then (0, .plain)
    else if n ≤ 0xA0 then (1, .plain)
    else match placeSelector n f, m with
      | some r, _ => r
      | none, some r => r
      | none, none => (alone n, leaves n)

/-- The columns of a text and what it begins with. -/
def measure : List Char → Nat × Following
  | [] => (0, .plain)
  | c :: cs =>
    let (w, f) := measure cs
    let (v, g) := place c f
    ((w + v).toNat, g)

end Width

/-- The columns that a text takes. -/
def width (cs : List Char) : Nat := (Width.measure cs).1

end Stencil.Text
