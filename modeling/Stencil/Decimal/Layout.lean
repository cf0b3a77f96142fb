import Stencil.Decimal.Binary64
import Stencil.Decimal.Shortest

/-!
# Layouts of numbers

A layout decides how a number with given digits is written.

- `Layout`: where positional notation ends, whether a fraction is always written, how an exponent
  and the numbers without digits look, and which way ties go.
- `Layout.write`: the text of a double.
- `Layout.plain`: the layout of rendered values: never an exponent, no fraction for whole numbers.
- `Layout.document`: the layout of documents: a fraction or an exponent always, positional from
  `10 ^ -5` up to `10 ^ 16`.
- `Layout.inspected`: the layout of inspected values: positional from `10 ^ -4` up to `10 ^ 16`.
-/

namespace Stencil.Decimal

/-- How a number with given digits is written. -/
structure Layout where
  /-- Positional notation begins at this power of ten; without a bound it always applies. -/
  positionalFrom : Option Int
  /-- Positional notation ends below this power of ten. -/
  positionalBelow : Option Int
  /-- Whole numbers are written with `.0`. -/
  fraction : Bool
  /-- Positive exponents are written with a sign. -/
  plusSign : Bool
  tie : Tie

namespace Layout

/-- The layout of rendered values. -/
def plain : Layout := ⟨none, none, false, false, .up⟩

/-- The layout of documents. -/
def document : Layout := ⟨some (-5), some 16, true, true, .toEven⟩

/-- The layout of inspected values. -/
def inspected : Layout := ⟨some (-4), some 16, true, false, .up⟩

/-- The power of ten lies in the positional part of the layout. -/
def isPositional (l : Layout) (power : Int) : Bool :=
  l.positionalFrom.all (· ≤ power) && l.positionalBelow.all (power < ·)

/-- Positional notation: the point stands after the unit digit, zeros fill the gap. -/
def positional (l : Layout) (d : Digits) : List Char :=
  let n := Int.ofNat d.digits.length
  if d.exponent < 0 then
    '0' :: '.' :: List.replicate (-d.exponent - 1).toNat '0' ++ d.digits
  else if n - 1 ≤ d.exponent then
    d.digits ++ List.replicate (d.exponent - n + 1).toNat '0' ++
      (if l.fraction then ['.', '0'] else [])
  else d.digits.take (d.exponent.toNat + 1) ++ '.' :: d.digits.drop (d.exponent.toNat + 1)

/-- Exponent notation: one digit, the others after a point, and the power of ten. -/
def scientific (l : Layout) (d : Digits) : List Char :=
  let mantissa := match d.digits with
    | [] => []
    | [c] => [c]
    | c :: cs => c :: '.' :: cs
  let sign := if d.exponent < 0 then ['-'] else if l.plusSign then ['+'] else []
  mantissa ++ 'e' :: sign ++ Nat.toDigits 10 d.exponent.natAbs

/-- The text of the digits of a positive number. -/
def digits (l : Layout) (d : Digits) : List Char :=
  if l.isPositional d.exponent then l.positional d else l.scientific d

/-- The text of what a double stands for. -/
def writeBinary (l : Layout) : Binary64 → List Char
  | .notANumber => ['N', 'a', 'N']
  | .infinite negative => (if negative then ['-'] else []) ++ ['i', 'n', 'f']
  | .finite negative m q lowest =>
    let sign := if negative then ['-'] else []
    if m == 0 then sign ++ (if l.fraction then ['0', '.', '0'] else ['0'])
    else sign ++ l.digits (shortest l.tie m q lowest)

/-- The text of a double. -/
def write (l : Layout) (x : Float) : String := String.ofList (l.writeBinary (Binary64.ofFloat x))

end Layout

end Stencil.Decimal
