/-!
# The fewest digits that read back

A positive number `m · 2 ^ q` is read back from every decimal in the interval around it that
rounds to it. Of the decimals with the fewest digits in that interval, the nearest one is chosen.

- `Interval`: the number and the ends of its interval, over one denominator.
- `Interval.around`: the interval of `m · 2 ^ q`; its ends belong to it if `m` is even.
- `Digits`: a decimal `d₁.d₂d₃… · 10 ^ exponent`.
- `shortest`: the chosen decimal.
-/

namespace Stencil.Decimal

/-- Which way a tie between two decimals of equal length goes. -/
inductive Tie where
  | up
  | toEven
deriving DecidableEq

/-- A number and the ends of the interval that rounds to it, all over one denominator. -/
structure Interval where
  low : Nat
  value : Nat
  high : Nat
  den : Nat
  closed : Bool

namespace Interval

/-- The interval of `m · 2 ^ q`. Below a power of two the neighbour is only half as far. -/
def around (m : Nat) (q : Int) (lowest : Bool) : Interval :=
  let up := Nat.pow 2 q.toNat
  let down := Nat.pow 2 (-q).toNat
  ⟨(if lowest then 4 * m - 1 else 4 * m - 2) * up, 4 * m * up, (4 * m + 2) * up, 4 * down,
    m % 2 == 0⟩

/-- The fraction `num / 10 ^ …` given over the denominator `den` lies in the interval. -/
def holds (i : Interval) (num den : Nat) : Bool :=
  if i.closed then i.low * den ≤ num * i.den && num * i.den ≤ i.high * den
  else i.low * den < num * i.den && num * i.den < i.high * den

end Interval

/-- The number of decimal digits of a positive number. -/
def digitCount (n : Nat) : Nat := (Nat.toDigits 10 n).length

/-- The power of ten of the first digit of the positive fraction `num / den`. -/
def leadingPower (num den : Nat) : Int :=
  if den ≤ num then Int.ofNat (digitCount (num / den)) - 1
  else -Int.ofNat (digitCount ((den + num - 1) / num - 1))

/-- A decimal: its digits, the first of which counts `10 ^ exponent`. -/
structure Digits where
  digits : List Char
  exponent : Int
deriving DecidableEq

namespace Digits

/-- The decimal `n · 10 ^ power` without the zeros at its end. -/
def ofNat (n : Nat) (power : Int) : Digits :=
  let ds := Nat.toDigits 10 n
  let kept := (ds.reverse.dropWhile (· == '0')).reverse
  ⟨kept, power + Int.ofNat ds.length - 1⟩

end Digits

/-- The decimal nearest to the number among the two neighbours on the grid of `k` digits, if one
of them reads back. -/
def onGrid (i : Interval) (tie : Tie) (first : Int) (k : Nat) : Option Digits :=
  let power := first - (Int.ofNat k - 1)
  let scaleUp := Nat.pow 10 power.toNat
  let scaleDown := Nat.pow 10 (-power).toNat
  let num := i.value * scaleDown
  let den := i.den * scaleUp
  let below := num / den
  let above := below + 1
  let inBelow := i.holds (below * scaleUp) scaleDown
  let inAbove := i.holds (above * scaleUp) scaleDown
  let rest := num % den
  let takeAbove := den < 2 * rest || (den == 2 * rest && (tie == .up || below % 2 == 1))
  if below == 0 || !inBelow then
    if inAbove then some (Digits.ofNat above power) else none
  else if inAbove && takeAbove then some (Digits.ofNat above power)
  else some (Digits.ofNat below power)

/-- The first grid of `k`, `k + 1`, … digits that has a decimal in the interval. -/
def search (i : Interval) (tie : Tie) (first : Int) : Nat → Nat → Option Digits
  | 0, _ => none
  | n + 1, k => (onGrid i tie first k).or (search i tie first n (k + 1))

/-- The decimal with the fewest digits that reads back as the positive number `m · 2 ^ q`. -/
def shortest (tie : Tie) (m : Nat) (q : Int) (lowest : Bool) : Digits :=
  let i := Interval.around m q lowest
  (search i tie (leadingPower i.value i.den) 17 1).getD ⟨['0'], 0⟩

end Stencil.Decimal
