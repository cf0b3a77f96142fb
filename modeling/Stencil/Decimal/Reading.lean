import Stencil.Word

/-!
# Reading decimals

- `Decimal.toFloat`: the double nearest to `m · 10 ^ e`.
- `Decimal.readFloat`: reads digits with an optional point and an optional exponent.
- `Decimal.readInt`: reads an optional sign and digits.
- `Decimal.readInt64`, `Decimal.readWord`: the same within the range of 64-bit numbers.
-/

namespace Stencil.Decimal

/-- The digits at the start of a text, and the rest. -/
def spanDigits (cs : List Char) : List Char × List Char := cs.span Char.isDigit

/-- The number with the given decimal digits. -/
def ofDigits (cs : List Char) : Nat := cs.foldl (fun n c => 10 * n + (c.toNat - '0'.toNat)) 0

/-- The double nearest to `m · 10 ^ e`. Beyond the range of doubles the answer is known without
computing the power: a nonzero number is infinite from `10 ^ 310` on and zero below `10 ^ -400`. -/
def toFloat (m : Nat) (e : Int) : Float :=
  if m == 0 then 0.0
  else
    let size := Int.ofNat (Nat.toDigits 10 m).length + e
    if 310 < size then 1.0 / 0.0
    else if size < -400 then 0.0
    else Float.ofScientific m (e < 0) e.natAbs

/-- The exponent part of a decimal: nothing, or `e`, an optional sign and at least one digit. -/
def readExponent : List Char → Option Int
  | [] => some 0
  | c :: cs =>
    if c == 'e' || c == 'E' then
      let (negative, cs) := match cs with
        | '-' :: rest => (true, rest)
        | '+' :: rest => (false, rest)
        | rest => (false, rest)
      match spanDigits cs with
      | ([], _) => none
      | (ds, []) => some (if negative then -Int.ofNat (ofDigits ds) else Int.ofNat (ofDigits ds))
      | _ => none
    else none

/-- Reads a decimal without a sign: digits with an optional point, at least one digit, and an
optional exponent. -/
def readFloat (cs : List Char) : Option Float :=
  let (whole, rest) := spanDigits cs
  let (fraction, rest) := match rest with
    | '.' :: rest => spanDigits rest
    | rest => ([], rest)
  if whole.isEmpty && fraction.isEmpty then none
  else (readExponent rest).map fun e =>
    toFloat (ofDigits (whole ++ fraction)) (e - Int.ofNat fraction.length)

/-- Reads an optional sign and at least one digit. -/
def readInt (cs : List Char) : Option Int :=
  let (negative, ds) := match cs with
    | '-' :: rest => (true, rest)
    | '+' :: rest => (false, rest)
    | rest => (false, rest)
  if ds.isEmpty || !ds.all Char.isDigit then none
  else some (if negative then -Int.ofNat (ofDigits ds) else Int.ofNat (ofDigits ds))

/-- Reads a number within the range of 64 bits with a sign. -/
def readInt64 (cs : List Char) : Option Int := (readInt cs).filter Word.fitsSigned

/-- Reads a number without a sign within the range of 64 bits; a leading `+` is allowed. -/
def readWord (cs : List Char) : Option Nat :=
  let ds := match cs with
    | '+' :: rest => rest
    | rest => rest
  if ds.isEmpty || !ds.all Char.isDigit then none
  else (some (ofDigits ds)).filter (· < Word.bound)

end Stencil.Decimal
