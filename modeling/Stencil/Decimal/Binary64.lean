import Stencil.Word

/-!
# Doubles as integers times powers of two

- `Binary64`: what a double stands for: not a number, an infinity, or `± mantissa · 2 ^ exponent`.
- `Binary64.ofFloat`: reads it off the bits.
-/

namespace Stencil.Decimal

/-- What a double stands for. -/
inductive Binary64 where
  | notANumber
  | infinite (negative : Bool)
  /-- `± mantissa · 2 ^ exponent`; `lowest` says that the next smaller double is at half the
  distance of the next larger one. -/
  | finite (negative : Bool) (mantissa : Nat) (exponent : Int) (lowest : Bool)
deriving DecidableEq

namespace Binary64

/-- The bit of the mantissa that is not written, behind the 52 bits of the fraction. -/
def implicitBit : Nat := 0x10000000000000

/-- Reads the sign, the exponent and the fraction of the 64 bits. -/
def ofBits (bits : UInt64) : Binary64 :=
  let n := bits.toNat
  let negative := n / Word.signedBound == 1
  let biased := n / implicitBit % 0x800
  let fraction := n % implicitBit
  if biased == 0x7FF then
    if fraction == 0 then .infinite negative else .notANumber
  else if biased == 0 then .finite negative fraction (-1074) false
  else .finite negative (implicitBit + fraction) (Int.ofNat biased - 1075) (fraction == 0 && biased != 1)

/-- What a double stands for. -/
def ofFloat (x : Float) : Binary64 := ofBits x.toBits

/-- Holds for the numbers that are neither infinite nor undefined. -/
def isFinite : Binary64 → Bool
  | .finite .. => true
  | _ => false

end Binary64

end Stencil.Decimal
