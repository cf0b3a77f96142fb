/-!
# The range of 64 bits

- `Word.bound`: the first number without a sign that does not fit.
- `Word.signedBound`: the first number with a sign that does not fit.
- `Word.fitsSigned`: a number with a sign fits.
-/

namespace Stencil.Word

/-- The first number that does not fit into 64 bits. -/
def bound : Nat := 0x10000000000000000

/-- The first number that does not fit into 64 bits with a sign. -/
def signedBound : Nat := 0x8000000000000000

/-- The number fits into 64 bits with a sign. -/
def fitsSigned (n : Int) : Bool := -Int.ofNat signedBound ≤ n && n < Int.ofNat signedBound

/-- The two bounds are powers of two. -/
theorem bound_eq : bound = Nat.pow 2 64 ∧ signedBound = Nat.pow 2 63 := by decide

end Stencil.Word
