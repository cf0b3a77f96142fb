import Stencil.Text.Identifier.Table
import Stencil.Text.Ranges

/-!
# Identifiers

- `isIdentifierStart`: the characters that may begin a name: `_` and the property XID_Start.
- `isIdentifierPart`: the characters that may go on in it: the property XID_Continue, to which `_`
  belongs.
-/

namespace Stencil.Text

/-- May begin a name. -/
def isIdentifierStart (c : Char) : Bool :=
  c.isAlpha || c == '_' || (128 ≤ c.toNat && inRanges Identifier.xidStart c.toNat)

/-- May stand in a name after its first character. -/
def isIdentifierPart (c : Char) : Bool :=
  c.isAlphanum || c == '_' || (128 ≤ c.toNat && inRanges Identifier.xidContinue c.toNat)

end Stencil.Text
