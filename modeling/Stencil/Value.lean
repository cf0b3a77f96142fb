import Stencil.Dict
import Stencil.Word

/-!
# Values

The data that templates are rendered with.

- `Value`: none, truth values, 64-bit whole numbers, doubles, texts, lists and maps.
- `Value.kind`: the word for the kind of a value in messages.
- `Value.isTruthy`: whether a value counts as true in a condition.
- `Value.equal`: equality; doubles are compared as numbers, so what is no number differs from
  itself.

Specification: section E1; `Value`, `is_truthy`, `human` and `eq`.
-/

namespace Stencil

/-- The data that templates are rendered with. The entries of a map are sorted by key. -/
inductive Value where
  | none
  | bool (b : Bool)
  | int (n : Int64)
  | float (x : Float)
  | text (s : String)
  | list (items : List Value)
  | map (entries : List (String × Value))
deriving Inhabited

namespace Value

/-- The word for the kind of a value. -/
def kind : Value → String
  | .none => "none"
  | .bool _ => "bool"
  | .int _ => "integer"
  | .float _ => "float"
  | .text _ => "string"
  | .list _ => "list"
  | .map _ => "map"

/-- None, false, zero, the empty text and the empty collections do not count as true. -/
def isTruthy : Value → Bool
  | .none => false
  | .bool b => b
  | .int n => n != 0
  | .float x => x != 0.0
  | .text s => !s.isEmpty
  | .list items => !items.isEmpty
  | .map entries => !entries.isEmpty

/-- The value is none. -/
def isNone : Value → Bool
  | .none => true
  | _ => false

/-- The text of a text value. -/
def text? : Value → Option String
  | .text s => some s
  | _ => Option.none

/-- The number of a whole number. -/
def int? : Value → Option Int64
  | .int n => some n
  | _ => Option.none

/-- The entries of a map. -/
def map? : Value → Option (Dict Value)
  | .map entries => some entries
  | _ => Option.none

/-- The map of some entries, later ones winning. -/
def ofEntries (entries : List (String × Value)) : Value := .map (Dict.ofList entries)

/-- The map without entries. -/
def empty : Value := .map []

/-- A count as a value: beyond the range of whole numbers it becomes the nearest double. -/
def ofNat (n : Nat) : Value :=
  if n < Word.signedBound then .int (Int64.ofNat n) else .float (Float.ofScientific n false 0)

mutual

/-- The values are equal. -/
def equal : Value → Value → Bool
  | .none, .none => true
  | .bool a, .bool b => a == b
  | .int a, .int b => a == b
  | .float a, .float b => a == b
  | .text a, .text b => a == b
  | .list a, .list b => equalItems a b
  | .map a, .map b => equalEntries a b
  | _, _ => false

/-- The lists have equal items. -/
def equalItems : List Value → List Value → Bool
  | [], [] => true
  | a :: as, b :: bs => equal a b && equalItems as bs
  | _, _ => false

/-- The maps have equal entries. -/
def equalEntries : List (String × Value) → List (String × Value) → Bool
  | [], [] => true
  | (k, a) :: as, (l, b) :: bs => k == l && equal a b && equalEntries as bs
  | _, _ => false

end

instance : BEq Value := ⟨equal⟩

end Value

end Stencil
