import Stencil.Decimal.Reading
import Stencil.Json
import Stencil.Value
import Stencil.Word

/-!
# Values and JSON documents

- `Value.toJson`: the document of a value.
- `Value.ofJson`: the value of a document.
- `Value.json`: the text of the document of a value.
- `Value.normal`: the value with every double that is no number or infinite replaced by none; it is
  what a value becomes by way of a document.

Specification: section E1; `to_value` and `serialize`.
-/

namespace Stencil.Value

/-- The double is neither infinite nor undefined. -/
def isFinite (x : Float) : Bool := (Decimal.Binary64.ofFloat x).isFinite

mutual

/-- The document of a value. A double without digits becomes `null`. -/
def toJson : Value → Json
  | .none => .null
  | .bool b => .bool b
  | .int n => .int n.toInt
  | .float x => if isFinite x then .float x else .null
  | .text s => .string s
  | .list items => .array (itemsToJson items)
  | .map entries => .object (entriesToJson entries)

/-- The documents of the items of a list. -/
def itemsToJson : List Value → List Json
  | [] => []
  | v :: vs => toJson v :: itemsToJson vs

/-- The members for the entries of a map. -/
def entriesToJson : List (String × Value) → List (String × Json)
  | [] => []
  | (k, v) :: rest => (k, toJson v) :: entriesToJson rest

end

mutual

/-- The value of a document. A whole number out of range becomes the nearest double; of several
members under one key the last one wins. -/
def ofJson : Json → Value
  | .null => .none
  | .bool b => .bool b
  | .int n =>
    if Word.fitsSigned n then .int (Int64.ofInt n)
    else .float (if n < 0 then -Decimal.toFloat n.natAbs 0 else Decimal.toFloat n.natAbs 0)
  | .float x => .float x
  | .string s => .text s
  | .array items => .list (itemsOfJson items)
  | .object members => ofEntries (entriesOfJson members)

/-- The values of the items of an array. -/
def itemsOfJson : List Json → List Value
  | [] => []
  | j :: js => ofJson j :: itemsOfJson js

/-- The entries for the members of an object. -/
def entriesOfJson : List (String × Json) → List (String × Value)
  | [] => []
  | (k, j) :: rest => (k, ofJson j) :: entriesOfJson rest

end

/-- The text of the document of a value. -/
def json (v : Value) : String := v.toJson.render

mutual

/-- The value with none in place of every double that is infinite or undefined. -/
def normal : Value → Value
  | .float x => if isFinite x then .float x else .none
  | .list items => .list (normalItems items)
  | .map entries => .map (normalEntries entries)
  | v => v

/-- `normal` on the items of a list. -/
def normalItems : List Value → List Value
  | [] => []
  | v :: vs => normal v :: normalItems vs

/-- `normal` on the entries of a map. -/
def normalEntries : List (String × Value) → List (String × Value)
  | [] => []
  | (k, v) :: rest => (k, normal v) :: normalEntries rest

end

/-- A value taken through a document and back. -/
def viaDocument (v : Value) : Value := ofJson (toJson v)

end Stencil.Value
