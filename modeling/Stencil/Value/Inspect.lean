import Stencil.Decimal.Layout
import Stencil.Json
import Stencil.Text.Quoted
import Stencil.Value

/-!
# Inspected values

- `Value.inspect`: a value with the name of its kind around it, as messages show it.
-/

namespace Stencil.Value

mutual

/-- The value with the name of its kind around it. -/
def inspect : Value → String
  | .none => "None"
  | .bool b => "Bool(" ++ (if b then "true" else "false") ++ ")"
  | .int n => "Integer(" ++ String.ofList (Json.writeInt n.toInt) ++ ")"
  | .float x => "Float(" ++ Decimal.Layout.inspected.write x ++ ")"
  | .text s => "String(" ++ Text.quoted s ++ ")"
  | .list items => "List([" ++ inspectItems items ++ "])"
  | .map entries => "Map(\x7b" ++ inspectEntries entries ++ "\x7d)"

/-- The items of a list, with commas between them. -/
def inspectItems : List Value → String
  | [] => ""
  | [v] => inspect v
  | v :: vs => inspect v ++ ", " ++ inspectItems vs

/-- The entries of a map, with commas between them. -/
def inspectEntries : List (String × Value) → String
  | [] => ""
  | [(k, v)] => Text.quoted k ++ ": " ++ inspect v
  | (k, v) :: rest => Text.quoted k ++ ": " ++ inspect v ++ ", " ++ inspectEntries rest

end

/-- The entries of a dictionary between braces. -/
def inspectDict (d : Dict Value) : String := "\x7b" ++ inspectEntries d ++ "\x7d"

end Stencil.Value
