import Stencil.Decimal.Reading
import Stencil.Json
import Stencil.Word

/-!
# Records in JSON

A record is written as an object whose members are named after its fields, or as the array of its
first fields in order. A field that is missing keeps its default.

- `Json.fields?`: the documents given for the fields of a record.
- `Json.field`: one field, or its default.
- `Json.string?`, `Json.bool?`, `Json.int64?`, `Json.word?`, `Json.optional?`: single fields.
-/

namespace Stencil.Json

/-- The document under a name. -/
def member (members : List (String × Json)) (name : String) : Option Json :=
  (members.reverse.find? fun m => m.1 == name).map Prod.snd

/-- The documents given for the fields with these names. -/
def fields? (names : List String) : Json → Option (List (Option Json))
  | .object members => some (names.map (member members))
  | .array items => if items.length ≤ names.length then some (items.map some) else none
  | _ => none

/-- One of the fields, read in its own way, or its default if it is missing. -/
def field {α : Type} (fields : List (Option Json)) (i : Nat) (read : Json → Option α)
    (default : α) : Option α :=
  match fields[i]? with
  | some (some j) => read j
  | _ => some default

/-- A string. -/
def string? : Json → Option String
  | .string s => some s
  | _ => none

/-- A truth value. -/
def bool? : Json → Option Bool
  | .bool b => some b
  | _ => none

/-- A whole number of 64 bits with a sign. -/
def int64? : Json → Option Int64
  | .int n => if Word.fitsSigned n then some (Int64.ofInt n) else none
  | _ => none

/-- A whole number of 64 bits without a sign. -/
def word? : Json → Option Nat
  | .int n => if 0 ≤ n && n < Int.ofNat Word.bound then some n.toNat else none
  | _ => none

/-- Nothing for `null`, else something. -/
def optional? {α : Type} (read : Json → Option α) : Json → Option (Option α)
  | .null => some none
  | j => (read j).map some

/-- The items of an array, each read in the same way. -/
def listOf? {α : Type} (read : Json → Option α) : Json → Option (List α)
  | .array items => items.mapM read
  | _ => none

end Stencil.Json
