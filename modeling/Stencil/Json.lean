import Stencil.Decimal.Layout

/-!
# JSON documents

- `Json`: a document. Whole numbers are kept apart from numbers with a fraction or an exponent.
- `Json.quote`: a string between quotes, with quotes, backslashes and controls escaped.
- `Json.write`: the text of a document, without any space.
-/

namespace Stencil

/-- A JSON document. -/
inductive Json where
  | null
  | bool (b : Bool)
  | int (n : Int)
  | float (x : Float)
  | string (s : String)
  | array (items : List Json)
  | object (members : List (String × Json))
deriving Inhabited

namespace Json

/-! ## Strings -/

/-- The form of a character between quotes. -/
def escape (c : Char) : List Char :=
  if c = '"' then ['\\', '"']
  else if c = '\\' then ['\\', '\\']
  else if c = '\x08' then ['\\', 'b']
  else if c = '\x0c' then ['\\', 'f']
  else if c = '\n' then ['\\', 'n']
  else if c = '\r' then ['\\', 'r']
  else if c = '\t' then ['\\', 't']
  else if c.toNat < 0x20 then
    ['\\', 'u', '0', '0', Nat.digitChar (c.toNat / 16), Nat.digitChar (c.toNat % 16)]
  else [c]

/-- A string between quotes. -/
def quote (s : String) : List Char := '"' :: s.toList.flatMap escape ++ ['"']

/-! ## Documents -/

/-- The digits of a whole number. -/
def writeInt (n : Int) : List Char :=
  if n < 0 then '-' :: Nat.toDigits 10 n.natAbs else Nat.toDigits 10 n.natAbs

/-- A number with a fraction or an exponent; what is no number is written as `null`. -/
def writeFloat (x : Float) : List Char :=
  let b := Decimal.Binary64.ofFloat x
  if b.isFinite then Decimal.Layout.document.writeBinary b else ['n', 'u', 'l', 'l']

mutual

/-- The text of a document. -/
def write : Json → List Char
  | .null => ['n', 'u', 'l', 'l']
  | .bool true => ['t', 'r', 'u', 'e']
  | .bool false => ['f', 'a', 'l', 's', 'e']
  | .int n => writeInt n
  | .float x => writeFloat x
  | .string s => quote s
  | .array items => '[' :: writeItems items ++ [']']
  | .object members => '\x7b' :: writeMembers members ++ ['\x7d']

/-- The documents of a list, with commas between them. -/
def writeItems : List Json → List Char
  | [] => []
  | [item] => write item
  | item :: rest => write item ++ ',' :: writeItems rest

/-- The members of an object, with commas between them. -/
def writeMembers : List (String × Json) → List Char
  | [] => []
  | [(key, value)] => quote key ++ ':' :: write value
  | (key, value) :: rest => quote key ++ ':' :: (write value ++ ',' :: writeMembers rest)

end

theorem write_array (items : List Json) :
    write (.array items) = '[' :: (writeItems items ++ [']']) := by
  rw [write, List.cons_append]

theorem write_object (members : List (String × Json)) :
    write (.object members) = '\x7b' :: (writeMembers members ++ ['\x7d']) := by
  rw [write, List.cons_append]

/-- The text of a document. -/
def render (j : Json) : String := String.ofList j.write

/-- The member of an object under a key; of several the last one. -/
def get? (key : String) : Json → Option Json
  | .object members => members.reverse.lookup key
  | _ => none

end Json

end Stencil
