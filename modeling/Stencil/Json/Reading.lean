import Stencil.Decimal.Reading
import Stencil.Json
import Stencil.Word

/-!
# Reading JSON

- `Json.read`: the document of a text, `none` unless the text is one document between blanks.

A whole number that fits 64 bits is read exactly; every other number is read as the nearest double.
-/

namespace Stencil.Json

/-- The blanks between the parts of a document. -/
def isSpace (c : Char) : Bool := c == ' ' || c == '\t' || c == '\n' || c == '\r'

/-- The text from the first character on that is no blank. -/
def skipSpace (cs : List Char) : List Char := cs.dropWhile isSpace

/-- The value of a hexadecimal digit. -/
def hexValue (c : Char) : Option Nat :=
  if '0' ≤ c ∧ c ≤ '9' then some (c.toNat - '0'.toNat)
  else if 'a' ≤ c ∧ c ≤ 'f' then some (c.toNat - 'a'.toNat + 10)
  else if 'A' ≤ c ∧ c ≤ 'F' then some (c.toNat - 'A'.toNat + 10)
  else none

/-- Four hexadecimal digits. -/
def readHex : List Char → Option (Nat × List Char)
  | a :: b :: c :: d :: rest => do
    let a ← hexValue a
    let b ← hexValue b
    let c ← hexValue c
    let d ← hexValue d
    some (((a * 16 + b) * 16 + c) * 16 + d, rest)
  | _ => none

/-- What an escape other than `\u` stands for. -/
def escaped (c : Char) : Option Char :=
  if c = '"' ∨ c = '\\' ∨ c = '/' then some c
  else if c = 'b' then some '\x08'
  else if c = 'f' then some '\x0c'
  else if c = 'n' then some '\n'
  else if c = 'r' then some '\r'
  else if c = 't' then some '\t'
  else none

/-- The rest of a string, after its opening quote. The first argument bounds the characters read. -/
def readString : Nat → List Char → Option (List Char × List Char)
  | 0, _ => none
  | n + 1, cs =>
    match cs with
    | '"' :: rest => some ([], rest)
    | '\\' :: 'u' :: rest => do
      let (high, rest) ← readHex rest
      if 0xD800 ≤ high ∧ high < 0xDC00 then
        match rest with
        | '\\' :: 'u' :: rest =>
          let (low, rest) ← readHex rest
          let (s, rest) ← readString n rest
          some (Char.ofNat (0x10000 + (high - 0xD800) * 0x400 + (low - 0xDC00)) :: s, rest)
        | _ => none
      else
        let (s, rest) ← readString n rest
        some (Char.ofNat high :: s, rest)
    | '\\' :: c :: rest => do
      let c ← escaped c
      let (s, rest) ← readString n rest
      some (c :: s, rest)
    | c :: rest => do
      let (s, rest) ← readString n rest
      some (c :: s, rest)
    | [] => none

/-- The characters of a number. -/
def isNumberChar (c : Char) : Bool :=
  c.isDigit || c == '-' || c == '+' || c == '.' || c == 'e' || c == 'E'

/-- The number of its text. -/
def readNumber (cs : List Char) : Option Json :=
  let (negative, ds) := match cs with
    | '-' :: rest => (true, rest)
    | rest => (false, rest)
  if ds.isEmpty then none
  else if ds.all Char.isDigit then
    let n := Decimal.ofDigits ds
    if negative && n == 0 then some (.float (-0.0))
    else if negative then
      some (if n ≤ Word.signedBound then .int (-Int.ofNat n) else .float (-Decimal.toFloat n 0))
    else some (if n < Word.bound then .int n else .float (Decimal.toFloat n 0))
  else (Decimal.readFloat ds).map fun x => .float (if negative then -x else x)

mutual

/-- A document at the start of a text, and the rest. The first argument bounds the depth. -/
def readValue : Nat → List Char → Option (Json × List Char)
  | 0, _ => none
  | n + 1, cs =>
    match skipSpace cs with
    | 'n' :: 'u' :: 'l' :: 'l' :: rest => some (.null, rest)
    | 't' :: 'r' :: 'u' :: 'e' :: rest => some (.bool true, rest)
    | 'f' :: 'a' :: 'l' :: 's' :: 'e' :: rest => some (.bool false, rest)
    | '"' :: rest =>
      (readString (rest.length + 1) rest).map fun r => (.string (String.ofList r.1), r.2)
    | '[' :: rest =>
      match skipSpace rest with
      | ']' :: rest => some (.array [], rest)
      | _ => (readItems n rest).map fun r => (.array r.1, r.2)
    | c :: rest =>
      if c = '\x7b' then
        match skipSpace rest with
        | d :: rest' =>
          if d = '\x7d' then some (.object [], rest')
          else (readMembers n rest).map fun r => (.object r.1, r.2)
        | [] => none
      else
        let (ds, rest) := (c :: rest).span isNumberChar
        (readNumber ds).map fun j => (j, rest)
    | [] => none

/-- The items of an array up to its end. -/
def readItems : Nat → List Char → Option (List Json × List Char)
  | 0, _ => none
  | n + 1, cs => do
    let (item, rest) ← readValue n cs
    match skipSpace rest with
    | ']' :: rest => some ([item], rest)
    | ',' :: rest =>
      let (items, rest) ← readItems n rest
      some (item :: items, rest)
    | _ => none

/-- The members of an object up to its end. -/
def readMembers : Nat → List Char → Option (List (String × Json) × List Char)
  | 0, _ => none
  | n + 1, cs =>
    match skipSpace cs with
    | '"' :: rest => do
      let (key, rest) ← readString (rest.length + 1) rest
      match skipSpace rest with
      | ':' :: rest =>
        let (value, rest) ← readValue n rest
        match skipSpace rest with
        | ',' :: rest =>
          let (members, rest) ← readMembers n rest
          some ((String.ofList key, value) :: members, rest)
        | c :: rest => if c = '\x7d' then some ([(String.ofList key, value)], rest) else none
        | [] => none
      | _ => none
    | _ => none

end

/-- The document of a text. -/
def read (s : String) : Option Json := do
  let cs := s.toList
  let (j, rest) ← readValue (cs.length + 1) cs
  if (skipSpace rest).isEmpty then some j else none

end Stencil.Json
