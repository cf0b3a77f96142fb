import Stencil.Decimal.Reading
import Stencil.Expr
import Stencil.Error
import Stencil.Word

/-!
# Literals

- `Literal.integer`: reads a whole number in one of four radices; underscores between the digits
  are passed over.
- `Literal.number`: reads a whole number, or else a decimal.
- `Literal.unescape`: what stands between the quotes of a string literal.
- `Literal.string`: the text of a string literal.

Specification: section E1; `parse_literal_number`, `parse_literal_integer`, `parse_literal_float`
and `parse_string`.
-/

namespace Stencil.Literal

/-! ## Numbers -/

/-- The digits behind the radix, the length of the radix, and the radix. -/
def splitRadix : List Char → List Char × Nat × Nat
  | '0' :: 'b' :: ds => (ds, 2, 2)
  | '0' :: 'o' :: ds => (ds, 2, 8)
  | '0' :: 'x' :: ds => (ds, 2, 16)
  | ds => (ds, 0, 10)

/-- The value of a digit, letters in either case. -/
def digitValue (radix : Nat) (c : Char) : Option Nat :=
  let n :=
    if c.isDigit then some (c.toNat - '0'.toNat)
    else if 'a' ≤ c ∧ c ≤ 'z' then some (c.toNat - 'a'.toNat + 10)
    else if 'A' ≤ c ∧ c ≤ 'Z' then some (c.toNat - 'A'.toNat + 10)
    else none
  n.filter (· < radix)

/-- Why a number literal is no whole number. -/
inductive IntegerFault where
  /-- The character at this position among the digits is no digit of the radix. -/
  | digit (position : Nat)
  | range
deriving DecidableEq

/-- The number so far extended by further digits. The number never leaves the 64-bit range. -/
def digits (radix : Nat) (negative : Bool) : Nat → Int → List Char → Except IntegerFault Int
  | _, acc, [] => .ok acc
  | i, acc, c :: cs =>
    if c = '_' then digits radix negative (i + 1) acc cs
    else match digitValue radix c with
      | none => .error (.digit i)
      | some x =>
        let next := if negative then acc * radix - x else acc * radix + x
        if Word.fitsSigned next then digits radix negative (i + 1) next cs
        else .error .range

/-- Reads a whole number. The literal may begin with a sign, which `span` then covers; the place of
an invalid digit is counted from the start of `span`. -/
def integer (source : String) (text : List Char) (span : Span) (negative : Bool) :
    Except Error Int :=
  let (ds, skipped, radix) := splitRadix text
  match digits radix negative 0 0 ds with
  | .ok n => .ok n
  | .error (.digit i) =>
    let m := span.start + skipped + i
    .error (Error.syntaxAt (.invalidDigit radix) source ⟨m, m + 1⟩)
  | .error .range => .error (Error.syntaxAt (.integerOutOfRange radix) source span)

/-- Reads a decimal. -/
def decimal (source : String) (text : List Char) (span : Span) (negative : Bool) :
    Except Error Float :=
  match Decimal.readFloat text with
  | some x => .ok (if negative then -x else x)
  | none => .error (Error.syntaxAt .invalidFloat source span)

/-- Reads a number: a whole number if possible, else a decimal. If it is neither, a literal with a
point or a sign in it was meant as a decimal. -/
def number (source : String) (text : List Char) (span : Span) (negative : Bool) :
    Except Error Value :=
  match integer source text span negative with
  | .ok n => .ok (.int (Int64.ofInt n))
  | .error e =>
    match decimal source text span negative with
    | .ok x => .ok (.float x)
    | .error e' => .error (if text.any fun c => c == '.' || c == '-' || c == '+' then e' else e)

/-! ## Strings -/

/-- What a character behind a backslash stands for. -/
def escaped (c : Char) : Option Char :=
  if c = 'n' then some '\n'
  else if c = 'r' then some '\r'
  else if c = 't' then some '\t'
  else if c = '\\' then some '\\'
  else if c = '"' then some '"'
  else none

/-- The text with its escapes resolved, or the place of the first bad one. `offset` is the place of
the first character. -/
def unescape (offset : Nat) : List Char → Except Span (List Char)
  | [] => .ok []
  | c :: cs =>
    if c = '\\' then
      match cs with
      | [] => .error ⟨offset, offset + 1⟩
      | d :: ds =>
        match escaped d with
        | none => .error ⟨offset, offset + 1 + d.utf8Size⟩
        | some x => (unescape (offset + 1 + d.utf8Size) ds).map (x :: ·)
    else (unescape (offset + c.utf8Size) cs).map (c :: ·)

/-- What stands between the first and the last byte of a literal. -/
def inner? (text : List Char) : Option (List Char) :=
  Text.sliceChars ⟨1, Text.byteLength text - 1⟩ text

theorem inner?_of_quotes (cs : List Char) : inner? ('"' :: (cs ++ ['"'])) = some cs := by
  have quote : ('"').utf8Size = 1 := rfl
  have cut := Text.sliceChars_append ['"'] cs ['"']
  have stop : Text.byteLength ('"' :: (cs ++ ['"'])) - 1 = 1 + Text.byteLength cs := by
    simp only [Text.byteLength_cons, Text.byteLength_append, Text.byteLength_nil, quote]
    omega
  rw [inner?, stop]
  exact cut

/-- The text of a string literal with its quotes. Reading breaks down where there are none. -/
def string (source : String) (text : String) (span : Span) : Except Failure String :=
  match inner? text.toList with
  | none => .error .broken
  | some cs =>
    match unescape (span.start + 1) cs with
    | .ok cs => .ok (String.ofList cs)
    | .error place => .error (.error (Error.syntaxAt .unknownEscape source place))

theorem string_of_unescape {source text : String} {span : Span} {cs ds : List Char}
    (inner : inner? text.toList = some cs) (plain : unescape (span.start + 1) cs = .ok ds) :
    string source text span = .ok (String.ofList ds) := by
  rw [string, inner]
  simp only [plain]

theorem string_of_unescape_error {source text : String} {span place : Span} {cs : List Char}
    (inner : inner? text.toList = some cs) (bad : unescape (span.start + 1) cs = .error place) :
    string source text span =
      .error (.error (Error.syntaxAt .unknownEscape source place)) := by
  rw [string, inner]
  simp only [bad]

end Stencil.Literal
