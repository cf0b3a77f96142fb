import Stencil.Text.Bytes

/-!
# Outputs

An output is handed texts one after the other. It may have room for a number of bytes only, and
then refuses the text that does not fit, after taking the part of it that does.

- `Output.accepts`: the texts handed in so far fit.
- `Output.append`: hands in a text.
- `Output.takes`: whether a text that is handed in is accepted.
- `Output.taken`: the bytes that the output has taken.
- `Output.shown`: the same as text, a character that was cut as a replacement character.

Specification: section E1; `Writer.write_str` and `Writer.take_err`.
-/

namespace Stencil

/-- The texts that were handed in, and the number of bytes there is room for. -/
structure Output where
  text : String
  room : Option Nat
deriving DecidableEq

namespace Output

/-- Nothing has been handed in. -/
def empty (room : Option Nat) : Output := ⟨"", room⟩

/-- All that was handed in has been taken. -/
def accepts (o : Output) : Bool := o.room.all (o.text.utf8ByteSize ≤ ·)

/-- Hands in a text. -/
def append (o : Output) (text : String) : Output := { o with text := o.text ++ text }

/-- A text that is handed in is accepted, as an empty one always is. -/
def takes (o : Output) (text : String) : Bool := (o.append text).accepts || text.isEmpty

/-- The bytes that the output has taken. -/
def taken (o : Output) : List UInt8 :=
  let bytes := o.text.toUTF8.data.toList
  match o.room with
  | none => bytes
  | some n => bytes.take n

/-- The characters that lie within a number of bytes; one that is cut is replaced. -/
def cut (n : Nat) : List Char → List Char
  | [] => []
  | c :: cs =>
    if n = 0 then []
    else if c.utf8Size ≤ n then c :: cut (n - c.utf8Size) cs
    else ['�']

/-- What the output has taken, as text. -/
def shown (o : Output) : String :=
  match o.room with
  | none => o.text
  | some n => String.ofList (cut n o.text.toList)

/-- An output without bounds refuses nothing. -/
theorem accepts_of_room {o : Output} (h : o.room = none) : o.accepts = true := by
  rw [accepts, h]
  rfl

/-- Nothing is refused before the first text. -/
@[simp] theorem accepts_empty (room : Option Nat) : (empty room).accepts = true := by
  cases room with
  | none => rfl
  | some n => exact decide_eq_true (Nat.zero_le n)

@[simp] theorem text_append (o : Output) (text : String) :
    (o.append text).text = o.text ++ text := rfl

@[simp] theorem room_append (o : Output) (text : String) : (o.append text).room = o.room := rfl

@[simp] theorem append_empty (o : Output) : o.append "" = o := by
  rw [append, String.append_empty]

@[simp] theorem append_append (o : Output) (s t : String) :
    (o.append s).append t = o.append (s ++ t) := by
  rw [append, append, append, String.append_assoc]

end Output

end Stencil
