/-!
# Texts measured in bytes

Templates are located by the bytes of their UTF-8 form, while the text itself is a list of
characters.

- `Span`: the region of a text from one byte offset up to another.
- `Text.byteLength`: how many bytes a text takes.
- `Text.dropBytes`, `Text.takeBytes`: the text after, and up to, a byte offset; `none` if the
  offset lies inside a character or beyond the end.
- `Text.slice`: the text of a span; `none` unless both ends are character boundaries in order.

Specification: section E1; `Span`.
-/

namespace Stencil

/-- The region of a text from byte `start` up to, but not including, byte `stop`. -/
structure Span where
  start : Nat
  stop : Nat
deriving DecidableEq, Inhabited

namespace Span

/-- The empty region at an offset. -/
def point (i : Nat) : Span := ⟨i, i⟩

/-- The smallest region that holds both. -/
def join (s t : Span) : Span := ⟨min s.start t.start, max s.stop t.stop⟩

/-- Holds for a region without any byte. -/
def isEmpty (s : Span) : Bool := s.stop ≤ s.start

/-- The span lies inside another one. -/
def Within (s t : Span) : Prop := t.start ≤ s.start ∧ s.stop ≤ t.stop

@[simp] theorem join_start (s t : Span) : (s.join t).start = min s.start t.start := rfl

@[simp] theorem join_stop (s t : Span) : (s.join t).stop = max s.stop t.stop := rfl

@[simp] theorem point_start (i : Nat) : (point i).start = i := rfl

@[simp] theorem point_stop (i : Nat) : (point i).stop = i := rfl

end Span

namespace Text

/-- The number of bytes of a text in UTF-8. -/
def byteLength : List Char → Nat
  | [] => 0
  | c :: cs => c.utf8Size + byteLength cs

@[simp] theorem byteLength_nil : byteLength [] = 0 := rfl

@[simp] theorem byteLength_cons (c : Char) (cs : List Char) :
    byteLength (c :: cs) = c.utf8Size + byteLength cs := rfl

@[simp] theorem byteLength_append (s t : List Char) :
    byteLength (s ++ t) = byteLength s + byteLength t := by
  induction s with
  | nil => simp
  | cons c cs ih => simp [ih, Nat.add_assoc]

/-- The text from byte `n` on. -/
def dropBytes (n : Nat) : List Char → Option (List Char)
  | [] => if n = 0 then some [] else none
  | c :: cs =>
    if n = 0 then some (c :: cs)
    else if c.utf8Size ≤ n then dropBytes (n - c.utf8Size) cs
    else none

/-- The text before byte `n`. -/
def takeBytes (n : Nat) : List Char → Option (List Char)
  | [] => if n = 0 then some [] else none
  | c :: cs =>
    if n = 0 then some []
    else if c.utf8Size ≤ n then (takeBytes (n - c.utf8Size) cs).map (c :: ·)
    else none

@[simp] theorem dropBytes_zero (cs : List Char) : dropBytes 0 cs = some cs := by
  cases cs <;> simp [dropBytes]

@[simp] theorem takeBytes_zero (cs : List Char) : takeBytes 0 cs = some [] := by
  cases cs <;> simp [takeBytes]

/-- Dropping the bytes of a first part leaves the second. -/
@[simp] theorem dropBytes_append (s t : List Char) :
    dropBytes (byteLength s) (s ++ t) = some t := by
  induction s with
  | nil => simp
  | cons c cs ih =>
    have h : c.utf8Size ≠ 0 := Nat.pos_iff_ne_zero.mp (Char.utf8Size_pos c)
    simp [dropBytes, h, ih]

/-- Taking the bytes of a first part gives that part. -/
@[simp] theorem takeBytes_append (s t : List Char) :
    takeBytes (byteLength s) (s ++ t) = some s := by
  induction s with
  | nil => simp
  | cons c cs ih =>
    have h : c.utf8Size ≠ 0 := Nat.pos_iff_ne_zero.mp (Char.utf8Size_pos c)
    simp [takeBytes, h, ih]

/-- The characters between two byte offsets, `none` if the offsets are out of order, beyond the
end or inside a character. -/
def sliceChars (span : Span) (cs : List Char) : Option (List Char) :=
  if span.start ≤ span.stop then
    (dropBytes span.start cs).bind (takeBytes (span.stop - span.start))
  else none

/-- The text between two byte offsets. -/
def slice (span : Span) (s : String) : Option String :=
  (sliceChars span s.toList).map String.ofList

/-- The middle part of a text is the slice at its offsets. -/
theorem sliceChars_append (s t u : List Char) :
    sliceChars ⟨byteLength s, byteLength s + byteLength t⟩ (s ++ t ++ u) = some t := by
  simp [sliceChars, List.append_assoc]

end Text

end Stencil
