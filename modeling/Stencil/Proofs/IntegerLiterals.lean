import Mathlib.Data.List.Forall2
import Mathlib.Data.List.TakeDrop
import Mathlib.Data.List.TakeWhile
import Mathlib.Data.Nat.Digits.Defs
import Stencil.Proofs.Grammar

/-!
# Whole numbers in literals

A whole number may be written in four radices, with letters in either case, with zeros in front and
with underscores between its digits. Its digits are taken one after the other, and the number so far
never leaves the range of 64 bits. As it only goes away from zero on the way, all numbers within the
range are read, and no others.

- `Literal.Radix.Writes`: the texts of a number in a radix.
- `Literal.digits_eq`: what is read of some digits.
- `Literal.integer_eq`: what is read of the text of a number.
- `Literal.InvalidDigit`: the first character of a text that is no digit.
- `Literal.exists_of_integer`: why a text is read as no whole number.
- `Literal.number_eq_int`: a number within the range is read as it is.
- `Literal.number_eq_error`, `Literal.number_eq_float`: any other one is an error, or a decimal if
  it is written like one.
-/

namespace Stencil.Literal

/-! ## How numbers are written -/

/-- The radices in which whole numbers are written. -/
inductive Radix where
  | binary
  | octal
  | decimal
  | hexadecimal
deriving DecidableEq

namespace Radix

/-- How many digits there are. -/
def base : Radix → Nat
  | .binary => 2
  | .octal => 8
  | .decimal => 10
  | .hexadecimal => 16

/-- What stands in front of the digits. -/
def mark : Radix → List Char
  | .binary => ['0', 'b']
  | .octal => ['0', 'o']
  | .decimal => []
  | .hexadecimal => ['0', 'x']

theorem base_pos (r : Radix) : 0 < r.base := by
  cases r <;> decide

theorem base_le (r : Radix) : r.base ≤ 16 := by
  cases r <;> decide

end Radix

/-- The character is a digit, letters in either case. -/
structure IsDigit (base : Nat) (c : Char) (x : Nat) : Prop where
  lt : x < base
  char : c = x.digitChar ∨ c = x.digitChar.toUpper

instance (base : Nat) (c : Char) (x : Nat) : Decidable (IsDigit base c x) :=
  decidable_of_iff (x < base ∧ (c = x.digitChar ∨ c = x.digitChar.toUpper))
    ⟨fun h => ⟨h.1, h.2⟩, fun h => ⟨h.lt, h.char⟩⟩

/-- The text of a number in a radix: what stands in front of the digits, and the digits, the highest
one first. There may be underscores, though not in front of a decimal, and any number of zeros. -/
inductive Radix.Writes (r : Radix) (m : Nat) : List Char → Prop
  | intro {cs : List Char} {xs : List Nat}
      (digits : List.Forall₂ (IsDigit r.base) (cs.filter (· != '_')) xs) (nonempty : xs ≠ [])
      (value : Nat.ofDigits r.base xs.reverse = m)
      (first : r = .decimal → cs.head? ≠ some '_') : Writes r m (r.mark ++ cs)

/-- The signs that may stand in front of a number. -/
inductive Sign where
  | none
  | plus
  | minus
deriving DecidableEq

namespace Sign

/-- The sign makes numbers negative. -/
def isNegative : Sign → Bool
  | .minus => true
  | _ => false

/-- The sign itself. -/
def chars : Sign → List Char
  | .none => []
  | .plus => ['+']
  | .minus => ['-']

end Sign

/-- A number with a sign in front. -/
def signed (negative : Bool) (m : Nat) : Int := if negative then -m else m

/-! ## Digits -/

section

variable {base x : Nat} {c : Char} {cs : List Char} {xs : List Nat} {negative : Bool}

/-- Zero up to fifteen as digits. -/
theorem digitValue_digitChar : ∀ x < 16, [x.digitChar, x.digitChar.toUpper].all fun c =>
    digitValue 16 c = some x ∧ c.isAlphanum ∧ (x < 10 → c.isDigit ∧ c.toNat - '0'.toNat = x) := by
  decide

theorem IsDigit.value (hb : base ≤ 16) (h : IsDigit base c x) :
    digitValue 16 c = some x ∧ c.isAlphanum ∧ (x < 10 → c.isDigit ∧ c.toNat - '0'.toNat = x) := by
  have mem : c ∈ [x.digitChar, x.digitChar.toUpper] := by
    rcases h.char with rfl | rfl <;> simp
  have all := digitValue_digitChar x (Nat.lt_of_lt_of_le h.lt hb)
  exact of_decide_eq_true (List.all_eq_true.1 all c mem)

theorem digitValue_of_isDigit (hb : base ≤ 16) (h : IsDigit base c x) :
    digitValue base c = some x := by
  have value := (h.value hb).1
  rw [digitValue, Option.filter_eq_some_iff] at value ⊢
  exact ⟨value.1, decide_eq_true h.lt⟩

theorem isAlphanum_of_isDigit (hb : base ≤ 16) (h : IsDigit base c x) : c.isAlphanum :=
  (h.value hb).2.1

theorem isDigit_of_isDigit (h : IsDigit 10 c x) : c.isDigit ∧ c.toNat - '0'.toNat = x :=
  (h.value (by decide)).2.2 h.lt

/-- Zero up to fifteen as digits, by the numbers of the characters. -/
theorem digitChar_eq_ofNat : ∀ x < 16, (x < 10 → x.digitChar = Char.ofNat (x + 48)) ∧
    (10 ≤ x → x.digitChar = Char.ofNat (x + 87) ∧ x.digitChar.toUpper = Char.ofNat (x + 55)) := by
  decide

/-- What has a value is a digit. -/
theorem isDigit_of_digitValue (hb : base ≤ 16) (h : digitValue base c = some x) :
    IsDigit base c x := by
  rw [digitValue, Option.filter_eq_some_iff] at h
  obtain ⟨value, lt⟩ := h
  have lt : x < base := of_decide_eq_true lt
  obtain ⟨decimal, letter⟩ := digitChar_eq_ofNat x (Nat.lt_of_lt_of_le lt hb)
  have number {n : Nat} (eq : c.toNat = n) : c = Char.ofNat n := by
    rw [← eq, Char.ofNat_toNat]
  refine ⟨lt, ?_⟩
  split at value
  · next digit =>
    have bounds : 48 ≤ c.toNat ∧ c.toNat ≤ 57 := by
      simpa [Char.isDigit, UInt32.le_iff_toNat_le] using digit
    have eq : c.toNat - 48 = x := Option.some.inj value
    exact .inl ((number (by omega)).trans (decimal (by omega)).symm)
  split at value
  · next lower =>
    have bound : 97 ≤ c.toNat := UInt32.le_iff_toNat_le.1 lower.1
    have eq : c.toNat - 97 + 10 = x := Option.some.inj value
    exact .inl ((number (by omega)).trans (letter (by omega)).1.symm)
  split at value
  · next upper =>
    have bound : 65 ≤ c.toNat := UInt32.le_iff_toNat_le.1 upper.1
    have eq : c.toNat - 65 + 10 = x := Option.some.inj value
    exact .inr ((number (by omega)).trans (letter (by omega)).2.symm)
  · cases value

theorem exists_isDigit_of_mem (h : List.Forall₂ (IsDigit base) cs xs) (hc : c ∈ cs) :
    ∃ x, IsDigit base c x := by
  have each := h.imp fun c x digit => And.intro (Exists.intro x digit) digit
  exact ((List.forall₂_and_left cs xs).1 each).1 c hc

/-- What stands behind the mark of the radix are digits and underscores. -/
theorem eq_or_isDigit_of_mem (h : List.Forall₂ (IsDigit base) (cs.filter (· != '_')) xs)
    (hc : c ∈ cs) : c = '_' ∨ ∃ x, IsDigit base c x := by
  by_cases underscore : c = '_'
  · exact .inl underscore
  · exact .inr (exists_isDigit_of_mem h (List.mem_filter.2 ⟨hc, by simpa using underscore⟩))

theorem Radix.isAlphanum_of_mem_mark {r : Radix} (hc : c ∈ r.mark) : c.isAlphanum := by
  have all : r.mark.all Char.isAlphanum := by cases r <;> decide
  exact List.all_eq_true.1 all c hc

/-- The text of a number is made of letters, digits and underscores. -/
theorem Radix.Writes.eq_or_isAlphanum {r : Radix} {m : Nat} (h : r.Writes m cs) (hc : c ∈ cs) :
    c = '_' ∨ c.isAlphanum := by
  obtain @⟨cs, xs, written, -, -, -⟩ := h
  rcases List.mem_append.1 hc with hc | hc
  · exact .inr (Radix.isAlphanum_of_mem_mark hc)
  · rcases eq_or_isDigit_of_mem written hc with rfl | ⟨x, digit⟩
    · exact .inl rfl
    · exact .inr (isAlphanum_of_isDigit r.base_le digit)

/-- The first character of a text that is neither a digit of its radix nor an underscore. A text
that begins with the mark of no other radix is a decimal. -/
@[ext] structure InvalidDigit (text : List Char) where
  radix : Radix
  good : List Char
  char : Char
  rest : List Char
  whole : text = radix.mark ++ (good ++ char :: rest)
  marked : radix = .decimal → ∀ other : Radix, other.mark <+: text → other = .decimal
  digits : ∀ c ∈ good, c = '_' ∨ ∃ x, IsDigit radix.base c x
  separator : char ≠ '_'
  invalid : ∀ x, ¬ IsDigit radix.base char x

namespace InvalidDigit

variable {text : List Char} (bad bad' : InvalidDigit text)

/-- What stands in front of the character. -/
def upTo : List Char := bad.radix.mark ++ bad.good

/-- How many characters stand in front. -/
def position : Nat := bad.upTo.length

theorem whole_eq : text = bad.upTo ++ bad.char :: bad.rest := by
  rw [upTo, List.append_assoc]
  exact bad.whole

theorem mem_text {c : Char} (mem : c ∈ bad.upTo ++ bad.char :: bad.rest) : c ∈ text := by
  rwa [← bad.whole_eq] at mem

theorem position_lt : bad.position < text.length := by
  have length := congrArg List.length bad.whole_eq
  rw [List.length_append, List.length_cons] at length
  rw [position]
  omega

/-- A text has one radix. -/
theorem radix_eq : bad.radix = bad'.radix := by
  have both := bad.whole.symm.trans bad'.whole
  by_cases decimal : bad.radix = .decimal
  · rw [decimal, bad.marked decimal _ ⟨_, bad'.whole.symm⟩]
  by_cases decimal' : bad'.radix = .decimal
  · exact absurd (bad'.marked decimal' _ ⟨_, bad.whole.symm⟩) decimal
  revert both decimal decimal'
  cases bad.radix <;> cases bad'.radix <;> simp [Radix.mark]

/-- The characters in front are not like it. -/
theorem not_mem_good : bad.char ∉ bad'.good := by
  intro mem
  rcases bad'.digits _ mem with underscore | ⟨x, digit⟩
  · exact bad.separator underscore
  · exact bad.invalid x (bad.radix_eq bad' ▸ digit)

/-- There is one first character that is no digit. -/
instance : Subsingleton (InvalidDigit text) := by
  constructor
  intro bad bad'
  have radix := bad.radix_eq bad'
  have both := bad.whole.symm.trans bad'.whole
  rw [radix, List.append_cancel_left_eq] at both
  obtain ⟨good, behind⟩ :
      bad.good = bad'.good ∧ bad.char :: bad.rest = bad'.char :: bad'.rest := by
    rcases List.append_eq_append_iff.1 both with ⟨ds, good, behind⟩ | ⟨ds, good, behind⟩
    · cases ds with
      | nil => exact ⟨(good.trans (List.append_nil _)).symm, behind⟩
      | cons d ds =>
        obtain ⟨rfl, -⟩ := List.cons.inj behind
        exact absurd (good ▸ by simp) (bad.not_mem_good bad')
    · cases ds with
      | nil => exact ⟨good.trans (List.append_nil _), behind.symm⟩
      | cons d ds =>
        obtain ⟨rfl, -⟩ := List.cons.inj behind
        exact absurd (good ▸ by simp) (bad'.not_mem_good bad)
  obtain ⟨char, rest⟩ := List.cons.inj behind
  exact InvalidDigit.ext radix good char rest

end InvalidDigit

/-! ## The number so far -/

/-- The number so far, extended by further digits. -/
def extend (base a : Nat) (xs : List Nat) : Nat := xs.foldl (fun a x => base * a + x) a

theorem extend_zero (base : Nat) (xs : List Nat) :
    extend base 0 xs = Nat.ofDigits base xs.reverse := by
  rw [Nat.ofDigits_eq_foldr, List.foldr_reverse, extend]
  simp only [Nat.add_comm, Nat.cast_id]

/-- The number so far only goes away from zero. -/
theorem le_extend (hb : 0 < base) (a : Nat) (xs : List Nat) : a ≤ extend base a xs := by
  induction xs generalizing a with
  | nil => exact Nat.le_refl a
  | cons x xs ih =>
    calc a ≤ base * a := Nat.le_mul_of_pos_left a hb
      _ ≤ base * a + x := Nat.le_add_right _ x
      _ ≤ extend base a (x :: xs) := ih (base * a + x)

theorem fitsSigned_signed {a : Nat} : Word.fitsSigned (signed negative a) ↔
    a < Word.signedBound + negative.toNat := by
  have positive : 0 < Word.signedBound := by decide
  rw [Word.fitsSigned, Bool.and_eq_true, decide_eq_true_iff, decide_eq_true_iff,
    Int.ofNat_eq_natCast, signed]
  cases negative with
  | true =>
    rw [if_pos rfl, Bool.toNat_true]
    omega
  | false =>
    rw [if_neg Bool.false_ne_true, Bool.toNat_false]
    omega

/-- Digits extend the number so far, unless this leaves the range. -/
theorem digits_eq (hb : 0 < base) (hb16 : base ≤ 16) (i : Nat) {a : Nat}
    (fits : Word.fitsSigned (signed negative a))
    (h : List.Forall₂ (IsDigit base) (cs.filter (· != '_')) xs) :
    Literal.digits base negative i (signed negative a) cs =
      if Word.fitsSigned (signed negative (extend base a xs)) then
        .ok (signed negative (extend base a xs))
      else .error .range := by
  induction cs generalizing i a xs with
  | nil =>
    cases h
    exact (if_pos fits).symm
  | cons c cs ih =>
    by_cases underscore : c = '_'
    · rw [List.filter_cons_of_neg (by simpa using underscore)] at h
      rw [Literal.digits, if_pos underscore]
      exact ih (i + 1) fits h
    rw [List.filter_cons_of_pos (by simpa using underscore)] at h
    cases h with
    | @cons _ x _ xs digit h =>
      have next : (if negative then signed negative a * base - x
          else signed negative a * base + x) = signed negative (base * a + x) := by
        rw [signed, signed, Nat.mul_comm]
        cases negative with
        | true =>
          simp only [if_true]
          push_cast
          ring
        | false =>
          simp only [Bool.false_eq_true, if_false]
          push_cast
          ring
      rw [Literal.digits, if_neg underscore, digitValue_of_isDigit hb16 digit]
      dsimp only
      rw [next]
      by_cases inside : Word.fitsSigned (signed negative (base * a + x))
      · rw [if_pos inside]
        exact ih (i + 1) inside h
      · -- all further numbers are beyond this one
        have beyond : ¬ Word.fitsSigned (signed negative (extend base a (x :: xs))) := fun fits =>
          inside (fitsSigned_signed.2
            (Nat.lt_of_le_of_lt (le_extend hb (base * a + x) xs) (fitsSigned_signed.1 fits)))
        rw [if_neg inside, if_neg beyond]

/-- The first character that is neither a digit nor an underscore is where reading ends. -/
theorem exists_of_digits {i position : Nat} {acc : Int}
    (h : Literal.digits base negative i acc cs = .error (.digit position)) :
    ∃ good c rest, cs = good ++ c :: rest ∧ position = i + good.length ∧
      (∀ d ∈ good, d = '_' ∨ ∃ x, digitValue base d = some x) ∧
      c ≠ '_' ∧ digitValue base c = none := by
  induction cs generalizing i acc with
  | nil => cases h
  | cons c cs ih =>
    -- a character that is taken stands before what is read with the others
    have taken (valid : c = '_' ∨ ∃ x, digitValue base c = some x) {acc : Int}
        (h : Literal.digits base negative (i + 1) acc cs = .error (.digit position)) :
        ∃ good c' rest, c :: cs = good ++ c' :: rest ∧ position = i + good.length ∧
          (∀ d ∈ good, d = '_' ∨ ∃ x, digitValue base d = some x) ∧
          c' ≠ '_' ∧ digitValue base c' = none := by
      obtain ⟨good, c', rest, rfl, place, others, apart, none⟩ := ih h
      refine ⟨c :: good, c', rest, rfl, ?_, List.forall_mem_cons.2 ⟨valid, others⟩, apart, none⟩
      rw [place, List.length_cons]
      omega
    rw [Literal.digits] at h
    split at h
    · next underscore => exact taken (.inl underscore) h
    · next apart =>
      split at h
      · next none =>
        cases h
        exact ⟨[], c, cs, rfl, rfl, nofun, apart, none⟩
      · next x value =>
        dsimp only at h
        generalize (if negative then acc * base - x else acc * base + x) = next at h
        split at h
        · exact taken (.inr ⟨x, value⟩) h
        · cases h

end

/-! ## Whole numbers -/

section

variable {r : Radix} {m : Nat} {text : List Char} {negative : Bool} {source : String} {span : Span}

/-- The radix is recognized by what stands in front of the digits. -/
theorem splitRadix_mark {cs : List Char} {xs : List Nat}
    (h : List.Forall₂ (IsDigit r.base) (cs.filter (· != '_')) xs) :
    splitRadix (r.mark ++ cs) = (cs, r.mark.length, r.base) := by
  cases r with
  | decimal =>
    -- none of the marks has a decimal digit or an underscore at its end
    have other : ∀ c ∈ cs, c ≠ 'b' ∧ c ≠ 'o' ∧ c ≠ 'x' := by
      intro c hc
      rcases eq_or_isDigit_of_mem h hc with rfl | ⟨x, digit⟩
      · decide
      · have isDigit := (isDigit_of_isDigit digit).1
        refine ⟨?_, ?_, ?_⟩ <;> rintro rfl <;> cases isDigit
    show splitRadix cs = _
    rw [splitRadix.eq_def]
    split
    · exact absurd rfl (other 'b' (by simp)).1
    · exact absurd rfl (other 'o' (by simp)).2.1
    · exact absurd rfl (other 'x' (by simp)).2.2
    · rfl
  | _ => rfl

/-- A text begins with the mark of its radix. That of a decimal begins with no mark of another
one. -/
theorem exists_radix (text : List Char) : ∃ (r : Radix) (ds : List Char),
    splitRadix text = (ds, r.mark.length, r.base) ∧ text = r.mark ++ ds ∧
      (r = .decimal → ∀ other : Radix, other.mark <+: text → other = .decimal) := by
  rw [splitRadix.eq_def]
  split
  · next ds => exact ⟨.binary, ds, rfl, rfl, nofun⟩
  · next ds => exact ⟨.octal, ds, rfl, rfl, nofun⟩
  · next ds => exact ⟨.hexadecimal, ds, rfl, rfl, nofun⟩
  · next notBinary notOctal notHexadecimal =>
    refine ⟨.decimal, text, rfl, rfl, fun _ other ⟨rest, eq⟩ => ?_⟩
    cases other with
    | binary => exact absurd eq.symm (notBinary rest)
    | octal => exact absurd eq.symm (notOctal rest)
    | decimal => rfl
    | hexadecimal => exact absurd eq.symm (notHexadecimal rest)

theorem integer_eq (h : r.Writes m text) :
    integer source text span negative =
      if Word.fitsSigned (signed negative m) then .ok (signed negative m)
      else .error (Error.syntaxAt (.integerOutOfRange r.base) source span) := by
  obtain @⟨cs, xs, written, -, value, -⟩ := h
  have zero : signed negative 0 = 0 := by cases negative <;> rfl
  have start : Word.fitsSigned (signed negative 0) := by cases negative <;> decide
  have read := digits_eq r.base_pos r.base_le 0 start written
  rw [zero, extend_zero, value] at read
  rw [integer, splitRadix_mark written]
  dsimp only
  rw [read]
  by_cases fits : Word.fitsSigned (signed negative m)
  · rw [if_pos fits, if_pos fits]
  · rw [if_neg fits, if_neg fits]

/-- Why a text is read as no whole number: a character of it is no digit, or the number is too large
for the digits that are read. -/
theorem exists_of_integer {err : Error} (h : integer source text span negative = .error err) :
    (∃ bad : InvalidDigit text, err = Error.syntaxAt (.invalidDigit bad.radix.base) source
        ⟨span.start + bad.position, span.start + bad.position + 1⟩) ∨
      ∃ base, err = Error.syntaxAt (.integerOutOfRange base) source span := by
  obtain ⟨radix, ds, split, whole, marked⟩ := exists_radix text
  rw [integer, split] at h
  dsimp only at h
  split at h
  · cases h
  · next position found =>
    obtain ⟨good, c, rest, rfl, rfl, others, apart, none⟩ := exists_of_digits found
    let bad : InvalidDigit text :=
      { radix, good, char := c, rest, whole, marked
        digits := fun d hd => (others d hd).imp_right fun ⟨x, value⟩ =>
          ⟨x, isDigit_of_digitValue radix.base_le value⟩
        separator := apart
        invalid := fun x digit => by
          cases none.symm.trans (digitValue_of_isDigit radix.base_le digit) }
    cases h
    refine .inl ⟨bad, ?_⟩
    rw [InvalidDigit.position, InvalidDigit.upTo, List.length_append, Nat.zero_add,
      ← Nat.add_assoc]
  · cases h
    exact .inr ⟨radix.base, rfl⟩

/-! ## Decimals -/

theorem spanDigits_eq (cs : List Char) :
    Decimal.spanDigits cs = (cs.takeWhile Char.isDigit, cs.dropWhile Char.isDigit) :=
  List.span_eq_takeWhile_dropWhile Char.isDigit cs

/-- Where something else than a digit, a point or an exponent stands behind the first digits, there
is no decimal. -/
theorem readFloat_eq_none {c : Char} {rest : List Char}
    (h : text.dropWhile Char.isDigit = c :: rest) (other : c ≠ '.' ∧ c ≠ 'e' ∧ c ≠ 'E') :
    Decimal.readFloat text = none := by
  have exponent : Decimal.readExponent (c :: rest) = none := by
    rw [Decimal.readExponent.eq_def]
    exact if_neg (by simpa using other.2)
  rw [Decimal.readFloat, spanDigits_eq, h]
  dsimp only
  split
  · next eq => exact absurd (List.cons.inj eq).1 other.1
  · simp [exponent]

/-- A number with a mark of its radix or with an underscore is no decimal. -/
theorem decimal_eq_error (h : r.Writes m text) (marked : r ≠ .decimal ∨ '_' ∈ text) :
    decimal source text span negative = .error (Error.syntaxAt .invalidFloat source span) := by
  obtain @⟨cs, xs, written, -, -, -⟩ := h
  have none : Decimal.readFloat (r.mark ++ cs) = none := by
    cases r with
    | binary => exact @readFloat_eq_none ('0' :: 'b' :: cs) 'b' cs rfl (by decide)
    | octal => exact @readFloat_eq_none ('0' :: 'o' :: cs) 'o' cs rfl (by decide)
    | hexadecimal => exact @readFloat_eq_none ('0' :: 'x' :: cs) 'x' cs rfl (by decide)
    | decimal =>
      have underscore : '_' ∈ cs := marked.resolve_left (by simp)
      -- the first character that is no digit is an underscore
      cases behind : cs.dropWhile Char.isDigit with
      | nil => cases List.dropWhile_eq_nil_iff.1 behind '_' underscore
      | cons c rest =>
        have mem : c ∈ cs := (List.dropWhile_subset Char.isDigit) (behind ▸ List.mem_cons_self)
        have stops := List.head?_dropWhile_not Char.isDigit cs
        rw [behind] at stops
        rcases eq_or_isDigit_of_mem written mem with rfl | ⟨x, digit⟩
        · exact readFloat_eq_none behind (by decide)
        · cases stops.symm.trans (isDigit_of_isDigit digit).1
  rw [decimal, none]

/-- The number with some decimal digits. -/
theorem ofDigits_eq {xs : List Nat} (h : List.Forall₂ (IsDigit 10) text xs) :
    Decimal.ofDigits text = Nat.ofDigits 10 xs.reverse := by
  have value (a : Nat) :
      text.foldl (fun n c => 10 * n + (c.toNat - '0'.toNat)) a = extend 10 a xs := by
    induction h generalizing a with
    | nil => rfl
    | @cons c x cs xs digit _ ih =>
      rw [List.foldl_cons, (isDigit_of_isDigit digit).2]
      exact ih (10 * a + x)
  rw [Decimal.ofDigits, value, extend_zero]

theorem all_isDigit {xs : List Nat} (h : List.Forall₂ (IsDigit 10) text xs) :
    ∀ c ∈ text, c.isDigit := by
  intro c hc
  obtain ⟨x, digit⟩ := exists_isDigit_of_mem h hc
  exact (isDigit_of_isDigit digit).1

/-- The decimal digits are what a decimal without a point and an exponent is made of. -/
theorem readFloat_eq_toFloat {xs : List Nat} (h : List.Forall₂ (IsDigit 10) text xs)
    (nonempty : xs ≠ []) :
    Decimal.readFloat text = some (Decimal.toFloat (Nat.ofDigits 10 xs.reverse) 0) := by
  have all := all_isDigit h
  have value := ofDigits_eq h
  have some : text.isEmpty = false := by
    cases h with
    | nil => exact absurd rfl nonempty
    | cons => rfl
  rw [Decimal.readFloat, spanDigits_eq, List.takeWhile_eq_self_iff.2 all,
    List.dropWhile_eq_nil_iff.2 all]
  simp only [some, Bool.false_and, Bool.false_eq_true, if_false, List.append_nil,
    Decimal.readExponent, Option.map_some, List.length_nil, value]
  rfl

/-- A text without a mark of its radix and without underscores is a decimal. -/
theorem readFloat_of_writes (h : r.Writes m text) (plain : r = .decimal ∧ '_' ∉ text) :
    Decimal.readFloat text = some (Decimal.toFloat m 0) := by
  obtain ⟨rfl, noUnderscore⟩ := plain
  obtain @⟨cs, xs, written, nonempty, value, -⟩ := h
  have unfiltered : cs.filter (· != '_') = cs := by
    refine List.filter_eq_self.2 fun c hc => bne_iff_ne.2 ?_
    rintro rfl
    exact noUnderscore hc
  rw [unfiltered] at written
  rw [show Radix.mark .decimal ++ cs = cs from rfl, readFloat_eq_toFloat written nonempty,
    show Nat.ofDigits 10 xs.reverse = m from value]

/-! ## Numbers -/

/-- There is no point and no sign in the text of a number. -/
theorem any_eq_false (h : r.Writes m text) :
    (text.any fun c => c == '.' || c == '-' || c == '+') = false := by
  refine List.any_eq_false.2 fun c hc => ?_
  rcases h.eq_or_isAlphanum hc with rfl | alphanum
  · decide
  · rw [Bool.or_eq_true, Bool.or_eq_true, beq_iff_eq, beq_iff_eq, beq_iff_eq]
    rintro ((rfl | rfl) | rfl) <;> cases alphanum

/-- What is neither a whole number nor a decimal is reported as one of the two. -/
theorem eq_or_of_number {err : Error} (h : number source text span negative = .error err) :
    err = Error.syntaxAt .invalidFloat source span ∨
      integer source text span negative = .error err := by
  unfold number at h
  split at h
  · cases h
  · next whole =>
    split at h
    · cases h
    · next failed =>
      cases h
      split
      · unfold decimal at failed
        split at failed
        · cases failed
        · cases failed
          exact .inl rfl
      · exact .inr whole

/-- A number within the range is read as it is. -/
theorem number_eq_int (h : r.Writes m text) (fits : Word.fitsSigned (signed negative m)) :
    number source text span negative = .ok (.int (Int64.ofInt (signed negative m))) := by
  rw [number, integer_eq h, if_pos fits]

/-- A number beyond the range is an error, unless it is written like a decimal. -/
theorem number_eq_error (h : r.Writes m text) (beyond : ¬ Word.fitsSigned (signed negative m))
    (marked : r ≠ .decimal ∨ '_' ∈ text) :
    number source text span negative =
      .error (Error.syntaxAt (.integerOutOfRange r.base) source span) := by
  rw [number, integer_eq h, if_neg beyond, decimal_eq_error h marked]
  dsimp only
  rw [any_eq_false h, if_neg Bool.false_ne_true]

/-- A number beyond the range is a decimal if it is written like one. -/
theorem number_eq_float (h : r.Writes m text) (beyond : ¬ Word.fitsSigned (signed negative m))
    (plain : r = .decimal ∧ '_' ∉ text) :
    number source text span negative =
      .ok (.float (if negative then -Decimal.toFloat m 0 else Decimal.toFloat m 0)) := by
  rw [number, integer_eq h, if_neg beyond, decimal, readFloat_of_writes h plain]

/-- Numbers within the range are no other ones as integers of 64 bits. -/
theorem toInt_ofInt {n : Int} (fits : Word.fitsSigned n) : (Int64.ofInt n).toInt = n := by
  rw [Word.fitsSigned, Bool.and_eq_true, decide_eq_true_iff, decide_eq_true_iff] at fits
  exact Int64.toInt_ofInt_of_le fits.1 fits.2

end

end Stencil.Literal
