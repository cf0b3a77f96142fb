import Mathlib.Algebra.Order.Field.Basic
import Mathlib.Algebra.Order.Field.Rat
import Mathlib.Data.List.TakeWhile
import Mathlib.Tactic.FieldSimp
import Mathlib.Tactic.Ring
import Stencil.Decimal.Layout

/-!
# The numbers of decimals

However a decimal is laid out, its text stands for one number.

- `Digits.toRat`: the number of a decimal.
- `Digits.toRat_ofNat`: the zeros at the end of a decimal do not matter.
- `textValue`: the number that a text stands for, which may have a point and an exponent.
- `Layout.textValue_digits`: every layout of a decimal stands for its number.
- `Layout.isNumeral_digits`, `Layout.mem_digits`: the characters of a number.
-/

namespace Stencil.Decimal

/-! ## Digits -/

/-- The number of some digits without a point. -/
def natOf (cs : List Char) : ℕ := Nat.ofDigitChars 10 cs 0

@[simp] theorem natOf_nil : natOf [] = 0 := rfl

@[simp] theorem natOf_toDigits (n : ℕ) : natOf (Nat.toDigits 10 n) = n :=
  Nat.ofDigitChars_ten_toDigits

theorem natOf_append (cs ds : List Char) :
    natOf (cs ++ ds) = 10 ^ ds.length * natOf cs + natOf ds := by
  rw [natOf, Nat.ofDigitChars_append, Nat.ofDigitChars_eq_ofDigitChars_zero]
  rfl

theorem natOf_zeros (n : ℕ) : natOf (List.replicate n '0') = 0 := by
  rw [natOf, Nat.ofDigitChars_replicate_zero, Nat.mul_zero]

theorem natOf_append_zeros (cs : List Char) (n : ℕ) :
    natOf (cs ++ List.replicate n '0') = 10 ^ n * natOf cs := by
  rw [natOf_append, natOf_zeros, List.length_replicate, Nat.add_zero]

theorem natOf_zeros_append (n : ℕ) (cs : List Char) :
    natOf (List.replicate n '0' ++ cs) = natOf cs := by
  rw [natOf_append, natOf_zeros, Nat.mul_zero, Nat.zero_add]

/-! ## Decimals -/

/-- The number of a decimal. -/
def Digits.toRat (d : Digits) : ℚ :=
  natOf d.digits * 10 ^ (d.exponent - d.digits.length + 1)

/-- Behind what is left without the zeros at the end there are zeros. -/
theorem exists_append_zeros (cs : List Char) :
    ∃ n, cs = (cs.reverse.dropWhile (· == '0')).reverse ++ List.replicate n '0' := by
  refine ⟨(cs.reverse.takeWhile (· == '0')).length, ?_⟩
  have zeros : cs.reverse.takeWhile (· == '0') =
      List.replicate (cs.reverse.takeWhile (· == '0')).length '0' := by
    refine List.eq_replicate_iff.2 ⟨rfl, fun c hc => ?_⟩
    simpa using List.mem_takeWhile_imp hc
  calc cs = (cs.reverse.takeWhile (· == '0') ++ cs.reverse.dropWhile (· == '0')).reverse := by
        rw [List.takeWhile_append_dropWhile, List.reverse_reverse]
    _ = (cs.reverse.dropWhile (· == '0')).reverse ++
          (cs.reverse.takeWhile (· == '0')).reverse := List.reverse_append
    _ = _ := by
        conv_lhs => rw [zeros, List.reverse_replicate]

/-- Zeros at the end do not change the number of a decimal. -/
theorem Digits.toRat_ofNat (n : ℕ) (power : ℤ) :
    (Digits.ofNat n power).toRat = n * 10 ^ power := by
  -- the `k` zeros that are dropped are `k` more in the exponent of the last digit that is left
  obtain ⟨k, hk⟩ := exists_append_zeros (Nat.toDigits 10 n)
  have number : n = 10 ^ k * natOf (Digits.ofNat n power).digits := by
    have h := congrArg natOf hk
    rw [natOf_toDigits, natOf_append_zeros] at h
    exact h
  have length : (Nat.toDigits 10 n).length = (Digits.ofNat n power).digits.length + k := by
    have h := congrArg List.length hk
    rw [List.length_append, List.length_replicate] at h
    exact h
  have exponent : (Digits.ofNat n power).exponent - (Digits.ofNat n power).digits.length + 1 =
      power + k := by
    show power + ((Nat.toDigits 10 n).length : ℤ) - 1 - _ + 1 = _
    rw [length]
    push_cast
    ring
  rw [Digits.toRat, exponent, zpow_add₀ (by norm_num), zpow_natCast]
  conv_rhs => rw [number]
  push_cast
  ring

/-! ## Texts -/

/-- The number of digits with an optional point. -/
def pointed (cs : List Char) : ℚ :=
  natOf (cs.takeWhile (· != '.') ++ (cs.dropWhile (· != '.')).drop 1) *
    10 ^ (-((cs.dropWhile (· != '.')).drop 1).length : ℤ)

/-- The number of an exponent, which may have a sign. -/
def signed : List Char → ℤ
  | '-' :: cs => -natOf cs
  | '+' :: cs => natOf cs
  | cs => natOf cs

/-- The number that a text stands for: digits with an optional point and an optional exponent. -/
def textValue (cs : List Char) : ℚ :=
  pointed (cs.takeWhile (· != 'e')) * 10 ^ signed ((cs.dropWhile (· != 'e')).drop 1)

theorem all_ne {cs : List Char} {c : Char} (h : c ∉ cs) : ∀ d ∈ cs, (d != c) = true := by
  intro d hd
  rw [bne_iff_ne]
  rintro rfl
  exact h hd

theorem pointed_append {whole : List Char} (h : '.' ∉ whole) (fraction : List Char) :
    pointed (whole ++ '.' :: fraction) =
      natOf (whole ++ fraction) * 10 ^ (-fraction.length : ℤ) := by
  rw [pointed, List.takeWhile_append_of_pos (all_ne h), List.dropWhile_append_of_pos (all_ne h)]
  simp

theorem pointed_of_notMem {cs : List Char} (h : '.' ∉ cs) : pointed cs = natOf cs := by
  rw [pointed, List.takeWhile_eq_self_iff.2 (all_ne h), List.dropWhile_eq_nil_iff.2 (all_ne h)]
  simp

theorem textValue_append {cs : List Char} (h : 'e' ∉ cs) (exponent : List Char) :
    textValue (cs ++ 'e' :: exponent) = pointed cs * 10 ^ signed exponent := by
  rw [textValue, List.takeWhile_append_of_pos (all_ne h), List.dropWhile_append_of_pos (all_ne h)]
  simp

theorem textValue_of_notMem {cs : List Char} (h : 'e' ∉ cs) : textValue cs = pointed cs := by
  rw [textValue, List.takeWhile_eq_self_iff.2 (all_ne h), List.dropWhile_eq_nil_iff.2 (all_ne h)]
  simp [signed]

/-! ## Layouts -/

/-- The decimal has a digit, and every character of it is one. -/
structure Digits.Proper (d : Digits) : Prop where
  ne_nil : d.digits ≠ []
  isDigit : ∀ c ∈ d.digits, c.isDigit

theorem notMem_of_isDigit {c : Char} (hc : c.isDigit = false) {cs : List Char}
    (h : ∀ d ∈ cs, d.isDigit) : c ∉ cs := by
  intro hm
  exact absurd (h c hm) (by simp [hc])

theorem isDigit_of_mem_toDigits {n : ℕ} : ∀ c ∈ Nat.toDigits 10 n, c.isDigit :=
  fun _ => Nat.isDigit_of_mem_toDigits (by decide) (by decide)

theorem isDigit_of_mem_zeros {n : ℕ} : ∀ c ∈ List.replicate n '0', c.isDigit := by
  intro c hc
  rw [List.eq_of_mem_replicate hc]
  rfl

theorem isDigit_append {cs ds : List Char} (hc : ∀ c ∈ cs, c.isDigit) (hd : ∀ c ∈ ds, c.isDigit) :
    ∀ c ∈ cs ++ ds, c.isDigit := by
  intro c h
  rcases List.mem_append.1 h with h | h
  · exact hc c h
  · exact hd c h

/-- The digits of a positive number are proper. -/
theorem Digits.proper_ofNat {n : ℕ} (h : 0 < n) (power : ℤ) : (Digits.ofNat n power).Proper := by
  obtain ⟨k, hk⟩ := exists_append_zeros (Nat.toDigits 10 n)
  constructor
  -- with no digit left, the number would be zero
  · intro nil
    have number := congrArg natOf hk
    rw [natOf_toDigits, natOf_append_zeros] at number
    rw [show (Nat.toDigits 10 n).reverse.dropWhile (· == '0') = [] from
      List.reverse_eq_nil_iff.1 nil] at number
    simp only [List.reverse_nil, natOf_nil, Nat.mul_zero] at number
    omega
  · intro c hc
    refine isDigit_of_mem_toDigits (n := n) c ?_
    rw [hk]
    exact List.mem_append_left _ hc

theorem signed_toDigits (n : ℕ) : signed (Nat.toDigits 10 n) = n := by
  have digits := isDigit_of_mem_toDigits (n := n)
  rw [signed.eq_def]
  split
  · exact absurd (digits '-' (by simp_all)) (by decide)
  · exact absurd (digits '+' (by simp_all)) (by decide)
  · rw [natOf_toDigits]

theorem textValue_pointed {whole fraction : List Char} (hw : ∀ c ∈ whole, c.isDigit)
    (hf : ∀ c ∈ fraction, c.isDigit) :
    textValue (whole ++ '.' :: fraction) =
      natOf (whole ++ fraction) * 10 ^ (-fraction.length : ℤ) := by
  rw [textValue_of_notMem, pointed_append (notMem_of_isDigit rfl hw)]
  simp only [List.mem_append, List.mem_cons, not_or]
  exact ⟨notMem_of_isDigit rfl hw, by decide, notMem_of_isDigit rfl hf⟩

theorem textValue_whole {cs : List Char} (h : ∀ c ∈ cs, c.isDigit) : textValue cs = natOf cs := by
  rw [textValue_of_notMem (notMem_of_isDigit rfl h), pointed_of_notMem (notMem_of_isDigit rfl h)]

namespace Layout

variable {l : Layout} {d : Digits}

/-- Positional notation of a decimal stands for its number. -/
theorem textValue_positional (hd : d.Proper) : textValue (l.positional d) = d.toRat := by
  have ten : (10 : ℚ) ≠ 0 := by norm_num
  rw [positional, Digits.toRat]
  split
  · next small =>
    -- zeros between the point and the digits
    have shape : '0' :: '.' :: List.replicate (-d.exponent - 1).toNat '0' ++ d.digits =
        List.replicate 1 '0' ++ '.' :: (List.replicate (-d.exponent - 1).toNat '0' ++ d.digits) :=
      rfl
    rw [shape, textValue_pointed isDigit_of_mem_zeros
      (isDigit_append isDigit_of_mem_zeros hd.isDigit), natOf_zeros_append, natOf_zeros_append,
      List.length_append, List.length_replicate]
    congr 2
    omega
  split
  · next large =>
    -- zeros between the digits and the point, which may be left out
    have whole := isDigit_append hd.isDigit
      (isDigit_of_mem_zeros (n := (d.exponent - Int.ofNat d.digits.length + 1).toNat))
    have power : (d.exponent - d.digits.length + 1) =
        ((d.exponent - Int.ofNat d.digits.length + 1).toNat : ℤ) := by
      simp only [Int.ofNat_eq_natCast] at large ⊢
      omega
    rw [power, zpow_natCast]
    split
    · show textValue (_ ++ '.' :: List.replicate 1 '0') = _
      rw [textValue_pointed whole isDigit_of_mem_zeros, natOf_append_zeros, natOf_append_zeros]
      rw [List.length_replicate]
      push_cast
      field_simp
    · rw [List.append_nil, textValue_whole whole, natOf_append_zeros]
      push_cast
      ring
  · next middle =>
    -- the point among the digits
    have digits := hd.isDigit
    rw [textValue_pointed (fun c hc => digits c (List.mem_of_mem_take hc))
      (fun c hc => digits c (List.mem_of_mem_drop hc)), List.take_append_drop, List.length_drop]
    congr 2
    simp only [Int.ofNat_eq_natCast] at middle
    omega

/-- The exponent is read with its sign. -/
theorem signed_exponent (l : Layout) (power : ℤ) :
    signed ((if power < 0 then ['-'] else if l.plusSign then ['+'] else []) ++
      Nat.toDigits 10 power.natAbs) = power := by
  split
  · show -((natOf (Nat.toDigits 10 power.natAbs) : ℕ) : ℤ) = power
    rw [natOf_toDigits]
    omega
  split
  · show ((natOf (Nat.toDigits 10 power.natAbs) : ℕ) : ℤ) = power
    rw [natOf_toDigits]
    omega
  · rw [List.nil_append, signed_toDigits]
    omega

theorem textValue_mantissa {mantissa : List Char} (h : 'e' ∉ mantissa) (l : Layout) (power : ℤ) :
    textValue (mantissa ++ 'e' ::
      (if power < 0 then ['-'] else if l.plusSign then ['+'] else []) ++
        Nat.toDigits 10 power.natAbs) = pointed mantissa * 10 ^ power := by
  rw [List.append_assoc, List.cons_append, textValue_append h, signed_exponent]

/-- Exponent notation of a decimal stands for its number. -/
theorem textValue_scientific (hd : d.Proper) : textValue (l.scientific d) = d.toRat := by
  obtain ⟨digits, power⟩ := d
  obtain ⟨ne_nil, isDigit⟩ := hd
  have ten : (10 : ℚ) ≠ 0 := by norm_num
  have e : 'e' ∉ digits := notMem_of_isDigit rfl isDigit
  have point : '.' ∉ digits := notMem_of_isDigit rfl isDigit
  -- a single digit is written without a point
  rcases digits with - | ⟨c, - | ⟨c', cs⟩⟩
  · exact absurd rfl ne_nil
  · show textValue ([c] ++ 'e' :: _ ++ _) = _
    rw [textValue_mantissa e, pointed_of_notMem point, Digits.toRat]
    simp
  · show textValue (([c] ++ '.' :: c' :: cs) ++ 'e' :: _ ++ _) = _
    have e' : 'e' ∉ [c] ++ '.' :: c' :: cs := by simp_all
    have point' : '.' ∉ [c] := by simp_all
    rw [textValue_mantissa e', pointed_append point', Digits.toRat, mul_assoc, ← zpow_add₀ ten]
    simp only [List.cons_append, List.nil_append, List.length_cons]
    congr 2
    push_cast
    ring

/-- Every layout of a decimal stands for its number. -/
theorem textValue_digits (hd : d.Proper) : textValue (l.digits d) = d.toRat := by
  rw [digits]
  split
  · exact textValue_positional hd
  · exact textValue_scientific hd

end Layout

/-! ## Characters -/

/-- The characters of numbers. -/
def isNumeral (c : Char) : Bool := c.isDigit || c == '.' || c == 'e' || c == '+' || c == '-'

theorem isNumeral_of_isDigit {c : Char} (h : c.isDigit) : isNumeral c := by
  simp [isNumeral, h]

namespace Layout

variable {l : Layout} {d : Digits}

theorem isNumeral_positional (hd : d.Proper) : ∀ c ∈ l.positional d, isNumeral c := by
  have digits : ∀ c ∈ d.digits, isNumeral c := fun c hc => isNumeral_of_isDigit (hd.isDigit c hc)
  have zeros : ∀ n, ∀ c ∈ List.replicate n '0', isNumeral c :=
    fun _ c hc => isNumeral_of_isDigit (isDigit_of_mem_zeros c hc)
  intro c hc
  rw [positional] at hc
  split at hc
  · simp only [List.cons_append, List.mem_cons, List.mem_append] at hc
    rcases hc with rfl | rfl | hc | hc
    · rfl
    · rfl
    · exact zeros _ c hc
    · exact digits c hc
  split at hc
  · simp only [List.mem_append] at hc
    rcases hc with (hc | hc) | hc
    · exact digits c hc
    · exact zeros _ c hc
    · split at hc
      · simp only [List.mem_cons, List.not_mem_nil, or_false] at hc
        rcases hc with rfl | rfl <;> rfl
      · simp at hc
  · simp only [List.mem_append, List.mem_cons] at hc
    rcases hc with hc | rfl | hc
    · exact digits c (List.mem_of_mem_take hc)
    · rfl
    · exact digits c (List.mem_of_mem_drop hc)

theorem isNumeral_scientific (hd : d.Proper) : ∀ c ∈ l.scientific d, isNumeral c := by
  have digits : ∀ c ∈ d.digits, isNumeral c := fun c hc => isNumeral_of_isDigit (hd.isDigit c hc)
  intro c hc
  simp only [scientific, List.mem_append, List.mem_cons] at hc
  rcases hc with (hc | rfl | hc) | hc
  · split at hc
    · simp at hc
    · next h => exact digits c (by rw [h]; exact hc)
    · next h =>
      rcases List.mem_cons.1 hc with rfl | hc
      · exact digits c (by rw [h]; exact List.mem_cons_self)
      rcases List.mem_cons.1 hc with rfl | hc
      · rfl
      · exact digits c (by rw [h]; exact List.mem_cons_of_mem _ hc)
  · rfl
  · split at hc
    · rw [List.mem_singleton.1 hc]
      rfl
    split at hc
    · rw [List.mem_singleton.1 hc]
      rfl
    · simp at hc
  · exact isNumeral_of_isDigit (isDigit_of_mem_toDigits c hc)

/-- A layout writes a decimal with the characters of numbers. -/
theorem isNumeral_digits (hd : d.Proper) : ∀ c ∈ l.digits d, isNumeral c := by
  rw [digits]
  split
  · exact isNumeral_positional hd
  · exact isNumeral_scientific hd

/-- The first character of a decimal is a digit. -/
theorem digits_eq_cons (hd : d.Proper) : ∃ c cs, l.digits d = c :: cs ∧ c.isDigit := by
  obtain ⟨ds, power⟩ := d
  obtain ⟨ne_nil, isDigit⟩ := hd
  -- every notation begins with the first digit or with a zero
  rcases ds with - | ⟨c, ds⟩
  · exact absurd rfl ne_nil
  have first : c.isDigit := isDigit c List.mem_cons_self
  rw [digits]
  split
  · rw [positional]
    split
    · exact ⟨_, _, rfl, rfl⟩
    split
    · exact ⟨c, _, rfl, first⟩
    · exact ⟨c, _, rfl, first⟩
  · cases ds with
    | nil => exact ⟨c, _, rfl, first⟩
    | cons c' ds => exact ⟨c, _, rfl, first⟩

/-- With a fraction always written, no number looks like a whole one. -/
theorem mem_digits (h : l.fraction) : '.' ∈ l.digits d ∨ 'e' ∈ l.digits d := by
  rw [digits]
  split
  · left
    rw [positional]
    split
    · simp
    split
    · simp
    · simp
  · right
    simp [scientific]

end Layout

end Stencil.Decimal
