import Mathlib.Algebra.Order.Field.Power
import Mathlib.Tactic.GCongr
import Mathlib.Tactic.Linarith
import Mathlib.Tactic.Positivity
import Stencil.Proofs.Decimals

/-!
# The texts of doubles

The decimal that is written for a double lies in the interval of the numbers that round to it, and
the intervals of different doubles have no number in common. So different doubles have different
texts.

- `Interval.Contains`: a number lies in an interval.
- `Binary64.Legal`: the mantissas and exponents that doubles have.
- `exists_shortest`: the decimal of a double lies in its interval.
- `Layout.writeBinary_injective`: doubles with the same text are the same.
-/

namespace Stencil.Decimal

/-! ## Intervals -/

/-- A power with any exponent as a fraction of two powers. -/
theorem zpow_eq_div (b : ℕ) (hb : b ≠ 0) (z : ℤ) :
    (b : ℚ) ^ z = ((b ^ z.toNat : ℕ) : ℚ) / ((b ^ (-z).toNat : ℕ) : ℚ) := by
  have hb' : (b : ℚ) ≠ 0 := by exact_mod_cast hb
  push_cast
  rw [← zpow_natCast, ← zpow_natCast, ← zpow_sub₀ hb']
  congr 1
  omega

namespace Interval

/-- The number lies in the interval. -/
def Contains (i : Interval) (x : ℚ) : Prop :=
  if i.closed then i.low ≤ x * i.den ∧ x * i.den ≤ i.high
  else i.low < x * i.den ∧ x * i.den < i.high

theorem holds_iff (i : Interval) (num : ℕ) {den : ℕ} (h : 0 < den) :
    i.holds num den = true ↔ i.Contains ((num : ℚ) / den) := by
  have hden : (0 : ℚ) < den := by exact_mod_cast h
  have left : ((num : ℚ) / den) * i.den = (num * i.den : ℕ) / den := by
    push_cast
    ring
  unfold holds Contains
  rw [left, le_div_iff₀ hden, div_le_iff₀ hden, lt_div_iff₀ hden, div_lt_iff₀ hden]
  split
  · simp only [Bool.and_eq_true, decide_eq_true_eq]
    exact_mod_cast Iff.rfl
  · simp only [Bool.and_eq_true, decide_eq_true_eq]
    exact_mod_cast Iff.rfl

/-- The lower end of the interval of a double, in quarters of its unit. -/
def lowEnd (m : ℕ) (lowest : Bool) : ℕ := if lowest then 4 * m - 1 else 4 * m - 2

theorem contains_around (m : ℕ) (q : ℤ) (lowest : Bool) (x : ℚ) :
    (around m q lowest).Contains x ↔
      if m % 2 = 0 then lowEnd m lowest * (2 : ℚ) ^ q ≤ 4 * x ∧ 4 * x ≤ (4 * m + 2) * (2 : ℚ) ^ q
      else lowEnd m lowest * (2 : ℚ) ^ q < 4 * x ∧ 4 * x < (4 * m + 2) * (2 : ℚ) ^ q := by
  have power := zpow_eq_div 2 (by decide) q
  have down : (0 : ℚ) < ((2 ^ (-q).toNat : ℕ) : ℚ) := by positivity
  have value : x * ((4 * 2 ^ (-q).toNat : ℕ) : ℚ) = 4 * x * ((2 ^ (-q).toNat : ℕ) : ℚ) := by
    push_cast
    ring
  have high : ((4 * m + 2 : ℕ) : ℚ) = 4 * m + 2 := by push_cast; rfl
  rw [Nat.cast_ofNat] at power
  rw [power, ← mul_div_assoc, ← mul_div_assoc, div_le_iff₀ down, le_div_iff₀ down,
    div_lt_iff₀ down, lt_div_iff₀ down, ← value, ← high, ← Nat.cast_mul, ← Nat.cast_mul]
  unfold Contains around
  simp only [beq_iff_eq]
  rfl

end Interval

/-- The mantissas and exponents that doubles have: the mantissa has at most 53 bits, and no fewer
unless the exponent is the smallest one. -/
structure Legal (m : ℕ) (q : ℤ) (lowest : Bool) : Prop where
  lt : m < 2 ^ 53
  ge : -1074 ≤ q
  full : q = -1074 ∨ 2 ^ 52 ≤ m
  isLowest : lowest = true ↔ m = 2 ^ 52 ∧ q ≠ -1074

namespace Legal

open Stencil.Decimal.Interval

variable {m m' : ℕ} {q q' : ℤ} {lowest lowest' : Bool}

/-- Whether the next smaller double is nearer is determined by the others. -/
theorem lowest_eq (h : Legal m q lowest) (h' : Legal m q lowest') : lowest = lowest' :=
  Bool.eq_iff_iff.2 (h.isLowest.trans h'.isLowest.symm)

/-- The end of a double is below the interval of a greater one with the same exponent. -/
theorem end_le_of_mantissa (h : Legal m q lowest) (h' : Legal m' q lowest') (lt : m < m') :
    4 * m + 2 ≤ lowEnd m' lowest' ∧ (m % 2 = 0 → m' % 2 = 0 → 4 * m + 2 < lowEnd m' lowest') := by
  have notLowest : lowest' = false := by
    rw [Bool.eq_false_iff]
    intro low
    obtain ⟨rfl, ne⟩ := h'.isLowest.1 low
    rcases h.full with eq | le
    · exact ne eq
    · omega
  simp only [lowEnd, notLowest, Bool.false_eq_true, if_false]
  omega

/-- The end of a double is below the interval of a double with a greater exponent. -/
theorem end_le_of_exponent (h : Legal m q lowest) (h' : Legal m' q' lowest') (lt : q < q') :
    4 * m + 2 ≤ 2 * lowEnd m' lowest' ∧ (m % 2 = 0 → 4 * m + 2 < 2 * lowEnd m' lowest') := by
  have bound : m < 2 ^ 53 := h.lt
  have full : 2 ^ 52 ≤ m' := by
    -- only the smallest exponent has short mantissas, and `q'` is not the smallest
    rcases h'.full with eq | le
    · exact absurd eq (by have := h.ge; omega)
    · exact le
  have end' : 2 ^ 54 - 1 ≤ lowEnd m' lowest' := by
    unfold lowEnd
    split
    -- the nearer neighbour of a power of two takes one quarter, which fits just so
    · omega
    · next notLowest =>
      have ne : m' ≠ 2 ^ 52 := fun eq => notLowest (h'.isLowest.2 ⟨eq, by have := h.ge; omega⟩)
      omega
  omega

/-- A double with a greater exponent, or the same and a greater mantissa, has its interval behind
that of the smaller one. -/
theorem end_le (h : Legal m q lowest) (h' : Legal m' q' lowest') (lt : q < q' ∨ q = q' ∧ m < m') :
    (4 * m + 2) * (2 : ℚ) ^ q ≤ lowEnd m' lowest' * (2 : ℚ) ^ q' ∧
      (m % 2 = 0 → m' % 2 = 0 →
        (4 * m + 2) * (2 : ℚ) ^ q < lowEnd m' lowest' * (2 : ℚ) ^ q') := by
  have pos : (0 : ℚ) < 2 ^ q := by positivity
  -- a greater exponent at least doubles the unit, so both ends are compared in the smaller one
  rcases lt with lt | ⟨rfl, lt⟩
  · obtain ⟨le, less⟩ := end_le_of_exponent h h' lt
    have twice : (2 : ℚ) * 2 ^ q ≤ 2 ^ q' := by
      rw [← zpow_one_add₀ (by norm_num)]
      exact zpow_le_zpow_right₀ (by norm_num) (by omega)
    have scaled : ((2 * lowEnd m' lowest' : ℕ) : ℚ) * 2 ^ q ≤ lowEnd m' lowest' * (2 : ℚ) ^ q' := by
      calc ((2 * lowEnd m' lowest' : ℕ) : ℚ) * 2 ^ q = lowEnd m' lowest' * (2 * 2 ^ q) := by
            push_cast
            ring
        _ ≤ lowEnd m' lowest' * (2 : ℚ) ^ q' := by gcongr
    constructor
    · refine le_trans ?_ scaled
      gcongr
      exact_mod_cast le
    · intro even _
      refine lt_of_lt_of_le ?_ scaled
      gcongr
      exact_mod_cast less even
  · obtain ⟨le, less⟩ := end_le_of_mantissa h h' lt
    constructor
    · gcongr
      exact_mod_cast le
    · intro even even'
      gcongr
      exact_mod_cast less even even'

theorem not_contains_of_lt (h : Legal m q lowest) (h' : Legal m' q' lowest')
    (lt : q < q' ∨ q = q' ∧ m < m') {x : ℚ} (hx : (around m q lowest).Contains x) :
    ¬(around m' q' lowest').Contains x := by
  intro hx'
  obtain ⟨le, less⟩ := end_le h h' lt
  rw [contains_around] at hx hx'
  -- the ends belong to the interval if the mantissa is even, so they meet only if both are
  split at hx
  · next even =>
    split at hx'
    · next even' => linarith [less even even', hx.2, hx'.1]
    · linarith [hx.2, hx'.1]
  · split at hx'
    · linarith [hx.2, hx'.1]
    · linarith [hx.2, hx'.1]

/-- The intervals of different doubles have no number in common. -/
theorem eq_of_contains (h : Legal m q lowest) (h' : Legal m' q' lowest') {x : ℚ}
    (hx : (around m q lowest).Contains x) (hx' : (around m' q' lowest').Contains x) :
    m = m' ∧ q = q' ∧ lowest = lowest' := by
  have exponents : q = q' := by
    rcases lt_trichotomy q q' with lt | eq | gt
    · exact absurd hx' (not_contains_of_lt h h' (.inl lt) hx)
    · exact eq
    · exact absurd hx (not_contains_of_lt h' h (.inl gt) hx')
  subst exponents
  have mantissas : m = m' := by
    rcases lt_trichotomy m m' with lt | eq | gt
    · exact absurd hx' (not_contains_of_lt h h' (.inr ⟨rfl, lt⟩) hx)
    · exact eq
    · exact absurd hx (not_contains_of_lt h' h (.inr ⟨rfl, gt⟩) hx')
  subst mantissas
  exact ⟨rfl, rfl, h.lowest_eq h'⟩

end Legal

/-! ## The first digit -/

theorem lt_pow_digitCount (n : ℕ) : n < 10 ^ digitCount n :=
  (Nat.length_toDigits_le_iff (by decide) Nat.length_toDigits_pos).1 le_rfl

theorem pow_digitCount_le {n : ℕ} (h : 0 < n) : 10 ^ (digitCount n - 1) ≤ n := by
  rcases Nat.eq_zero_or_pos (digitCount n - 1) with none | some
  · rw [none]
    exact h
  · refine Nat.le_of_not_lt fun lt => ?_
    have le := (Nat.length_toDigits_le_iff (by decide) some).2 lt
    change digitCount n ≤ digitCount n - 1 at le
    omega

/-- No positive number is below the power of ten of its first digit. -/
theorem zpow_leadingPower_le {num den : ℕ} (hn : 0 < num) (hd : 0 < den) :
    (10 : ℚ) ^ leadingPower num den ≤ (num : ℚ) / den := by
  have hn' : (0 : ℚ) < num := by exact_mod_cast hn
  have hd' : (0 : ℚ) < den := by exact_mod_cast hd
  unfold leadingPower
  split
  · next le =>
    -- from one upwards, the digits before the point are counted
    have whole : 0 < num / den := Nat.div_pos le hd
    have digits : 0 < digitCount (num / den) := Nat.length_toDigits_pos
    have power : Int.ofNat (digitCount (num / den)) - 1 =
        ((digitCount (num / den) - 1 : ℕ) : ℤ) := by
      simp only [Int.ofNat_eq_natCast]
      omega
    rw [power, zpow_natCast, le_div_iff₀ hd']
    have bound : 10 ^ (digitCount (num / den) - 1) * den ≤ num :=
      le_trans (Nat.mul_le_mul_right den (pow_digitCount_le whole)) (Nat.div_mul_le_self num den)
    exact_mod_cast bound
  · next lt =>
    -- below one, the digits of the reciprocal, rounded up, are counted
    rw [Int.ofNat_eq_natCast, zpow_neg, zpow_natCast, inv_eq_one_div,
      div_le_div_iff₀ (by positivity) hd', one_mul]
    have ceiling : den ≤ ((den + num - 1) / num) * num := by
      have := Nat.lt_div_mul_add (a := den + num - 1) hn
      omega
    have digits := lt_pow_digitCount ((den + num - 1) / num - 1)
    have bound : den ≤ num * 10 ^ digitCount ((den + num - 1) / num - 1) := by
      calc den ≤ ((den + num - 1) / num) * num := ceiling
        _ ≤ 10 ^ digitCount ((den + num - 1) / num - 1) * num :=
            Nat.mul_le_mul_right num (by omega)
        _ = _ := Nat.mul_comm ..
    exact_mod_cast bound

/-! ## Grids -/

section Grid

variable (i : Interval) (tie : Tie) (first : ℤ)

/-- The power of ten of the last digit on the grid of `k` digits. -/
def gridPower (k : ℕ) : ℤ := first - (Int.ofNat k - 1)

/-- The number on the grid that is not above the given one. -/
def gridBelow (k : ℕ) : ℕ :=
  i.value * 10 ^ (-gridPower first k).toNat / (i.den * 10 ^ (gridPower first k).toNat)

/-- The number lies in the interval, as it is tested on a grid. -/
def gridHolds (k n : ℕ) : Bool :=
  i.holds (n * 10 ^ (gridPower first k).toNat) (10 ^ (-gridPower first k).toNat)

theorem gridHolds_iff (k n : ℕ) :
    gridHolds i first k n = true ↔ i.Contains (n * (10 : ℚ) ^ gridPower first k) := by
  have power := zpow_eq_div 10 (by decide) (gridPower first k)
  rw [Nat.cast_ofNat] at power
  rw [gridHolds, Interval.holds_iff _ _ (by positivity), power]
  push_cast
  rw [mul_div_assoc]

/-- A grid gives one of the two neighbours of the number on it. -/
theorem onGrid_eq (k : ℕ) : ∃ prefersAbove : Bool, onGrid i tie first k =
    if gridBelow i first k == 0 || !gridHolds i first k (gridBelow i first k) then
      if gridHolds i first k (gridBelow i first k + 1) then
        some (Digits.ofNat (gridBelow i first k + 1) (gridPower first k))
      else none
    else if gridHolds i first k (gridBelow i first k + 1) && prefersAbove then
      some (Digits.ofNat (gridBelow i first k + 1) (gridPower first k))
    else some (Digits.ofNat (gridBelow i first k) (gridPower first k)) :=
  ⟨_, rfl⟩

/-- What a grid gives is a positive number on it that lies in the interval. -/
theorem exists_of_onGrid {k : ℕ} {d : Digits} (h : onGrid i tie first k = some d) :
    ∃ n, 0 < n ∧ d = Digits.ofNat n (gridPower first k) ∧
      i.Contains (n * (10 : ℚ) ^ gridPower first k) := by
  obtain ⟨prefersAbove, eq⟩ := onGrid_eq i tie first k
  rw [eq] at h
  split at h
  · split at h
    · next above =>
      cases h
      exact ⟨_, Nat.succ_pos _, rfl, (gridHolds_iff i first k _).1 above⟩
    · simp at h
  · next below =>
    simp only [Bool.or_eq_true, beq_iff_eq, Bool.not_eq_true', not_or, Bool.not_eq_false] at below
    split at h
    · next above =>
      cases h
      exact ⟨_, Nat.succ_pos _, rfl, (gridHolds_iff i first k _).1 (Bool.and_eq_true_iff.1 above).1⟩
    · cases h
      exact ⟨_, Nat.pos_of_ne_zero below.1, rfl, (gridHolds_iff i first k _).1 below.2⟩

/-- A grid with a neighbour of the number in the interval gives something. -/
theorem isSome_onGrid {k : ℕ} (pos : 0 < gridBelow i first k)
    (h : i.Contains (gridBelow i first k * (10 : ℚ) ^ gridPower first k) ∨
      i.Contains ((gridBelow i first k + 1 : ℕ) * (10 : ℚ) ^ gridPower first k)) :
    (onGrid i tie first k).isSome := by
  obtain ⟨prefersAbove, eq⟩ := onGrid_eq i tie first k
  rw [← gridHolds_iff, ← gridHolds_iff] at h
  rw [eq]
  split
  · next below =>
    have above : gridHolds i first k (gridBelow i first k + 1) = true := by
      rcases h with h | h
      · simp [h] at below
        omega
      · exact h
    rw [if_pos above]
    rfl
  · split <;> rfl

/-- What is found among some grids is given by one of them. -/
theorem exists_of_search {n k : ℕ} {d : Digits} (h : search i tie first n k = some d) :
    ∃ k', onGrid i tie first k' = some d := by
  induction n generalizing k with
  | zero => simp [search] at h
  | succ n ih =>
    rw [search, Option.or_eq_some_iff] at h
    rcases h with h | ⟨-, h⟩
    · exact ⟨k, h⟩
    · exact ih h

/-- If one of some grids gives something, something is found among them. -/
theorem isSome_search {n k j : ℕ} (lt : j < n) (h : (onGrid i tie first (k + j)).isSome) :
    (search i tie first n k).isSome := by
  induction n generalizing k j with
  | zero => omega
  | succ n ih =>
    rw [search, Option.isSome_or, Bool.or_eq_true]
    rcases j with - | j
    · exact .inl h
    · refine .inr (ih (j := j) (by omega) ?_)
      rw [show k + 1 + j = k + (j + 1) by omega]
      exact h

end Grid

/-! ## Seventeen digits -/

/-- The number is between its two neighbours on a grid. -/
theorem gridBelow_le (i : Interval) (first : ℤ) (k : ℕ) (h : 0 < i.den) :
    gridBelow i first k * (10 : ℚ) ^ gridPower first k ≤ i.value / i.den ∧
      (i.value : ℚ) / i.den < (gridBelow i first k + 1 : ℕ) * (10 : ℚ) ^ gridPower first k := by
  have power := zpow_eq_div 10 (by decide) (gridPower first k)
  rw [Nat.cast_ofNat] at power
  have den : (0 : ℚ) < i.den := by exact_mod_cast h
  have down : (0 : ℚ) < ((10 ^ (-gridPower first k).toNat : ℕ) : ℚ) := by positivity
  have unit : 0 < i.den * 10 ^ (gridPower first k).toNat := by positivity
  have le := Nat.div_mul_le_self (i.value * 10 ^ (-gridPower first k).toNat)
    (i.den * 10 ^ (gridPower first k).toNat)
  have lt := Nat.lt_div_mul_add (a := i.value * 10 ^ (-gridPower first k).toNat) unit
  rw [power, mul_div_assoc', mul_div_assoc', div_le_div_iff₀ down den, div_lt_div_iff₀ den down]
  unfold gridBelow
  constructor
  · exact_mod_cast le_of_eq_of_le (by ring) le
  · exact_mod_cast lt_of_lt_of_eq lt (by ring)

section Seventeen

variable {m : ℕ} {q : ℤ} {lowest : Bool}

theorem den_around_pos : 0 < (Interval.around m q lowest).den := by
  show 0 < 4 * 2 ^ (-q).toNat
  positivity

theorem value_around :
    ((Interval.around m q lowest).value : ℚ) / (Interval.around m q lowest).den =
      m * (2 : ℚ) ^ q := by
  have power := zpow_eq_div 2 (by decide) q
  have down : ((2 ^ (-q).toNat : ℕ) : ℚ) ≠ 0 := by positivity
  rw [Nat.cast_ofNat] at power
  show ((4 * m * 2 ^ q.toNat : ℕ) : ℚ) / ((4 * 2 ^ (-q).toNat : ℕ) : ℚ) = _
  rw [power, Nat.cast_mul, Nat.cast_mul, Nat.cast_mul]
  field_simp

theorem contains_of_lt {x : ℚ} (low : Interval.lowEnd m lowest * (2 : ℚ) ^ q < 4 * x)
    (high : 4 * x < (4 * m + 2) * (2 : ℚ) ^ q) : (Interval.around m q lowest).Contains x := by
  rw [Interval.contains_around]
  split
  · exact ⟨low.le, high.le⟩
  · exact ⟨low, high⟩

theorem lowEnd_le : Interval.lowEnd m lowest ≤ 4 * m := by
  unfold Interval.lowEnd
  split <;> omega

/-- Of the neighbours of a double on a grid of seventeen digits one lies in its interval, since the
grid is finer than the interval is wide. -/
theorem contains_neighbour (h : Legal m q lowest) (pos : 0 < m) {g : ℚ} {b : ℕ}
    (fine : g * 10 ^ 16 ≤ m * (2 : ℚ) ^ q) (below : b * g ≤ m * (2 : ℚ) ^ q)
    (above : m * (2 : ℚ) ^ q < (b + 1 : ℕ) * g) :
    (Interval.around m q lowest).Contains (b * g) ∨
      (Interval.around m q lowest).Contains ((b + 1 : ℕ) * g) := by
  have unit : (0 : ℚ) < 2 ^ q := by positivity
  have low : Interval.lowEnd m lowest * (2 : ℚ) ^ q ≤ 4 * (m * (2 : ℚ) ^ q) := by
    rw [← mul_assoc]
    gcongr
    exact_mod_cast lowEnd_le
  have high : ((b + 1 : ℕ) : ℚ) * g = b * g + g := by
    push_cast
    ring
  rw [high] at above ⊢
  -- a step of the grid below half a unit stays inside whatever the interval's lower end is
  by_cases half : 4 * g < 2 * (2 : ℚ) ^ q
  · exact .inr (contains_of_lt (by linarith) (by linarith))
  have notLowest : lowest = false := by
    rw [Bool.eq_false_iff]
    intro isLowest
    obtain ⟨rfl, -⟩ := h.isLowest.1 isLowest
    push_cast at fine
    linarith
  -- otherwise the step is below one unit, the width of the interval, and one neighbour is inside
  have whole : g < 2 ^ q := by
    have bound : (m : ℚ) ≤ 2 ^ 53 := by exact_mod_cast h.lt.le
    have : (m : ℚ) * 2 ^ q ≤ 2 ^ 53 * 2 ^ q := by gcongr
    linarith
  have width : (Interval.lowEnd m lowest : ℚ) * 2 ^ q = 4 * (m * (2 : ℚ) ^ q) - 2 * 2 ^ q := by
    simp only [Interval.lowEnd, notLowest, Bool.false_eq_true, if_false]
    rw [Nat.cast_sub (by omega)]
    push_cast
    ring
  rcases lt_or_ge (4 * (m * (2 : ℚ) ^ q) - 2 * 2 ^ q) (4 * (b * g)) with inside | outside
  · exact .inl (contains_of_lt (by linarith) (by linarith))
  · exact .inr (contains_of_lt (by linarith) (by linarith))

/-- Seventeen digits are enough. -/
theorem isSome_onGrid_seventeen (tie : Tie) (h : Legal m q lowest) (pos : 0 < m) {first : ℤ}
    (le : (10 : ℚ) ^ first ≤ m * (2 : ℚ) ^ q) :
    (onGrid (Interval.around m q lowest) tie first 17).isSome := by
  obtain ⟨below, above⟩ := gridBelow_le (Interval.around m q lowest) first 17 den_around_pos
  rw [value_around] at below above
  have step : (10 : ℚ) ^ gridPower first 17 * 10 ^ 16 ≤ m * (2 : ℚ) ^ q := by
    rw [← zpow_natCast, ← zpow_add₀ (by norm_num)]
    refine le_of_eq_of_le ?_ le
    congr 1
    simp [gridPower]
  refine isSome_onGrid _ tie first ?_ (contains_neighbour h pos step below above)
  have fine : (0 : ℚ) < 10 ^ gridPower first 17 := by positivity
  rw [Nat.pos_iff_ne_zero]
  intro none
  rw [none] at above
  push_cast at above
  linarith

/-- The decimal of a double is positive and lies in its interval. -/
theorem exists_shortest (tie : Tie) (h : Legal m q lowest) (pos : 0 < m) :
    ∃ (n : ℕ) (power : ℤ), 0 < n ∧ shortest tie m q lowest = Digits.ofNat n power ∧
      (Interval.around m q lowest).Contains (n * (10 : ℚ) ^ power) := by
  have value : 0 < (Interval.around m q lowest).value := by
    show 0 < 4 * m * 2 ^ q.toNat
    positivity
  have le : (10 : ℚ) ^ leadingPower _ _ ≤ m * (2 : ℚ) ^ q :=
    value_around ▸ zpow_leadingPower_le value den_around_pos
  -- the search may end before seventeen digits, but no later
  have found := isSome_search (Interval.around m q lowest) tie _ (n := 17) (k := 1) (j := 16)
    (by decide) (isSome_onGrid_seventeen tie h pos le)
  obtain ⟨d, hd⟩ := Option.isSome_iff_exists.1 found
  obtain ⟨k, hk⟩ := exists_of_search _ _ _ hd
  obtain ⟨n, some, rfl, contains⟩ := exists_of_onGrid _ _ _ hk
  refine ⟨n, _, some, ?_, contains⟩
  simp only [shortest]
  rw [hd]
  rfl

end Seventeen

/-! ## Texts -/

namespace Binary64

/-- What a double stands for, if it is finite, is legal. -/
def Legal : Binary64 → Prop
  | .finite _ m q lowest => Decimal.Legal m q lowest
  | _ => True

theorem legal_ofBits (bits : UInt64) : (ofBits bits).Legal := by
  have fraction : bits.toNat % implicitBit < 2 ^ 52 := Nat.mod_lt _ (by decide)
  have exponent : bits.toNat / implicitBit % 0x800 < 0x800 := Nat.mod_lt _ (by decide)
  unfold ofBits
  simp only []
  split
  · split <;> trivial
  · next notSpecial =>
    split
    · refine ⟨by omega, le_rfl, .inl rfl, ?_⟩
      simp
    · next notSmall =>
      simp only [beq_iff_eq] at notSmall
      refine ⟨by simp only [implicitBit] at *; omega, ?_, .inr (by simp [implicitBit]), ?_⟩
      · simp only [Int.ofNat_eq_natCast]
        omega
      · simp [implicitBit]
        omega

theorem legal_ofFloat (x : Float) : (ofFloat x).Legal := legal_ofBits x.toBits

/-- The bits of a finite double, from what it stands for. -/
theorem toNat_of_ofBits {bits : UInt64} {negative : Bool} {m : ℕ} {q : ℤ} {lowest : Bool}
    (h : ofBits bits = .finite negative m q lowest) :
    bits.toNat = (if negative then 2 ^ 63 else 0) +
      (if m < 2 ^ 52 then m else 2 ^ 52 * (q + 1075).toNat + (m - 2 ^ 52)) := by
  have bound : bits.toNat < 2 ^ 64 := bits.toNat_lt
  unfold ofBits at h
  simp only [] at h
  split at h
  · split at h <;> cases h
  split at h
  · next small =>
    simp only [beq_iff_eq, implicitBit] at small
    simp only [finite.injEq, implicitBit, Word.signedBound] at h
    obtain ⟨rfl, rfl, -⟩ := h
    rw [if_pos (by omega : bits.toNat % 4503599627370496 < 2 ^ 52)]
    simp only [beq_iff_eq]
    split <;> omega
  · next notSpecial notSmall =>
    simp only [beq_iff_eq, implicitBit] at notSpecial notSmall
    simp only [finite.injEq, implicitBit, Word.signedBound, Int.ofNat_eq_natCast] at h
    obtain ⟨rfl, rfl, rfl, -⟩ := h
    rw [if_neg (by omega : ¬4503599627370496 + bits.toNat % 4503599627370496 < 2 ^ 52)]
    simp only [beq_iff_eq]
    split <;> omega

/-- A finite double is determined by what it stands for. -/
theorem ofFloat_injective {x y : Float} (finite : (ofFloat x).isFinite)
    (h : ofFloat x = ofFloat y) : x = y := by
  obtain ⟨negative, m, q, lowest, eq⟩ :
      ∃ negative m q lowest, ofFloat x = .finite negative m q lowest := by
    cases hx : ofFloat x with
    | finite negative m q lowest => exact ⟨negative, m, q, lowest, rfl⟩
    | notANumber => simp [hx, isFinite] at finite
    | infinite negative => simp [hx, isFinite] at finite
  have bits : x.toBits = y.toBits :=
    UInt64.toNat_inj.1 ((toNat_of_ofBits eq).trans (toNat_of_ofBits (h ▸ eq)).symm)
  obtain ⟨⟨a, valid⟩⟩ := x
  obtain ⟨⟨b, valid'⟩⟩ := y
  have same : a = b := bits
  subst same
  rfl

end Binary64

namespace Layout

variable {l : Layout} {m m' : ℕ} {q q' : ℤ} {lowest lowest' : Bool}

/-- The text of what a finite double stands for, without its sign. -/
def magnitude (l : Layout) (m : ℕ) (q : ℤ) (lowest : Bool) : List Char :=
  if m == 0 then if l.fraction then ['0', '.', '0'] else ['0']
  else l.digits (shortest l.tie m q lowest)

theorem writeBinary_finite (l : Layout) (negative : Bool) (m : ℕ) (q : ℤ) (lowest : Bool) :
    l.writeBinary (.finite negative m q lowest) =
      (if negative then ['-'] else []) ++ l.magnitude m q lowest := by
  unfold writeBinary magnitude
  simp only []
  split <;> rfl

theorem magnitude_eq_cons (h : Legal m q lowest) :
    ∃ c cs, l.magnitude m q lowest = c :: cs ∧ c.isDigit := by
  unfold magnitude
  split
  · split <;> exact ⟨'0', _, rfl, rfl⟩
  · next positive =>
    obtain ⟨n, power, some, eq, -⟩ :=
      exists_shortest l.tie h (Nat.pos_of_ne_zero (by simpa using positive))
    rw [eq]
    exact digits_eq_cons (Digits.proper_ofNat some power)

/-- The number that is written is zero for zero, and otherwise in the interval of the double. -/
theorem textValue_magnitude (h : Legal m q lowest) :
    (m = 0 ∧ textValue (l.magnitude m q lowest) = 0) ∨
      (0 < m ∧ 0 < textValue (l.magnitude m q lowest) ∧
        (Interval.around m q lowest).Contains (textValue (l.magnitude m q lowest))) := by
  unfold magnitude
  split
  · next none =>
    refine .inl ⟨by simpa using none, ?_⟩
    split
    · show textValue (List.replicate 1 '0' ++ '.' :: List.replicate 1 '0') = 0
      rw [textValue_pointed isDigit_of_mem_zeros isDigit_of_mem_zeros, natOf_append_zeros,
        natOf_zeros, Nat.mul_zero, Nat.cast_zero, zero_mul]
    · show textValue (List.replicate 1 '0') = 0
      rw [textValue_whole isDigit_of_mem_zeros, natOf_zeros, Nat.cast_zero]
  · next positive =>
    have pos : 0 < m := Nat.pos_of_ne_zero (by simpa using positive)
    obtain ⟨n, power, some, eq, contains⟩ := exists_shortest l.tie h pos
    rw [eq, textValue_digits (Digits.proper_ofNat some power), Digits.toRat_ofNat]
    have some' : (0 : ℚ) < n := by exact_mod_cast some
    exact .inr ⟨pos, by positivity, contains⟩

/-- Different mantissas and exponents have different texts. -/
theorem magnitude_injective (h : Legal m q lowest) (h' : Legal m' q' lowest')
    (eq : l.magnitude m q lowest = l.magnitude m' q' lowest') :
    m = m' ∧ q = q' ∧ lowest = lowest' := by
  -- equal texts have equal values, which lie in both intervals
  rcases textValue_magnitude (l := l) h with ⟨zero, value⟩ | ⟨-, pos, contains⟩
  · rcases textValue_magnitude (l := l) h' with ⟨zero', -⟩ | ⟨-, pos', -⟩
    · have exponents : q = q' := by
        rcases h.full with hq | hq <;> rcases h'.full with hq' | hq' <;> omega
      subst zero zero' exponents
      exact ⟨rfl, rfl, h.lowest_eq h'⟩
    · rw [← eq, value] at pos'
      exact absurd pos' (lt_irrefl 0)
  · rcases textValue_magnitude (l := l) h' with ⟨-, value'⟩ | ⟨-, -, contains'⟩
    · rw [eq, value'] at pos
      exact absurd pos (lt_irrefl 0)
    · rw [eq] at contains
      exact h.eq_of_contains h' contains contains'

/-- A minus sign stands before the numbers below zero, and no digit is one. -/
theorem sign_injective {c c' : Char} {cs cs' : List Char} (hc : c.isDigit) (hc' : c'.isDigit)
    {negative negative' : Bool}
    (eq : (if negative then ['-'] else []) ++ c :: cs =
      (if negative' then ['-'] else []) ++ c' :: cs') :
    negative = negative' ∧ c :: cs = c' :: cs' := by
  cases negative with
  | false =>
    cases negative' with
    | false => exact ⟨rfl, eq⟩
    | true =>
      obtain ⟨rfl, -⟩ := List.cons.inj eq
      exact absurd hc (by decide)
  | true =>
    cases negative' with
    | false =>
      obtain ⟨rfl, -⟩ := List.cons.inj eq
      exact absurd hc' (by decide)
    | true => exact ⟨rfl, (List.cons.inj eq).2⟩

/-- Finite doubles with the same text are the same. -/
theorem writeBinary_injective {a b : Binary64} (ha : a.isFinite) (hb : b.isFinite)
    (legal : a.Legal) (legal' : b.Legal) (eq : l.writeBinary a = l.writeBinary b) : a = b := by
  cases a with
  | notANumber => simp [Binary64.isFinite] at ha
  | infinite negative => simp [Binary64.isFinite] at ha
  | finite negative m q lowest =>
    cases b with
    | notANumber => simp [Binary64.isFinite] at hb
    | infinite negative => simp [Binary64.isFinite] at hb
    | finite negative' m' q' lowest' =>
      rw [writeBinary_finite, writeBinary_finite] at eq
      obtain ⟨c, cs, hc, digit⟩ := magnitude_eq_cons (l := l) legal
      obtain ⟨c', cs', hc', digit'⟩ := magnitude_eq_cons (l := l) legal'
      rw [hc, hc'] at eq
      obtain ⟨rfl, rest⟩ := sign_injective digit digit' eq
      rw [← hc, ← hc'] at rest
      obtain ⟨rfl, rfl, rfl⟩ := magnitude_injective legal legal' rest
      rfl

theorem isNumeral_magnitude (h : Legal m q lowest) :
    ∀ c ∈ l.magnitude m q lowest, isNumeral c := by
  unfold magnitude
  split
  · split <;> exact List.all_eq_true.1 rfl
  · next positive =>
    obtain ⟨n, power, some, eq, -⟩ :=
      exists_shortest l.tie h (Nat.pos_of_ne_zero (by simpa using positive))
    rw [eq]
    exact isNumeral_digits (Digits.proper_ofNat some power)

/-- A finite double is written with the characters of numbers. -/
theorem isNumeral_writeBinary {a : Binary64} (ha : a.isFinite) (legal : a.Legal) :
    ∀ c ∈ l.writeBinary a, isNumeral c := by
  cases a with
  | notANumber => simp [Binary64.isFinite] at ha
  | infinite negative => simp [Binary64.isFinite] at ha
  | finite negative m q lowest =>
    rw [writeBinary_finite]
    intro c hc
    rcases List.mem_append.1 hc with hc | hc
    · split at hc
      · rw [List.mem_singleton.1 hc]
        rfl
      · simp at hc
    · exact isNumeral_magnitude legal c hc

theorem mem_magnitude (hl : l.fraction) :
    '.' ∈ l.magnitude m q lowest ∨ 'e' ∈ l.magnitude m q lowest := by
  unfold magnitude
  split
  · decide
  · exact mem_digits hl

/-- With a fraction always written, no finite double looks like a whole number. -/
theorem mem_writeBinary {a : Binary64} (ha : a.isFinite) (hl : l.fraction) :
    '.' ∈ l.writeBinary a ∨ 'e' ∈ l.writeBinary a := by
  cases a with
  | notANumber => simp [Binary64.isFinite] at ha
  | infinite negative => simp [Binary64.isFinite] at ha
  | finite negative m q lowest =>
    rw [writeBinary_finite, List.mem_append, List.mem_append]
    exact (mem_magnitude hl).imp .inr .inr

end Layout

end Stencil.Decimal
