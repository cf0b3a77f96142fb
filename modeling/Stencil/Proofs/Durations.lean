import Mathlib.Algebra.Order.Group.Unbundled.Abs
import Mathlib.Data.List.DropRight
import Stencil.Cache.Lifetime
import Stencil.Proofs.IntegerLiterals
import Stencil.Proofs.Tiling

/-!
# Durations as they are written

A duration is a whole number of seconds, or a text with a number and a unit. It is read as the
number that it stands for, without a bound on the way, and refused if this number is not one of a
duration.

- `Decimal.Writes`: the texts of a whole number with a sign.
- `Lifetime.Denotes`: the texts that stand for a number of seconds.
- `Lifetime.unbounded?`: the seconds of a text without blanks at its ends, without a bound.
- `Lifetime.unbounded?_trim`: they are those that the text stands for.
- `Lifetime.duration_exact`: what is read of a value.
-/

namespace Stencil

open Literal (Sign IsDigit)

/-! ## Whole numbers -/

namespace Decimal

/-- The text of a whole number: a sign or none, and digits, the highest one first. -/
inductive Writes : List Char → Int → Prop
  | intro (sign : Sign) {cs : List Char} {xs : List Nat} (digits : List.Forall₂ (IsDigit 10) cs xs)
      (nonempty : xs ≠ []) :
      Writes (sign.chars ++ cs) (Literal.signed sign.isNegative (Nat.ofDigits 10 xs.reverse))

variable {c : Char} {cs : List Char} {n : Int}

theorem exists_isDigit (h : c.isDigit) : ∃ x, IsDigit 10 c x := by
  have all : ∀ x < 10, Char.ofNat (48 + x) = x.digitChar := by decide
  have bounds : 48 ≤ c.toNat ∧ c.toNat ≤ 57 := by
    simpa [Char.isDigit, UInt32.le_iff_toNat_le] using h
  refine ⟨c.toNat - 48, by omega, .inl ?_⟩
  rw [← all _ (by omega), Nat.add_sub_cancel' bounds.1, Char.ofNat_toNat]

theorem exists_digits (h : ∀ c ∈ cs, c.isDigit) : ∃ xs, List.Forall₂ (IsDigit 10) cs xs := by
  induction cs with
  | nil => exact ⟨[], .nil⟩
  | cons c cs ih =>
    rw [List.forall_mem_cons] at h
    obtain ⟨x, digit⟩ := exists_isDigit h.1
    obtain ⟨xs, digits⟩ := ih h.2
    exact ⟨x :: xs, .cons digit digits⟩

/-- What is read of a sign and what stands behind it. -/
theorem readInt_sign (sign : Sign) (unsigned : sign = .none → '-' ∉ cs.head? ∧ '+' ∉ cs.head?) :
    readInt (sign.chars ++ cs) =
      if cs.isEmpty || !cs.all Char.isDigit then none
      else some (Literal.signed sign.isNegative (ofDigits cs)) := by
  cases sign with
  | none =>
    rw [Sign.chars, List.nil_append, readInt]
    · rfl
    · rintro rest rfl
      exact (unsigned rfl).1 rfl
    · rintro rest rfl
      exact (unsigned rfl).2 rfl
  | plus => rfl
  | minus => rfl

theorem readInt_of_writes (h : Writes cs n) : readInt cs = some n := by
  obtain @⟨sign, cs, xs, digits, nonempty⟩ := h
  have all := Literal.all_isDigit digits
  have unsigned : '-' ∉ cs.head? ∧ '+' ∉ cs.head? := by
    constructor <;> intro first <;> cases all _ (List.mem_of_mem_head? first)
  have some : cs.isEmpty = false := by
    cases digits with
    | nil => exact absurd rfl nonempty
    | cons => rfl
  rw [readInt_sign sign fun _ => unsigned, some, List.all_eq_true.2 all,
    Literal.ofDigits_eq digits]
  rfl

theorem writes_of_readInt_sign (sign : Sign)
    (unsigned : sign = .none → '-' ∉ cs.head? ∧ '+' ∉ cs.head?)
    (h : readInt (sign.chars ++ cs) = some n) : Writes (sign.chars ++ cs) n := by
  rw [readInt_sign sign unsigned] at h
  split at h
  · cases h
  · next made =>
    rw [Bool.or_eq_true, not_or, Bool.not_eq_true', Bool.not_eq_false, List.all_eq_true] at made
    obtain ⟨xs, digits⟩ := exists_digits made.2
    cases h
    rw [Literal.ofDigits_eq digits]
    refine .intro sign digits ?_
    rintro rfl
    cases digits
    exact made.1 rfl

/-- A whole number is read as it is written. -/
theorem readInt_eq_some_iff : readInt cs = some n ↔ Writes cs n := by
  refine ⟨fun h => ?_, readInt_of_writes⟩
  by_cases minus : '-' ∈ cs.head?
  · obtain ⟨rest, rfl⟩ := List.head?_eq_some_iff.1 minus
    exact writes_of_readInt_sign .minus nofun h
  · by_cases plus : '+' ∈ cs.head?
    · obtain ⟨rest, rfl⟩ := List.head?_eq_some_iff.1 plus
      exact writes_of_readInt_sign .plus nofun h
    · exact writes_of_readInt_sign .none (fun _ => ⟨minus, plus⟩) h

/-- There is no blank in the text of a number, and the text is not empty. -/
theorem Writes.solid (h : Writes cs n) : cs ≠ [] ∧ ∀ c ∈ cs, Text.isBlank c = false := by
  obtain @⟨sign, cs, xs, digits, nonempty⟩ := h
  have signs : sign.chars.all fun c => !Text.isBlank c := by cases sign <;> decide
  refine ⟨fun none => ?_, List.forall_mem_append.2 ⟨fun c mem => ?_, fun c mem => ?_⟩⟩
  · obtain ⟨-, rfl⟩ := List.append_eq_nil_iff.1 none
    cases digits
    exact nonempty rfl
  · simpa using List.all_eq_true.1 signs c mem
  · obtain ⟨x, digit⟩ := Literal.exists_isDigit_of_mem digits mem
    have solid : ∀ x < 10, Text.isBlank x.digitChar = false ∧
      Text.isBlank x.digitChar.toUpper = false := by decide
    rcases digit.char with rfl | rfl
    · exact (solid x digit.lt).1
    · exact (solid x digit.lt).2

end Decimal

/-! ## Blanks at the ends of a text -/

namespace Text

variable {front cs back : List Char}

theorem trimEnd_of_blank (h : ∀ c ∈ cs, isBlank c) : trimEnd cs = [] := by
  induction cs with
  | nil => rfl
  | cons c cs ih =>
    rw [List.forall_mem_cons] at h
    rw [trimEnd, ih h.2]
    exact if_pos h.1

/-- A text without blanks at its ends is what is left of it between blanks. -/
theorem trim_append (blank : ∀ c ∈ front, isBlank c) (starts : StartsFirmly cs)
    (ends : EndsFirmly cs) (nonempty : cs ≠ []) (blank' : ∀ c ∈ back, isBlank c) :
    trim (front ++ (cs ++ back)) = cs := by
  obtain ⟨c, rest, rfl⟩ := List.exists_cons_of_ne_nil nonempty
  have solid : ¬ isBlank c = true := by simpa using starts c rfl
  rw [trim, trimStart, List.dropWhile_append_of_pos blank, List.cons_append,
    List.dropWhile_cons_of_neg solid, ← List.cons_append, trimEnd_append ends,
    trimEnd_of_blank blank', List.append_nil]

/-- A text is what is left of it between blanks. -/
theorem exists_append_trim (cs : List Char) : ∃ front back,
    (∀ c ∈ front, isBlank c) ∧ (∀ c ∈ back, isBlank c) ∧ cs = front ++ (trim cs ++ back) := by
  obtain ⟨back, eq, blank⟩ := exists_trimEnd_append (trimStart cs)
  refine ⟨cs.takeWhile isBlank, back, fun c mem => List.mem_takeWhile_imp mem, blank, ?_⟩
  rw [trim, ← eq, takeWhile_append_trimStart]

theorem firmly_of_solid (h : ∀ c ∈ cs, isBlank c = false) : StartsFirmly cs ∧ EndsFirmly cs :=
  ⟨fun c mem => h c (List.mem_of_mem_head? mem), fun c mem => h c (List.mem_of_getLast? mem)⟩

end Text

/-! ## Seconds -/

namespace Lifetime

/-- The units of time with their seconds. -/
def units : List (String × Int) :=
  [("second", 1), ("sec", 1), ("minute", 60), ("min", 60), ("hour", 60 * 60), ("day", 24 * 3600),
    ("week", 7 * 86400), ("month", 30 * 86400), ("year", 365 * 86400)]

/-- A text stands for a number of seconds: as a whole number, or as a whole number of units with
blanks between. The name of the unit may have any number of `s` at its end. Blanks at the ends of the
text do not count. -/
inductive Denotes : List Char → Int → Prop
  | seconds {front numeral back : List Char} {n : Int} (blank : ∀ c ∈ front, Text.isBlank c)
      (written : Decimal.Writes numeral n) (blank' : ∀ c ∈ back, Text.isBlank c) :
      Denotes (front ++ (numeral ++ back)) n
  | units {front numeral gap back : List Char} {n u : Int} {name : String} (plural : Nat)
      (blank : ∀ c ∈ front, Text.isBlank c) (written : Decimal.Writes numeral n)
      (between : ∀ c ∈ gap, Text.isBlank c) (separate : gap ≠ []) (unit : (name, u) ∈ units)
      (blank' : ∀ c ∈ back, Text.isBlank c) :
      Denotes (front ++ (numeral ++ gap ++ name.toList ++ List.replicate plural 's' ++ back))
        (n * u)

theorem unitSeconds?_eq_some_iff {name : String} {u : Int} :
    unitSeconds? name = some u ↔ (name, u) ∈ units := by
  constructor
  · intro h
    simp only [unitSeconds?, Bool.or_eq_true, decide_eq_true_eq] at h
    -- the names are tested one after the other, as they are listed
    repeat' split at h
    all_goals cases h
    · next named => rcases named with rfl | rfl <;> decide
    · next named => rcases named with rfl | rfl <;> decide
    all_goals next named => exact named ▸ by decide
  · have all : ∀ e ∈ units, unitSeconds? e.1 = some e.2 := by decide
    exact all (name, u)

/-- The names of units do not end with the letter of the plural. -/
theorem getLast?_of_mem_units {name : String} {u : Int} (h : (name, u) ∈ units) :
    name.toList ≠ [] ∧ name.toList.getLast? ≠ some 's' := by
  have all : ∀ e ∈ units, e.1.toList ≠ [] ∧ e.1.toList.getLast? ≠ some 's' := by decide
  exact all _ h

theorem pos_of_mem_units {name : String} {u : Int} (h : (name, u) ∈ units) : 1 ≤ u := by
  have all : ∀ e ∈ units, 1 ≤ e.2 := by decide
  exact all _ h

/-- There is no blank in the name of a unit and its plural. -/
theorem solid_of_mem_units {name : String} {u : Int} (h : (name, u) ∈ units) (plural : Nat) :
    ∀ c ∈ name.toList ++ List.replicate plural 's', Text.isBlank c = false := by
  have all : ∀ e ∈ units, e.1.toList.all fun c => !Text.isBlank c := by decide
  refine List.forall_mem_append.2 ⟨fun c mem => ?_, fun c mem => ?_⟩
  · simpa using List.all_eq_true.1 (all _ h) c mem
  · rw [List.eq_of_mem_replicate mem]
    rfl

/-- The name of a unit is found between blanks and in front of the plural. -/
theorem unitOf_append {gap back : List Char} {name : String} {u : Int} (plural : Nat)
    (between : ∀ c ∈ gap, Text.isBlank c) (unit : (name, u) ∈ units)
    (blank : ∀ c ∈ back, Text.isBlank c) :
    unitOf (gap ++ (name.toList ++ List.replicate plural 's' ++ back)) = name := by
  obtain ⟨nonempty, singular⟩ := getLast?_of_mem_units unit
  obtain ⟨starts, ends⟩ := Text.firmly_of_solid (solid_of_mem_units unit plural)
  rw [unitOf, Text.trim_append between starts ends
    (List.append_ne_nil_of_left_ne_nil nonempty _) blank, List.reverse_append,
    List.reverse_replicate, List.dropWhile_append_of_pos (by simp)]
  cases last : name.toList.reverse with
  | nil => exact absurd (List.reverse_eq_nil_iff.1 last) nonempty
  | cons c cs =>
    have other : (c == 's') = false := by
      rw [← List.head?_reverse, last, List.head?_cons] at singular
      exact beq_eq_false_iff_ne.2 fun same => singular (congrArg some same)
    rw [List.dropWhile_cons, other, if_neg Bool.false_ne_true, ← last, List.reverse_reverse,
      String.ofList_toList]

theorem exists_append_unitOf (cs : List Char) : ∃ gap back plural,
    (∀ c ∈ gap, Text.isBlank c) ∧ (∀ c ∈ back, Text.isBlank c) ∧
      cs = gap ++ ((unitOf cs).toList ++ List.replicate plural 's' ++ back) := by
  obtain ⟨gap, back, between, blank, eq⟩ := Text.exists_append_trim cs
  let plural := (Text.trim cs).rtakeWhile (· == 's')
  have letters : ∀ c ∈ plural, c = 's' := fun c mem =>
    eq_of_beq (List.mem_rtakeWhile_imp (p := (· == 's')) mem)
  have parts : (Text.trim cs).rdropWhile (· == 's') ++ plural = Text.trim cs :=
    List.rdropWhile_append_rtakeWhile
  refine ⟨gap, back, plural.length, between, blank, ?_⟩
  rw [← List.eq_replicate_of_mem letters, unitOf, String.toList_ofList]
  exact eq.trans (by rw [← List.rdropWhile, parts])

/-- The seconds of a text without blanks at its ends, whatever their number is. -/
def unbounded? (cs : List Char) : Option Int :=
  match cs.dropWhile (!Text.isBlank ·) with
  | [] => Decimal.readInt cs
  | _ :: unit => do
    let n ← Decimal.readInt (cs.takeWhile (!Text.isBlank ·))
    let u ← unitSeconds? (unitOf unit)
    some (n * u)

/-- A number alone. -/
theorem unbounded?_solid {cs : List Char} (solid : ∀ c ∈ cs, Text.isBlank c = false) :
    unbounded? cs = Decimal.readInt cs := by
  have alone : cs.dropWhile (!Text.isBlank ·) = [] :=
    List.dropWhile_eq_nil_iff.2 fun c mem => by rw [solid c mem]; rfl
  rw [unbounded?, alone]

/-- A number and a unit behind the first blank. -/
theorem unbounded?_append {cs unit : List Char} {c : Char}
    (solid : ∀ c ∈ cs, Text.isBlank c = false) (blank : Text.isBlank c) :
    unbounded? (cs ++ c :: unit) =
      (do
        let n ← Decimal.readInt cs
        let u ← unitSeconds? (unitOf unit)
        some (n * u)) := by
  have all : ∀ c ∈ cs, (!Text.isBlank c) = true := fun c mem => by rw [solid c mem]; rfl
  have ends : ¬ (!Text.isBlank c) = true := by simp [blank]
  rw [unbounded?, List.dropWhile_append_of_pos all, List.takeWhile_append_of_pos all,
    List.dropWhile_cons_of_neg (p := (!Text.isBlank ·)) ends,
    List.takeWhile_cons_of_neg (p := (!Text.isBlank ·)) ends, List.append_nil]

theorem unbounded?_of_denotes {cs : List Char} {n : Int} (h : Denotes cs n) :
    unbounded? (Text.trim cs) = some n := by
  cases h with
  | @seconds front numeral back n blank written blank' =>
    obtain ⟨nonempty, solid⟩ := written.solid
    obtain ⟨starts, ends⟩ := Text.firmly_of_solid solid
    rw [Text.trim_append blank starts ends nonempty blank', unbounded?_solid solid]
    exact Decimal.readInt_of_writes written
  | @units front numeral gap back n u name plural blank written between separate unit blank' =>
    obtain ⟨nonempty, solid⟩ := written.solid
    obtain ⟨c, gap, rfl⟩ := List.exists_cons_of_ne_nil separate
    rw [List.forall_mem_cons] at between
    have letters := List.append_ne_nil_of_left_ne_nil (getLast?_of_mem_units unit).1
      (List.replicate plural 's')
    have ends := (Text.firmly_of_solid (solid_of_mem_units unit plural)).2
    have starts : Text.StartsFirmly
        (numeral ++ c :: gap ++ (name.toList ++ List.replicate plural 's')) := by
      rw [List.append_assoc]
      exact fun d first => (Text.firmly_of_solid solid).1 d
        (by rwa [List.head?_append_of_ne_nil _ nonempty] at first)
    rw [List.append_assoc (numeral ++ c :: gap),
      Text.trim_append blank starts (Text.endsFirmly_append ends letters)
        (List.append_ne_nil_of_right_ne_nil _ letters) blank', List.append_assoc numeral,
      List.cons_append, unbounded?_append solid between.1, Decimal.readInt_of_writes written]
    have found := unitOf_append plural between.2 unit (List.forall_mem_nil _)
    rw [List.append_nil] at found
    rw [found, unitSeconds?_eq_some_iff.2 unit]
    rfl

theorem denotes_of_unbounded? {cs : List Char} {n : Int} (h : unbounded? (Text.trim cs) = some n) :
    Denotes cs n := by
  obtain ⟨front, back, blank, blank', eq⟩ := Text.exists_append_trim cs
  rw [eq]
  generalize Text.trim cs = core at *
  unfold unbounded? at h
  split at h
  · exact .seconds blank (Decimal.readInt_eq_some_iff.1 h) blank'
  · next c unit behind =>
    obtain ⟨m, written, h⟩ := Option.bind_eq_some_iff.1 h
    obtain ⟨u, known, h⟩ := Option.bind_eq_some_iff.1 h
    cases h
    have first : Text.isBlank c = true := by
      have stops := List.head?_dropWhile_not (!Text.isBlank ·) core
      rw [behind] at stops
      simpa using stops
    obtain ⟨gap, behind', plural, between, blank'', eq'⟩ := exists_append_unitOf unit
    have parts : core ++ back = core.takeWhile (!Text.isBlank ·) ++ (c :: gap) ++
        (unitOf unit).toList ++ List.replicate plural 's' ++ (behind' ++ back) := by
      have whole : core.takeWhile (!Text.isBlank ·) ++ c :: unit = core := by
        rw [← behind, List.takeWhile_append_dropWhile]
      calc core ++ back = core.takeWhile (!Text.isBlank ·) ++ c :: unit ++ back := by rw [whole]
        _ = core.takeWhile (!Text.isBlank ·) ++ c :: (gap ++ ((unitOf unit).toList ++
              List.replicate plural 's' ++ behind')) ++ back := by rw [← eq']
        _ = _ := by simp only [List.append_assoc, List.cons_append]
    rw [parts]
    exact .units plural blank (Decimal.readInt_eq_some_iff.1 written)
      (List.forall_mem_cons.2 ⟨first, between⟩) (List.cons_ne_nil c gap)
      (unitSeconds?_eq_some_iff.1 known) (List.forall_mem_append.2 ⟨blank'', blank'⟩)

/-- The seconds that are read are those that the text stands for. -/
theorem unbounded?_trim {cs : List Char} {n : Int} :
    unbounded? (Text.trim cs) = some n ↔ Denotes cs n :=
  ⟨denotes_of_unbounded?, unbounded?_of_denotes⟩

/-- A number fits if a product of it with a unit does. -/
theorem fitsSigned_of_mul {n u : Int} (unit : 1 ≤ u) (fits : Word.fitsSigned (n * u)) :
    Word.fitsSigned n := by
  simp only [Word.fitsSigned, Bool.and_eq_true, decide_eq_true_eq] at fits ⊢
  rcases Int.le_total 0 n with positive | negative
  · have grows : n * 1 ≤ n * u := Int.mul_le_mul_of_nonneg_left unit positive
    omega
  · have falls : n * u ≤ n * 1 := Int.mul_le_mul_of_nonpos_left negative unit
    omega

/-- The bounds of 64 bits that are kept on the way leave out what does not fit in the end. -/
theorem seconds?_eq (s : String) :
    seconds? s = (unbounded? (Text.trim s.toList)).filter Word.fitsSigned := by
  rw [seconds?, unbounded?]
  cases (Text.trim s.toList).dropWhile (!Text.isBlank ·) with
  | nil => rfl
  | cons c unit =>
    simp only [Decimal.readInt64]
    cases Decimal.readInt ((Text.trim s.toList).takeWhile (!Text.isBlank ·)) with
    | none => rfl
    | some n =>
      cases known : unitSeconds? (unitOf unit) with
      | none => cases fits : Word.fitsSigned n <;> simp [Option.filter, fits]
      | some u =>
        have shorter := fitsSigned_of_mul (n := n)
          (pos_of_mem_units (unitSeconds?_eq_some_iff.1 known))
        cases fits : Word.fitsSigned (n * u) with
        | false => cases inside : Word.fitsSigned n <;> simp [Option.filter, fits, inside]
        | true => simp [Option.filter, fits, shorter fits]

/-! ## Values -/

/-- A value gives a number of seconds. -/
inductive Gives : Value → Int → Prop
  | int (n : Int64) : Gives (.int n) n.toInt
  | text {s : String} {n : Int} (denotes : Denotes s.toList n) : Gives (.text s) n

/-- The number fits into 64 bits, and so do the thousandths of so many seconds. -/
structure Bounded (n : Int) : Prop where
  word : -2 ^ 63 ≤ n ∧ n ≤ 2 ^ 63 - 1
  seconds : |n| ≤ (2 ^ 63 - 1) / 1000

/-- The seconds of a value, whatever their number is. -/
def unboundedOf? : Value → Option Int
  | .int n => some n.toInt
  | .text s => unbounded? (Text.trim s.toList)
  | _ => none

variable {v : Value} {n : Int}

theorem unboundedOf?_eq_some_iff : unboundedOf? v = some n ↔ Gives v n := by
  constructor
  · intro h
    cases v with
    | int m => cases h; exact .int m
    | text s => exact .text (denotes_of_unbounded? h)
    | _ => cases h
  · intro h
    cases h with
    | int m => rfl
    | text denotes => exact unbounded?_of_denotes denotes

theorem isDuration_iff : isDuration n ↔ |n| ≤ (2 ^ 63 - 1) / 1000 := by
  rw [isDuration, Bool.and_eq_true, decide_eq_true_eq, decide_eq_true_eq, abs_le]
  rfl

theorem fitsSigned_iff : Word.fitsSigned n ↔ -2 ^ 63 ≤ n ∧ n ≤ 2 ^ 63 - 1 := by
  have power : Int.ofNat Word.signedBound = 2 ^ 63 := by decide
  rw [Word.fitsSigned, Bool.and_eq_true, decide_eq_true_eq, decide_eq_true_eq, power]
  omega

theorem bounded_iff : Bounded n ↔ Word.fitsSigned n ∧ isDuration n :=
  ⟨fun h => ⟨fitsSigned_iff.2 h.word, isDuration_iff.2 h.seconds⟩,
    fun h => ⟨fitsSigned_iff.1 h.1, isDuration_iff.1 h.2⟩⟩

/-- A value that is not none has a duration if and only if its number of seconds is one. -/
theorem duration_eq (some : v ≠ .none) :
    duration v = match (unboundedOf? v).filter fun n => Word.fitsSigned n && isDuration n with
      | .some n => .ok (.some n)
      | .none => .error (.arguments (.cacheDuration v)) := by
  cases v with
  | none => exact absurd rfl some
  | int n =>
    have fits : Word.fitsSigned n.toInt :=
      fitsSigned_iff.2 ⟨n.le_toInt, Int.le_sub_one_of_lt n.toInt_lt⟩
    rw [duration, unboundedOf?]
    cases inside : isDuration n.toInt <;> simp [Option.filter, fits, inside]
  | text s =>
    rw [duration, unboundedOf?, seconds?_eq]
    cases unbounded? (Text.trim s.toList) with
    | none => rfl
    | some n =>
      cases fits : Word.fitsSigned n <;> cases inside : isDuration n <;>
        simp [Option.filter, fits, inside]
  | _ => rfl

/-- The duration of a value is exact: a number of seconds is read if and only if it is the one that
the value gives and its bounds hold. Everything else but none is refused. -/
theorem duration_exact (v : Value) :
    (∀ n m, Gives v n → Gives v m → n = m) ∧
    (∀ n, duration v = .ok (some n) ↔ Gives v n ∧ Bounded n) ∧
    (duration v = .ok none ↔ v = .none) ∧
    ∀ e, duration v = .error e ↔
      e = .arguments (.cacheDuration v) ∧ v ≠ .none ∧ ∀ n, Gives v n → ¬ Bounded n := by
  refine ⟨fun n m given given' => ?_, ?_⟩
  · rw [← unboundedOf?_eq_some_iff] at given given'
    exact Option.some_inj.1 (given.symm.trans given')
  by_cases none : v = .none
  · subst none
    exact ⟨fun n => ⟨nofun, fun h => nomatch h.1⟩, ⟨fun _ => rfl, fun _ => rfl⟩,
      fun e => ⟨nofun, fun h => absurd rfl h.2.1⟩⟩
  have accepted n : (unboundedOf? v).filter (fun n => Word.fitsSigned n && isDuration n) = some n ↔
      Gives v n ∧ Bounded n := by
    rw [Option.filter_eq_some_iff, Bool.and_eq_true, bounded_iff, unboundedOf?_eq_some_iff]
  rw [duration_eq none]
  cases found : (unboundedOf? v).filter fun n => Word.fitsSigned n && isDuration n with
  | none =>
    rw [found] at accepted
    have refused n (given : Gives v n) : ¬ Bounded n := fun bounded =>
      nomatch (accepted n).2 ⟨given, bounded⟩
    exact ⟨fun n => ⟨nofun, fun h => absurd h.2 (refused n h.1)⟩,
      ⟨nofun, fun h => absurd h none⟩,
      fun e => ⟨fun h => ⟨(Except.error.inj h).symm, none, refused⟩, fun h => congrArg _ h.1.symm⟩⟩
  | some n =>
    rw [found] at accepted
    have inside := (accepted n).1 rfl
    exact ⟨fun m => by simpa using accepted m, ⟨nofun, fun h => absurd h none⟩,
      fun e => ⟨nofun, fun h => absurd inside.2 (h.2.2 n inside.1)⟩⟩

example : seconds? "-3 weeks" = some (-1814400) := by decide +kernel

end Lifetime

end Stencil
