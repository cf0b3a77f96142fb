import Stencil.User

/-!
# What a user may do

A permission is kept in lower case, by the mapping of all letters, and asked for up to the case of
ASCII letters. The two agree on texts of which lower case changes the ASCII letters only.

- `Text.Plain`: lower case changes the ASCII letters of a text only.
- `Text.LetterCase.toLower_of_mem_lowerFrom`: lower case leaves no capital of ASCII.
- `User.can_grant_iff`, `User.can_iff_can_iff`: what a grant adds, and which names are one name.
- `User.permission_law`: granting and asking go together for plain names.
-/

namespace Stencil

/-! ## Lower case and the letters of ASCII -/

namespace Text

/-- Lower case changes the ASCII letters of the text only. -/
def Plain (s : String) : Prop := lower s = s.toLower

instance (s : String) : Decidable (Plain s) := inferInstanceAs (Decidable (_ = _))

theorem toList_toLower (s : String) : s.toLower.toList = s.toList.map Char.toLower :=
  String.toList_map

/-- Texts are equal up to the case of their ASCII letters when these are the same in lower case. -/
theorem sameLetters_iff {s t : String} : sameLetters s t = true ↔ s.toLower = t.toLower := by
  rw [sameLetters, beq_iff_eq, ← String.toList_inj, toList_toLower, toList_toLower]

namespace LetterCase

variable {c d : Char} {n m : Nat}

theorem isCapital_iff : c.val ≥ 'A'.val ∧ c.val ≤ 'Z'.val ↔ 65 ≤ c.toNat ∧ c.toNat ≤ 90 := by
  rw [ge_iff_le, UInt32.le_iff_toNat_le, UInt32.le_iff_toNat_le]
  rfl

/-- Only the capitals of ASCII change. -/
theorem toLower_of_toNat (h : c.toNat < 65 ∨ 90 < c.toNat) : c.toLower = c := by
  have other : ¬ (c.val ≥ 'A'.val ∧ c.val ≤ 'Z'.val) := by
    rw [isCapital_iff]
    omega
  exact dif_neg other

theorem toLower_toLower (c : Char) : c.toLower.toLower = c.toLower := by
  by_cases capital : c.val ≥ 'A'.val ∧ c.val ≤ 'Z'.val
  · have range := isCapital_iff.1 capital
    have moved : c.toLower.toNat = c.toNat + 32 := by
      have image : c.toLower.val = c.val + 32 := congrArg Char.val (dif_pos capital)
      have small : c.toNat + 32 < 2 ^ 32 := by omega
      show c.toLower.val.toNat = c.toNat + 32
      rw [image, UInt32.toNat_add]
      exact Nat.mod_eq_of_lt small
    exact toLower_of_toNat (by omega)
  · rw [isCapital_iff] at capital
    rw [toLower_of_toNat (c := c) (by omega)]
    exact toLower_of_toNat (by omega)

/-- No letter above ASCII becomes a capital of ASCII. -/
theorem lt_of_shift (h : shift lowerShifts n = some m) : 90 < m := by
  have above : ∀ s ∈ lowerShifts, 90 < Int.ofNat s.first + s.offset := by
    decide +kernel
  obtain ⟨s, found, rfl⟩ := Option.map_eq_some_iff.1 h
  have bound := above s (List.mem_of_find?_eq_some found)
  have inside := List.find?_some found
  simp only [Bool.and_eq_true, decide_eq_true_eq] at inside
  have := inside.1.1
  simp only [Int.ofNat_eq_natCast] at *
  omega

theorem toLower_ofNat (h : 90 < n) : (Char.ofNat n).toLower = Char.ofNat n := by
  apply toLower_of_toNat
  by_cases valid : n.isValidChar
  · have number : Char.ofNat n = Char.ofNatAux n valid := dif_pos valid
    rw [number]
    exact .inr h
  · have zero : Char.ofNat n = Char.ofNat 0 := dif_neg valid
    rw [zero]
    exact .inl (by decide)

theorem toLower_of_mem_lowerChar (h : d ∈ lowerChar c) : d.toLower = d := by
  unfold lowerChar at h
  split at h
  · rw [List.mem_singleton.1 h]
    exact toLower_toLower c
  · split at h
    · simp only [List.mem_cons, List.not_mem_nil, or_false] at h
      obtain rfl | rfl := h
      · rfl
      · exact toLower_ofNat (by decide)
    · split at h
      · next found =>
        rw [List.mem_singleton.1 h]
        exact toLower_ofNat (lt_of_shift found)
      · next ascii _ _ =>
        rw [List.mem_singleton.1 h]
        exact toLower_of_toNat (.inr (by omega))

/-- Lower case leaves no capital of ASCII. -/
theorem toLower_of_mem_lowerFrom {cs before : List Char} (h : d ∈ lowerFrom before cs) :
    d.toLower = d := by
  induction cs generalizing before with
  | nil => cases h
  | cons c cs ih =>
    unfold lowerFrom at h
    obtain image | rest := List.mem_append.1 h
    · split at image
      · -- both forms of a small sigma stand far above ASCII
        split at image <;> rw [List.mem_singleton.1 image] <;> exact toLower_ofNat (by decide)
      · exact toLower_of_mem_lowerChar image
    · exact ih rest

end LetterCase

theorem toLower_lower (s : String) : (lower s).toLower = lower s := by
  rw [← String.toList_inj, toList_toLower]
  refine (List.map_congr_left fun d mem => ?_).trans (List.map_id _)
  rw [lower, String.toList_ofList] at mem
  exact LetterCase.toLower_of_mem_lowerFrom mem

/-- Texts in ASCII are plain. -/
theorem plain_of_ascii {s : String} (ascii : s.toList.all (·.toNat < 128)) : Plain s := by
  have image (cs before : List Char) (ascii : ∀ c ∈ cs, c.toNat < 128) :
      LetterCase.lowerFrom before cs = cs.map Char.toLower := by
    induction cs generalizing before with
    | nil => rfl
    | cons c cs ih =>
      obtain ⟨first, rest⟩ := List.forall_mem_cons.1 ascii
      have sigma : (c.toNat == 0x3A3) = false := beq_false_of_ne (by omega)
      rw [LetterCase.lowerFrom, ih (c :: before) rest, List.map_cons]
      simp only [sigma, Bool.false_eq_true, if_false, LetterCase.lowerChar, first, if_true]
      rfl
  rw [Plain, lower, image s.toList [] (by simpa using ascii), ← String.toList_inj, toList_toLower,
    String.toList_ofList]

end Text

/-! ## Granting and asking -/

namespace User

variable {u : User} {p q a b : String}

theorem can_iff : u.can q = true ↔
    u.admin = true ∨ ∃ p ∈ u.permissions, p.toLower = q.toLower := by
  rw [can, Bool.or_eq_true, List.any_eq_true]
  simp only [Text.sameLetters_iff]

/-- A grant adds the names that are the granted one in lower case up to the letters of ASCII. -/
theorem can_grant_iff : (u.grant p).can q = true ↔ u.can q = true ∨ q.toLower = Text.lower p := by
  have own : (Text.lower p).toLower = q.toLower ↔ q.toLower = Text.lower p := by
    rw [Text.toLower_lower]
    exact eq_comm
  rw [can_iff, can_iff, grant, addPermission]
  simp only [mem_insertText, exists_eq_or_imp, own]
  exact or_congr_right or_comm |>.trans or_assoc.symm

theorem can_congr (same : a.toLower = b.toLower) : u.can a = u.can b := by
  rw [Bool.eq_iff_iff, can_iff, can_iff, same]

/-- Two names are answered alike for all users only if they differ in the case of ASCII letters. -/
theorem can_iff_can_iff : (∀ u : User, u.can a = u.can b) ↔ a.toLower = b.toLower := by
  constructor
  · intro alike
    have holder := alike ((ofId "").addPermission a)
    have own : ((ofId "").addPermission a).can a = true :=
      can_iff.2 (.inr ⟨a, mem_insertText.2 (.inl rfl), rfl⟩)
    rw [own, eq_comm, can_iff] at holder
    obtain admin | ⟨p, mem, same⟩ := holder
    · cases admin
    · obtain rfl | none := mem_insertText.1 mem
      · exact same
      · cases none
  · intro same u
    exact can_congr same

/-- A grant gives the permission in lower case, and beyond it the names that equal this one up to
the case of ASCII letters; for a plain name these are all that have the same lower case, the granted
one among them. -/
theorem permission_law (u : User) (p q : String) :
    ((u.grant p).can q = true ↔ u.can q = true ∨ q.toLower = Text.lower p) ∧
      (u.grant p).can (Text.lower p) = true ∧
      ((u.grant p).can p = true ↔ u.can p = true ∨ Text.Plain p) ∧
      (Text.Plain q →
        ((u.grant p).can q = true ↔ u.can q = true ∨ Text.lower q = Text.lower p)) ∧
      ((∀ v : User, v.can p = v.can q) ↔ p.toLower = q.toLower) ∧
      (Text.Plain p → Text.Plain q → Text.lower p = Text.lower q → u.can p = u.can q) := by
  refine ⟨can_grant_iff, can_grant_iff.2 (.inr (Text.toLower_lower p)), ?_, fun plain => ?_,
    can_iff_can_iff, fun plain plain' same => can_congr ?_⟩
  · rw [can_grant_iff, Text.Plain, eq_comm (a := Text.lower p)]
  · rw [can_grant_iff, plain]
  · rw [← plain, ← plain', same]

/-- A name in ASCII is granted in any spelling. -/
theorem permission_law_ascii :
    ((ofId "1").grant "Publish").can "Publish" = true ∧
      ((ofId "1").grant "Publish").can "PUBLISH" = true ∧
      ((ofId "1").grant "Publish").can "delete" = false ∧
      (ofId "1").can "Publish" = (ofId "1").can "PUBLISH" := by
  have publish : Text.Plain "Publish" := Text.plain_of_ascii (by decide)
  have loud : Text.Plain "PUBLISH" := Text.plain_of_ascii (by decide)
  have own := (permission_law (ofId "1") "Publish" "Publish").2.2.1
  have other := (permission_law (ofId "1") "Publish" "PUBLISH").2.2.2
  exact ⟨own.2 (.inr publish), (other.1 loud).2 (.inr (by decide)), by decide,
    other.2.2 publish loud (by decide)⟩

/-- A letter above ASCII that is granted is held in lower case only, and the sign of the unit kelvin
is not taken for the letter that is its lower case. -/
theorem not_can_granted_letter :
    Text.lower "É" = Text.lower "é" ∧ ((ofId "1").grant "É").can "é" = true ∧
      ((ofId "1").grant "É").can "É" = false ∧
      Text.lower "\u212a" = Text.lower "k" ∧ ((ofId "1").grant "k").can "k" = true ∧
      ((ofId "1").grant "k").can "\u212a" = false := by
  decide

end User

end Stencil
