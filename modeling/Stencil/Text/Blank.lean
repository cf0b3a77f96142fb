/-!
# Blank characters

A character is blank if it has the property White_Space.

- `Text.isBlank`: the property.
- `Text.trimStart`, `Text.trimEnd`, `Text.trim`: a text without blanks at its ends.
-/

namespace Stencil.Text

/-- The property White_Space. -/
def isBlank (c : Char) : Bool :=
  let n := c.toNat
  (0x09 ≤ n && n ≤ 0x0D) || n == 0x20 || n == 0x85 || n == 0xA0 || n == 0x1680 ||
    (0x2000 ≤ n && n ≤ 0x200A) || n == 0x2028 || n == 0x2029 || n == 0x202F || n == 0x205F ||
    n == 0x3000

/-- The text from its first character on that is not blank. -/
def trimStart (cs : List Char) : List Char := cs.dropWhile isBlank

/-- The text up to its last character that is not blank. -/
def trimEnd : List Char → List Char
  | [] => []
  | c :: cs =>
    match trimEnd cs with
    | [] => if isBlank c then [] else [c]
    | d :: ds => c :: d :: ds

/-- The text without blanks at both ends. -/
def trim (cs : List Char) : List Char := trimEnd (trimStart cs)

@[simp] theorem trimEnd_nil : trimEnd [] = [] := rfl

/-- A text is its trimmed form followed by blanks. -/
theorem exists_trimEnd_append (cs : List Char) :
    ∃ ws : List Char, cs = trimEnd cs ++ ws ∧ ∀ c ∈ ws, isBlank c = true := by
  induction cs with
  | nil => exact ⟨[], rfl, by simp⟩
  | cons c cs ih =>
    obtain ⟨ws, hcs, hws⟩ := ih
    cases h : trimEnd cs with
    | nil =>
      rw [h] at hcs
      by_cases hc : isBlank c = true
      · refine ⟨c :: ws, by simpa [trimEnd, h, hc] using hcs, ?_⟩
        intro d hd
        rcases List.mem_cons.mp hd with rfl | hd
        · exact hc
        · exact hws d hd
      · exact ⟨ws, by simpa [trimEnd, h, hc] using hcs, hws⟩
    | cons d ds =>
      rw [h] at hcs
      exact ⟨ws, by simpa [trimEnd, h] using hcs, hws⟩

/-- A text is blanks followed by its trimmed form. -/
theorem takeWhile_append_trimStart (cs : List Char) :
    cs.takeWhile isBlank ++ trimStart cs = cs := List.takeWhile_append_dropWhile

end Stencil.Text
