import Stencil.Text.LetterCase.Table
import Stencil.Text.Ranges

/-!
# Letter case

The full case mappings of whole texts, and comparison up to the case of ASCII letters.

- `Text.lower`: lower case. A capital sigma at the end of a word becomes a final sigma.
- `Text.upper`: upper case.
- `Text.sameLetters`: equality up to the case of ASCII letters.
-/

namespace Stencil.Text

namespace LetterCase

/-- The image of a code point under a list of shifts. -/
def shift (shifts : List Shift) (n : Nat) : Option Nat :=
  (shifts.find? fun s => s.first ≤ n && n ≤ s.last && (n - s.first) % s.step == 0).map
    fun s => (Int.ofNat n + s.offset).toNat

/-- The lower case of a character that is no capital sigma. -/
def lowerChar (c : Char) : List Char :=
  if c.toNat < 128 then [c.toLower]
  else if c.toNat == 0x130 then ['i', Char.ofNat 0x307]
  else match shift lowerShifts c.toNat with
    | some n => [Char.ofNat n]
    | none => [c]

/-- The upper case of a character. -/
def upperChar (c : Char) : List Char :=
  if c.toNat < 128 then [c.toUpper]
  else match upperSpecials.lookup c.toNat with
    | some ns => ns.map Char.ofNat
    | none => match shift upperShifts c.toNat with
      | some n => [Char.ofNat n]
      | none => [c]

/-- The first character that is not passed over has a case. -/
def casedNext (cs : List Char) : Bool :=
  match cs.dropWhile fun c => inRanges caseIgnorable c.toNat with
  | [] => false
  | c :: _ => inRanges cased c.toNat

/-- The lower case of a text, given the characters before it in reverse. -/
def lowerFrom (before : List Char) : List Char → List Char
  | [] => []
  | c :: cs =>
    let image :=
      if c.toNat == 0x3A3 then
        if casedNext before && !casedNext cs then [Char.ofNat 0x3C2] else [Char.ofNat 0x3C3]
      else lowerChar c
    image ++ lowerFrom (c :: before) cs

end LetterCase

/-- The text in lower case. -/
def lower (s : String) : String := String.ofList (LetterCase.lowerFrom [] s.toList)

/-- The text in upper case. -/
def upper (s : String) : String := String.ofList (s.toList.flatMap LetterCase.upperChar)

/-- The texts are equal up to the case of their ASCII letters. -/
def sameLetters (s t : String) : Bool := s.toList.map Char.toLower == t.toList.map Char.toLower

@[simp] theorem sameLetters_refl (s : String) : sameLetters s s = true := by simp [sameLetters]

theorem sameLetters_comm (s t : String) : sameLetters s t = sameLetters t s := by
  simp only [sameLetters]
  exact BEq.comm

theorem sameLetters_trans {s t u : String} (hst : sameLetters s t = true)
    (htu : sameLetters t u = true) : sameLetters s u = true := by
  simp only [sameLetters, beq_iff_eq] at *
  exact hst.trans htu

end Stencil.Text
