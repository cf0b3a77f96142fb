/-!
# Text as HTML

- `Html.escape`: the five characters that HTML gives a meaning are written as entities.
- `Html.escapeString`: the same on strings.

Specification: section E1; `html_escape`.
-/

namespace Stencil.Html

/-- The entity of a character that HTML gives a meaning, else the character. -/
def entity (c : Char) : List Char :=
  if c = '&' then "&amp;".toList
  else if c = '<' then "&lt;".toList
  else if c = '>' then "&gt;".toList
  else if c = '"' then "&quot;".toList
  else if c = '\'' then "&#x27;".toList
  else [c]

/-- The text with its significant characters written as entities. -/
def escape (cs : List Char) : List Char := cs.flatMap entity

/-- The string with its significant characters written as entities. -/
def escapeString (s : String) : String := String.ofList (escape s.toList)

@[simp] theorem escape_nil : escape [] = [] := rfl

@[simp] theorem escape_cons (c : Char) (cs : List Char) :
    escape (c :: cs) = entity c ++ escape cs := by simp [escape]

@[simp] theorem escape_append (s t : List Char) : escape (s ++ t) = escape s ++ escape t := by
  simp [escape]

end Stencil.Html
