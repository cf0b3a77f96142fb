/-!
# Keywords

- `Keyword`: the names that the template language keeps for itself.
- `Keyword.ofString?`: the keyword of a name, if it is one.

Specification: section E1; `Keyword.from_str` and `Keyword.human`.
-/

namespace Stencil

/-- The names that the template language keeps for itself. -/
inductive Keyword where
  | if
  | not
  | else
  | endif
  | for
  | in
  | endfor
  | include
  | with
  | true
  | false
  | none
deriving DecidableEq

namespace Keyword

/-- All keywords. -/
def all : List Keyword :=
  [.if, .not, .else, .endif, .for, .in, .endfor, .include, .with, .true, .false, .none]

/-- The text of a keyword. -/
def text : Keyword → String
  | .if => "if"
  | .not => "not"
  | .else => "else"
  | .endif => "endif"
  | .for => "for"
  | .in => "in"
  | .endfor => "endfor"
  | .include => "include"
  | .with => "with"
  | .true => "true"
  | .false => "false"
  | .none => "none"

/-- The keyword with a given text. -/
def ofString? (s : String) : Option Keyword := all.find? fun k => k.text == s

/-- The text of a keyword is read back as that keyword. -/
@[simp] theorem ofString?_text (k : Keyword) : ofString? k.text = some k := by
  cases k <;> decide

/-- Only the text of a keyword is read as that keyword. -/
theorem text_of_ofString? {s : String} {k : Keyword} (h : ofString? s = some k) : k.text = s := by
  have := List.find?_some h
  simpa using this

end Keyword

end Stencil
