import Stencil.Error

/-!
# Flavors of markdown

- `Markdown.Extensions`: the constructs beyond the common ones.
- `Markdown.Flavor`: a dialect, with its extensions and what it does to breaks and raw HTML.

Specification: section E4; `Flavor.parse` and `Flavor.options`.
-/

namespace Stencil.Markdown

/-- The constructs beyond the common ones. -/
structure Extensions where
  tables : Bool
  strikethrough : Bool
  taskLists : Bool
  footnotes : Bool
  headingAttributes : Bool
deriving DecidableEq

/-- No further constructs. -/
def Extensions.none : Extensions := ⟨false, false, false, false, false⟩

/-- A dialect. -/
inductive Flavor where
  /-- The common constructs only. -/
  | classic
  | gfm
  /-- Every line break is kept. -/
  | gfmComment
  | extra
  /-- Raw HTML is text. -/
  | preEncode
deriving DecidableEq

namespace Flavor

/-- The flavor of a name. -/
def read (name : String) : Except Error Flavor :=
  if name = "original" then .ok .classic
  else if name = "gfm" then .ok .gfm
  else if name = "gfm-comment" then .ok .gfmComment
  else if name = "extra" then .ok .extra
  else if name = "pre-encode" then .ok .preEncode
  else .error (.arguments (.unknownFlavor name))

/-- The constructs of a flavor beyond the common ones. -/
def extensions : Flavor → Extensions
  | .classic => .none
  | .preEncode => .none
  | .gfm => { Extensions.none with tables := true, strikethrough := true, taskLists := true }
  | .gfmComment => { Extensions.none with tables := true, strikethrough := true, taskLists := true }
  | .extra => { Extensions.none with tables := true, footnotes := true, headingAttributes := true }

end Flavor

end Stencil.Markdown
