import Stencil.Decimal.Layout
import Stencil.Error
import Stencil.Text.Html
import Stencil.Text.LetterCase

/-!
# Functions of expressions

An expression is piped through functions, which share one name space: filters, which give a value,
and formatters, which write one.

- `Filter`, `Formatter`, `Function`: the kinds of functions.
- `Formatter.standard`, `Formatter.html`: the formatter of an engine by default, and the one that
  writes texts as HTML.
- `Filter.lower`, `Filter.upper`, `Filter.purify`: the filters on texts.

Specification: section E1; `fmt.default`, `fmt.escape_html`, `expect_args`, `expect_str`, `lower`,
`upper` and `purify`.
-/

namespace Stencil

/-- Gives a value for the value piped in and the arguments. -/
abbrev Filter := Value → List Value → Except Error Value

/-- What a formatter has written, and why it has not finished, if so. -/
structure Formatted where
  text : String
  fault : Option RenderFault
deriving DecidableEq

/-- Writes a value. -/
abbrev Formatter := Value → Formatted

/-- What is registered under the name of a function. -/
inductive Function where
  | filter (f : Filter)
  | formatter (f : Formatter)

/-! ## Formatters -/

namespace Formatted

/-- The whole text of a value. -/
def written (text : String) : Formatted := ⟨text, none⟩

/-- Nothing was written. -/
def failed (fault : RenderFault) : Formatted := ⟨"", some fault⟩

end Formatted

namespace Formatter

/-- Texts as they are, numbers and truth values in their plain form, nothing for none. The
collections have no text. -/
def standard : Formatter
  | .none => .written ""
  | .bool b => .written (if b then "true" else "false")
  | .int n => .written (toString n.toInt)
  | .float x => .written (Decimal.Layout.plain.write x)
  | .text s => .written s
  | v => .failed (.unformattable v.kind)

/-- Texts with their significant characters as entities, all else in the standard form. -/
def html : Formatter
  | .text s => .written (Html.escapeString s)
  | v => standard v

end Formatter

/-! ## Filters -/

namespace Filter

/-- Refuses more arguments than a filter takes. -/
def atMost (most : Nat) (name : String) (args : List Value) : Except Error Unit :=
  if most < args.length then
    .error (.ofCause (.rendering (.filterArity name most args.length)))
  else .ok ()

/-- The text that is piped into a filter. -/
def subject (name : String) : Value → Except Error String
  | .text s => .ok s
  | v => .error (.ofCause (.rendering (.filterOnString name v.kind)))

/-- A text in lower case. -/
def lower : Filter := fun v args => do
  atMost 0 "lower" args
  let s ← subject "lower" v
  .ok (.text (Text.lower s))

/-- A text in upper case. -/
def upper : Filter := fun v args => do
  atMost 0 "upper" args
  let s ← subject "upper" v
  .ok (.text (Text.upper s))

/-- A text with its significant characters as entities; none is the empty text. -/
def purify : Filter := fun v args => do
  atMost 0 "purify" args
  match v with
  | .none => .ok (.text "")
  | v => do
    let s ← subject "purify" v
    .ok (.text (Html.escapeString s))

end Filter

end Stencil
