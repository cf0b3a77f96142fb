import Stencil.Function
import Stencil.Value.Document

/-!
# Further functions

Filters and formatters that an engine may be given besides the standard ones.

- `Filter.repeated`, `Filter.document`, `Filter.identity`: filters.
- `Formatter.inspected`, `Formatter.failing`, `Formatter.breaking`: formatters; two of them fail.
- `Formatter.withoutNone`: a default formatter that refuses none.
- `Gallery.functions`: all of them under their names.
-/

namespace Stencil

namespace Filter

/-- A text a number of times, twice if no number is given, and a hundred times at most. -/
def repeated : Filter := fun v args =>
  match v with
  | .text s =>
    let n := ((args.head?.bind Value.int?).map Int64.toInt).getD 2
    .ok (.text (String.join (List.replicate (min n.toNat 100) s)))
  | _ => .error (.custom "expected string")

/-- The documents of a value and of the arguments, with semicolons between them. -/
def document : Filter := fun v args =>
  .ok (.text (";".intercalate ((v :: args).map Value.json)))

/-- The value itself. -/
def identity : Filter := fun v _ => .ok v

end Filter

namespace Formatter

/-- A value with the name of its kind around it. -/
def inspected : Formatter := fun v => .written v.inspect

/-- Fails without a word. -/
def failing : Formatter := fun _ => .failed .formatting

/-- Fails in the midst of a value. -/
def breaking : Formatter := fun v => ⟨"partial", some (.custom ("cannot format " ++ v.json))⟩

/-- Writes values in the standard form and refuses none. -/
def withoutNone : Formatter
  | .none => .failed (.custom "unable to format None")
  | v => standard v

end Formatter

namespace Gallery

/-- The further functions. -/
def functions : Dict Function :=
  Dict.ofList
    [("repeat", .filter Filter.repeated), ("json", .filter Filter.document),
      ("identity", .filter Filter.identity), ("escape_html", .formatter Formatter.html),
      ("debug", .formatter Formatter.inspected), ("fmt_fail", .formatter Formatter.failing),
      ("fmt_error", .formatter Formatter.breaking)]

/-- The further default formatters. -/
def defaultFormatters : Dict Formatter :=
  Dict.ofList
    [("default:error_on_none", Formatter.withoutNone), ("default:escape_html", Formatter.html)]

end Gallery

end Stencil
