import Stencil.Directive.Localized
import Stencil.Directive.Paginate
import Stencil.Directive.Standard
import Stencil.Engine
import Stencil.Markdown
import Stencil.Markdown.CommonMark

/-!
# New engines

- `Engine.standardDirectives`, `Engine.standardFunctions`: what every engine starts with.
- `Engine.new`: an engine with given delimiters and nothing else of its own.

Specification: sections E1 and E2; `Engine.with_syntax`, `builtins` and `register`.
-/

namespace Stencil.Engine

/-- The directives that every engine starts with. -/
def standardDirectives : Dict Definition :=
  Dict.ofList
    [("set", Directive.set), ("header", Directive.header), ("redirect", Directive.redirect),
      ("markdown", Directive.markdown Markdown.commonMark),
      ("requireLogin", Directive.requireLogin), ("requireGuest", Directive.requireGuest),
      ("requireAdmin", Directive.requireAdmin),
      ("requirePermission", Directive.requirePermission), ("auth", Directive.auth),
      ("guest", Directive.guest), ("cache", .cached),
      ("includeLocalized", Directive.includeLocalized), ("paginate", Directive.paginate)]

/-- The functions that every engine starts with. -/
def standardFunctions : Dict Function :=
  Dict.ofList
    [("lower", .filter Filter.lower), ("upper", .filter Filter.upper),
      ("markdown", .filter (Filter.markdown Markdown.commonMark)),
      ("purify", .filter Filter.purify)]

/-- An engine with given delimiters. -/
def new (delimiters : Delimiters) : Engine where
  delimiters := delimiters
  directives := standardDirectives
  functions := standardFunctions
  defaultFormatter := Formatter.standard
  shared := []
  store := none
  resolver := none
  settings := .default
  templates := []

end Stencil.Engine
