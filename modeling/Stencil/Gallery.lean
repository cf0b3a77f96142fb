import Stencil.Engine
import Stencil.Gallery.Directives
import Stencil.Gallery.Functions

/-!
# Registering from the gallery

- `Gallery.register?`: gives an engine a directive, a function or a default formatter by its name.
-/

namespace Stencil.Gallery

/-- Gives an engine what the gallery holds under a name. -/
def register? (name : String) (e : Engine) : Option Engine :=
  match Dict.get? name directives, Dict.get? name functions, Dict.get? name defaultFormatters with
  | some d, _, _ => some (e.addDirective name d)
  | none, some f, _ => some (e.addFunction name f)
  | none, none, some f => some { e with defaultFormatter := f }
  | none, none, none => none

end Stencil.Gallery
