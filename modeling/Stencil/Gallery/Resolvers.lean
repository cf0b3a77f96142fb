import Stencil.Engine.Standard
import Stencil.Render

/-!
# View resolvers

- `Resolver.echo`: writes what it is asked for.
- `Resolver.ofViews`: looks views up in a dictionary of texts.
- `Resolver.ofSources`: takes the last candidate for the source of a template.
-/

namespace Stencil.Resolver

/-- Writes the candidates and the data. -/
def echo : ViewResolver := fun candidates data =>
  .ok (" | ".intercalate candidates ++ " -> " ++ data.json)

/-- Gives the text of the first candidate that has one, followed by the data. -/
def ofViews (views : Dict String) : ViewResolver := fun candidates data =>
  match candidates.findSome? fun c => Dict.get? c views with
  | some text => .ok (text ++ data.json)
  | none => .error (.error (.ofCause (.viewNotFound candidates)))

/-- Renders the last candidate as the source of a template. -/
def ofSources : ViewResolver := fun candidates data => do
  let e := Engine.new .standard
  let t ← e.compile (candidates.getLast?.getD "")
  let o := e.render t (.ofData data)
  let _ ← o.result
  .ok o.body

end Stencil.Resolver
