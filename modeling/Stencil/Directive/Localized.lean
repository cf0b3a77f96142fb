import Stencil.Directive

/-!
# Localized views

A view may have a variant for a locale, named with the locale before it.

- `Localized.candidates`: the views to try for a name.
- `Localized.arguments`: the name and the data that the directive is given.
- `Directive.includeLocalized`: renders the first view that exists in place.

Specification: sections 4.4 and E4; `candidates`, `include_localized` and `split_args`.
-/

namespace Stencil

namespace Localized

/-- The views to try for a name, the one for the locale first. -/
def candidates (locale name : String) : List String :=
  if locale.isEmpty then [name] else [locale ++ "." ++ name, name]

/-- The name of a view and its data, given one after the other or as a list of both. -/
def arguments (args : List Value) : Except Error (String × Value) :=
  let args := match args with
    | [.list items] => items
    | args => args
  match args with
  | .text name :: rest =>
    if name.isEmpty then .error (.arguments .viewName)
    else do
      let data ← match rest.head? with
        | none => .ok Value.empty
        | some .none => .ok Value.empty
        | some (.map entries) => .ok (Value.map entries)
        | some v => .error (.arguments (.viewData v.kind))
      if 1 < rest.length then .error (.arguments .viewArity) else .ok (name, data)
  | _ => .error (.arguments .viewName)

end Localized

namespace Directive

/-- Writes what the resolver renders, or else visits the first template that exists. -/
def runLocalized (args : List Value) : Script Flow := do
  let (name, data) ← Script.lift (Localized.arguments args)
  let v ← Script.view
  let candidates := Localized.candidates v.request.locale name
  match v.resolver with
  | some resolve =>
    match resolve candidates data with
    | .ok body => do
      Script.put body
      pure .next
    | .error f => .fail f
  | none =>
    match candidates.find? v.hasTemplate with
    | some name => pure (.visit name data)
    | none => .refuse (.ofCause (.viewNotFound candidates))

/-- Renders the first view of a name that exists in place. -/
def includeLocalized : Definition := .single fun _ => .ok (.call runLocalized)

end Directive

end Stencil
