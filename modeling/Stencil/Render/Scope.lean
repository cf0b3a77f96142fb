import Stencil.Expr
import Stencil.Error
import Stencil.Function
import Stencil.Template

/-!
# Scopes

What a name stands for depends on the layers in which it is looked up: the loops that are running,
the variables of the template, and last the variables that are shared by all renders.

- `Round`, `Loop`: the variables of one round of a loop, and the rounds that are left.
- `Layer`: a loop, the variables of a template, or the boundary behind which nothing is seen.
- `Scope`: the layers, the variables bound while rendering, what is shared, and the functions.
- `Scope.find?`: what a name stands for.

Specification: section E1; `Stack.lookup_var`, `LoopState.iterate` and `LoopState.resolve`.
-/

namespace Stencil

/-- Variables that were bound while rendering. -/
abbrev Frame := Dict Value

/-- The variables of one round of a loop, each known by the place of its name in the source. -/
abbrev Round := List (Span × Value)

/-- A loop: the round that is running, which is empty before the first one, and the others. -/
structure Loop where
  current : Round
  rest : List Round

/-- What names are looked up in. -/
inductive Layer where
  | loop (l : Loop)
  /-- The variables that a template is given, and the number of the frame of those it binds. -/
  | variables (given : Value) (frame : Nat)
  /-- What lies behind is not seen. -/
  | boundary

/-- What expressions are evaluated in. The innermost layer comes first, the outermost frame too. -/
structure Scope where
  layers : List Layer
  frames : List Frame
  shared : Dict Value
  functions : Dict Function

/-! ## Loops -/

/-- The rounds of a loop over a value, or why it has none with its place. -/
def LoopVars.rounds (vars : LoopVars) (iterable : Value) (span : Span) :
    Except (RenderFault × Span) (List Round) :=
  match iterable, vars with
  | .list items, .item name => .ok (items.map fun v => [(name.span, v)])
  | .list _, .entry _ _ span => .error (.listItemIntoTwo, span)
  | .map entries, .entry key value _ =>
    .ok (entries.map fun e => [(key.span, .text e.1), (value.span, e.2)])
  | .map _, .item name => .error (.mapItemIntoOne, name.span)
  | v, _ => .error (.notIterable v.kind, span)

/-- What a name stands for in a round, given the source in which the places of the variables lie;
`none` where a place cuts a character or lies outside of the source. -/
def Round.find? (source name : String) : Round → Option (Option Value)
  | [] => some none
  | (span, v) :: rest =>
    match Text.slice span source with
    | none => none
    | some n => if n = name then some (some v) else find? source name rest

/-! ## Names -/

namespace Scope

/-- What a name stands for among the variables of a template: those it bound come first. -/
def bound? (frames : List Frame) (given : Value) (frame : Nat) (name : String) : Option Value :=
  (frames[frame]?.bind (Dict.get? name)).or (given.map?.bind (Dict.get? name))

/-- What a name stands for in some layers, up to the first boundary. -/
def findLayer? (frames : List Frame) (source name : String) : List Layer → Option (Option Value)
  | [] => some none
  | .boundary :: _ => some none
  | .loop l :: rest =>
    match Round.find? source name l.current with
    | none => none
    | some (some v) => some (some v)
    | some none => findLayer? frames source name rest
  | .variables given frame :: rest =>
    match bound? frames given frame name with
    | some v => some (some v)
    | none => findLayer? frames source name rest

/-- What a name stands for: the layers come first, then what is shared. -/
def find? (s : Scope) (source name : String) : Option (Option Value) :=
  (findLayer? s.frames source name s.layers).map fun found => found.or (Dict.get? name s.shared)

end Scope

end Stencil
