import Stencil.Render.Scope

/-!
# Values of expressions

- `Member.of?`: a member of a value; an optional one may be missing.
- `Member.follow`: a path of members. Where an optional member is missing, the path ends with none.
- `Expr.evaluate`: the value of an expression of a source in a scope.

Specification: section E1; `eval`, `eval_base`, `lookup_path` and `index_path`.
-/

namespace Stencil

/-! ## Members -/

namespace Member

/-- The member of a value, `none` if it is optional and missing, or the fault. -/
def of? (m : Member) (v : Value) : Except RenderFault (Option Value) :=
  let missing : RenderFault :=
    match m.access with
    | .index _ _ => .indexOutOfBounds
    | .key _ => .notInMap
  let found : Option Value → Except RenderFault (Option Value)
    | some v => .ok (some v)
    | none => if m.isOptional then .ok none else .error missing
  match v, m.access with
  | .list items, .index i _ => found items[i]?
  | .list _, .key _ => .error .listIndexedByName
  | .map entries, .key name => found (Dict.get? name.name entries)
  | .map entries, .index i _ => found (Dict.get? (toString i) entries)
  | .none, _ => if m.isOptional then .ok none else .error (.notIndexable Value.none.kind)
  | v, _ => .error (.notIndexable v.kind)

/-- The value at the end of a path of members, or the fault with its place. -/
def follow : List Member → Value → Except (RenderFault × Span) Value
  | [], v => .ok v
  | m :: ms, v =>
    match m.of? v with
    | .ok (some w) => follow ms w
    | .ok none => .ok .none
    | .error fault => .error (fault, m.access.span)

end Member

/-! ## Expressions -/

/-- The result of a computation, or its fault at the place that comes with it. -/
def located {α : Type} (source : String) : Except (RenderFault × Span) α → Except Failure α
  | .ok a => .ok a
  | .error (fault, span) => .error (.error (.renderAt fault source span))

/-- The result of a function, or its error, at the place unless it has one. -/
def located? {α : Type} (source : String) (span : Span) : Except Error α → Except Failure α
  | .ok a => .ok a
  | .error e => .error (.error (e.locate source span))

/-- The value of a variable. -/
def Scope.value (s : Scope) (source : String) (first : Ident) (path : List Member) :
    Except Failure Value :=
  match s.find? source first.name with
  | none => .error .broken
  | some none => .error (.error (.renderAt .notInScope source first.span))
  | some (some v) => located source (Member.follow path v)

namespace Expr

mutual

/-- The value of an expression. -/
def evaluate (s : Scope) (source : String) : Expr → Except Failure Value
  | .variable first path => s.value source first path
  | .literal v _ => .ok v
  | .list items _ =>
    match evaluateAll s source items with
    | .ok vs => .ok (.list vs)
    | .error f => .error f
  | .map entries _ =>
    match evaluateEntries s source entries with
    | .ok es => .ok (.ofEntries es)
    | .error f => .error f
  | .filter receiver name args _ =>
    match evaluate s source receiver with
    | .error f => .error f
    | .ok v =>
      match Dict.get? name.name s.functions with
      | some (.filter f) =>
        match evaluateAll s source args with
        | .error f => .error f
        | .ok vs => located? source name.span (f v vs)
      | some (.formatter _) => .error (.error (.renderAt .formatterAsFilter source name.span))
      | none => .error (.error (.renderAt .unknownFilter source name.span))

/-- The values of expressions, evaluated in order up to the first failure. -/
def evaluateAll (s : Scope) (source : String) : List Expr → Except Failure (List Value)
  | [] => .ok []
  | x :: xs =>
    match evaluate s source x with
    | .error f => .error f
    | .ok v =>
      match evaluateAll s source xs with
      | .error f => .error f
      | .ok vs => .ok (v :: vs)

/-- The entries of a map literal, evaluated in order up to the first failure. -/
def evaluateEntries (s : Scope) (source : String) :
    List (String × Expr) → Except Failure (List (String × Value))
  | [] => .ok []
  | (k, x) :: xs =>
    match evaluate s source x with
    | .error f => .error f
    | .ok v =>
      match evaluateEntries s source xs with
      | .error f => .error f
      | .ok vs => .ok ((k, v) :: vs)

end

end Expr

/-- The values of the arguments of a directive; the bindings of an assignment have names too. -/
def DirectiveArgs.evaluate (s : Scope) (source : String) : DirectiveArgs → Except Failure Args
  | .none => .ok ⟨[], []⟩
  | .call values =>
    match Expr.evaluateAll s source values with
    | .ok vs => .ok ⟨vs, []⟩
    | .error f => .error f
  | .assign bindings =>
    match Expr.evaluateAll s source (bindings.map Prod.snd) with
    | .ok vs => .ok ⟨vs, bindings.map fun b => b.1.name⟩
    | .error f => .error f

end Stencil
