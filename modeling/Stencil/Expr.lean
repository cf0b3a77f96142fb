import Stencil.Text.Bytes
import Stencil.Value

/-!
# Expressions

- `Ident`: a name with its place.
- `Member`: a member access, by position or by name.
- `Expr`: variables, literals, lists, maps, and expressions piped through filters.
- `Expr.span`: the place of an expression.

Specification: section E1; `Expr`, `BaseExpr`, `Var` and `Access`.
-/

namespace Stencil

/-- A name with its place. -/
structure Ident where
  name : String
  span : Span
deriving DecidableEq

/-- What a member access names. -/
inductive Access where
  | index (value : Nat) (span : Span)
  | key (name : Ident)
deriving DecidableEq

/-- The place of what a member access names. -/
def Access.span : Access → Span
  | .index _ span => span
  | .key name => name.span

/-- A member access. An optional one gives none where there is no such member. -/
structure Member where
  isOptional : Bool
  access : Access
  span : Span
deriving DecidableEq

/-- An expression of the template language. -/
inductive Expr where
  /-- A variable and the members accessed in it. -/
  | variable (first : Ident) (path : List Member)
  | literal (value : Value) (span : Span)
  | list (items : List Expr) (span : Span)
  /-- A map literal; the entries are in the order of the source. -/
  | map (entries : List (String × Expr)) (span : Span)
  /-- An expression piped through a filter, with the arguments given to it. -/
  | filter (receiver : Expr) (name : Ident) (args : List Expr) (span : Span)
deriving Inhabited

namespace Expr

/-- The place of an expression. -/
def span : Expr → Span
  | .variable first path =>
    match path.getLast? with
    | none => first.span
    | some m => first.span.join m.span
  | .literal _ span => span
  | .list _ span => span
  | .map _ span => span
  | .filter _ _ _ span => span

end Expr

end Stencil
