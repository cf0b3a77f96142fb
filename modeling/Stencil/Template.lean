import Stencil.Directive
import Stencil.Expr

/-!
# Templates

- `Invocation`: a directive tag with its parsed arguments.
- `Directive`: an invocation with what it does.
- `Stmt`: the statements of a template, blocks with their bodies.
- `Template`: the statements of a source.

Specification: section E1; `Stmt`, `Directive` and `Template`.
-/

namespace Stencil

/-- The parsed arguments of a directive. -/
inductive DirectiveArgs where
  | none
  | call (values : List Expr)
  | assign (bindings : List (Ident × Expr))

/-- A directive tag with its parsed arguments. -/
structure Invocation where
  name : Ident
  args : DirectiveArgs
  origin : Origin
  span : Span

/-- A directive tag with what it does. -/
structure Directive extends Invocation where
  run : Args → Script Flow

/-- The variables of a loop: one for the items of a list, two for the entries of a map. -/
inductive LoopVars where
  | item (name : Ident)
  | entry (key value : Ident) (span : Span)
deriving DecidableEq

/-- A statement of a template. -/
inductive Stmt where
  /-- Text that is written as it is. -/
  | raw (span : Span)
  /-- An expression whose value is written. -/
  | output (expr : Expr) (span : Span)
  /-- Another template in place, with variables of its own if any are given. -/
  | include (name : Ident) (globals : Option Expr)
  | ifElse (negated : Bool) (cond : Expr) (thenBody : List Stmt) (elseBody : Option (List Stmt))
  | forLoop (vars : LoopVars) (iterable : Expr) (body : List Stmt)
  | directive (d : Directive)
  | block (start : Directive) (body : List Stmt) (stop : Directive)
  /-- A block whose text is kept in the store. -/
  | cached (start : Invocation) (body : List Stmt) (stop : Invocation)

/-- The statements of a source. -/
structure Template where
  name : Option String
  source : String
  body : List Stmt

end Stencil
