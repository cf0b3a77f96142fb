import Stencil.Value

/-!
# Queries

- `Query`: a source of rows that can be counted and sliced, with a limit of its own. Counting and
  slicing may fail.
- `Query.ofRows`: the query over a list of rows.

Specification: sections 6 and E3; `Query` and `ListQuery`.
-/

namespace Stencil

/-- A source of rows. Counting ignores the limit; a slice is given by the number of rows before it
and the number of rows that it holds at most. -/
structure Query where
  limit : Option Nat
  count : Except String Nat
  slice : Nat → Nat → Except String (List Value)

namespace Query

/-- The query over a list of rows. -/
def ofRows (rows : List Value) (limit : Option Nat) : Query :=
  ⟨limit, .ok rows.length, fun offset count => .ok ((rows.drop offset).take count)⟩

/-- The query with another limit. -/
def setLimit (q : Query) (limit : Option Nat) : Query := { q with limit := limit }

@[simp] theorem count_setLimit (q : Query) (limit : Option Nat) :
    (q.setLimit limit).count = q.count := rfl

@[simp] theorem slice_setLimit (q : Query) (limit : Option Nat) :
    (q.setLimit limit).slice = q.slice := rfl

@[simp] theorem limit_setLimit (q : Query) (limit : Option Nat) :
    (q.setLimit limit).limit = limit := rfl

end Query

end Stencil
