import Stencil.Cache.Options
import Stencil.Store

/-!
# Histories of renders

A render keeps account of the texts it hands over, of the cached blocks it begins and ends, and of
its calls to the store. The store answers from the calls.

- `Event`: what is kept account of.
- `History.calls`: the calls to the store among some events.
-/

namespace Stencil

/-- What is kept account of while rendering. -/
inductive Event where
  /-- The start of a cached block has been reached, and its options are these. -/
  | started (origin : Origin) (options : CacheOptions)
  /-- The end of the innermost open cached block has been reached. -/
  | stopped
  /-- A text has been handed to the innermost capture, or else to the output. -/
  | wrote (text : String)
  | called (call : StoreCall)

namespace History

/-- The calls to the store among some events. -/
def calls (events : List Event) : List StoreCall :=
  events.filterMap fun
    | .called c => some c
    | _ => none

@[simp] theorem calls_nil : calls [] = [] := rfl

@[simp] theorem calls_append (v w : List Event) : calls (v ++ w) = calls v ++ calls w := by
  simp [calls]

@[simp] theorem calls_cons_started (origin : Origin) (o : CacheOptions) (w : List Event) :
    calls (.started origin o :: w) = calls w := rfl

@[simp] theorem calls_cons_stopped (w : List Event) : calls (.stopped :: w) = calls w := rfl

@[simp] theorem calls_cons_wrote (text : String) (w : List Event) :
    calls (.wrote text :: w) = calls w := rfl

@[simp] theorem calls_cons_called (c : StoreCall) (w : List Event) :
    calls (.called c :: w) = c :: calls w := rfl

end History

end Stencil
