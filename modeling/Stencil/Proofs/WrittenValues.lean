import Stencil.Proofs.CacheHits
import Stencil.Proofs.SourceIndependence

/-!
# Writing values

The value of an expression is written with the formatter of the engine, and a value that is piped
into a function without arguments at last by an instruction of its own, which finds out whether the
function is a formatter. If it is not, both come to the same: the text that is written and the kind
of the end depend on the value of the expression only, or on the category of its error.

- `StopKind`, `Stop.kind`: why a render does not go on, with the category of an error and no more of
  it.
- `Render.byKind`: what a computation comes to, with the kind of the reason to stop.
- `RenderState.writing`: what comes of writing a value, if there is one.
- `Step.byKind_output`: what comes of writing the value of an expression.
-/

namespace Stencil

open Render

/-! ## Kinds of ends -/

/-- Why a render does not go on, with the category of an error and no more of it. -/
inductive StopKind where
  | halted
  | failed (kind : ErrorKind)
  | broken
  | outputFull
deriving DecidableEq

/-- The kind of the reason to stop for a failure with an error of some category. -/
def StopKind.ofFailure : Option ErrorKind → StopKind
  | some kind => .failed kind
  | none => .broken

namespace Stop

/-- The kind of a reason to stop. -/
def kind : Stop → StopKind
  | .halted => .halted
  | .failed e => .failed e.cause.kind
  | .broken => .broken
  | .outputFull => .outputFull

theorem kind_stopOf (f : Failure) : (stopOf f).kind = .ofFailure f.kind := by
  cases f with
  | error e => rfl
  | broken => rfl

theorem kind_nameStop (name : Option String) (stop : Stop) :
    (nameStop name stop).kind = stop.kind := by
  cases stop with
  | failed e => exact congrArg StopKind.failed (congrArg Cause.kind (e.cause_inTemplate name))
  | halted => rfl
  | broken => rfl
  | outputFull => rfl

theorem kind_renderAt (fault : RenderFault) (source : String) (span : Span) :
    (failed (.renderAt fault source span)).kind = .failed .rendering :=
  congrArg StopKind.ofFailure (Failure.kind_renderAt fault source span)

end Stop

namespace Render

variable {α β : Type}

/-- A result with the kind of the reason to stop, and the state. -/
def byKind (r : Except Stop α × RenderState) : Except StopKind α × RenderState :=
  (r.1.mapError Stop.kind, r.2)

/-- The name of the template gets into an error, but not into its kind. -/
theorem byKind_named (name : Option String) (m : Render α) (s : RenderState) :
    byKind ((named name m).run s) = byKind (m.run s) := by
  rw [run_named]
  rcases m.run s with ⟨stop | a, s'⟩
  · exact congrArg (Except.error · , s') (Stop.kind_nameStop name stop)
  · rfl

theorem byKind_bind (m : Render α) (k : α → Render β) (s : RenderState) :
    byKind ((m >>= k).run s) =
      match byKind (m.run s) with
      | (.ok a, s') => byKind ((k a).run s')
      | (.error kind, s') => (.error kind, s') := by
  rcases hm : m.run s with ⟨stop | a, s'⟩
  · rw [run_bind_error hm]
    rfl
  · rw [run_bind_ok hm]
    rfl

/-- A computation that ends with a result of its own. -/
theorem byKind_bind_pure (m : Render α) (b : β) (s : RenderState) :
    byKind ((m >>= fun _ => pure b).run s) =
      ((byKind (m.run s)).1.map fun _ => b, (byKind (m.run s)).2) := by
  rcases hm : m.run s with ⟨stop | a, s'⟩
  · rw [run_bind_error hm]
    rfl
  · rw [run_bind_ok hm]
    rfl

theorem byKind_bind_error {m : Render α} {k : α → Render β} {s s' : RenderState} {stop : Stop}
    (h : m.run s = (.error stop, s')) : byKind ((m >>= k).run s) = (.error stop.kind, s') := by
  rw [run_bind_error h]
  rfl

end Render

/-! ## Writing values -/

/-- What is left to say when a formatter has handed in a text. -/
def Formatted.ending (w : Formatted) (accepted : Bool) : Except StopKind Unit :=
  if accepted then
    match w.fault with
    | none => .ok ()
    | some _ => .error (.failed .rendering)
  else .error .outputFull

namespace RenderState

theorem withText_empty (s : RenderState) : s.withText "" = s := by
  obtain ⟨layers, frames, captures, blocks, next, request, response, queries, history, output⟩ := s
  cases captures with
  | nil => simp [withText]
  | cons c cs => simp [withText]

theorem after_nil (s : RenderState) : s.after [] = s := by simp [after]

/-- What comes of writing a value with a formatter, if there is a value. -/
def writing (s : RenderState) (f : Formatter) :
    Except (Option ErrorKind) Value → Except StopKind Unit × RenderState
  | .error kind => (.error (.ofFailure kind), s)
  | .ok v =>
    ((f v).ending (s.takes (f v).text), (s.withText (f v).text).after [.wrote (f v).text])

end RenderState

namespace Expr

/-- The last function that a value is piped into is a formatter. -/
def endsInFormatter (functions : Dict Function) : Expr → Bool
  | .filter _ name _ _ =>
    match Dict.get? name.name functions with
    | some (.formatter _) => true
    | _ => false
  | _ => false

theorem get?_ne_formatter {functions : Dict Function} {receiver : Expr} {name : Ident}
    {args : List Expr} {span : Span}
    (h : (filter receiver name args span).endsInFormatter functions = false) (f : Formatter) :
    Dict.get? name.name functions ≠ some (.formatter f) := by
  intro found
  rw [endsInFormatter, found] at h
  cases h

end Expr

namespace Step

variable {e : Engine} {t : Template} {s : RenderState}

theorem byKind_format (f : Formatter) (v : Value) (span : Span) :
    byKind ((format t f v span).run s) = s.writing f (.ok v) := by
  have wrote := run_write (f v).text s
  unfold format
  dsimp only
  rw [RenderState.writing, Formatted.ending]
  cases taken : s.takes (f v).text with
  | false =>
    rw [taken] at wrote
    exact byKind_bind_error wrote
  | true =>
    rw [taken] at wrote
    rw [run_bind_ok wrote]
    cases (f v).fault with
    | none => rfl
    | some fault =>
      exact congrArg (Except.error · , _) (Stop.kind_renderAt fault t.source span)

/-- Writing what depends on a value that may be missing. -/
theorem byKind_lift_bind {α : Type} {f : Formatter} (r : Except Failure α) {k : α → Render Unit}
    {g : α → Except (Option ErrorKind) Value}
    (writes : ∀ a, byKind ((k a).run s) = s.writing f (g a)) :
    byKind ((lift r >>= k).run s) = s.writing f (r.mapError Failure.kind >>= g) := by
  cases r with
  | ok a => exact writes a
  | error failure =>
    have stopped : (lift (.error failure) : Render α).run s = (.error (stopOf failure), s) := rfl
    rw [byKind_bind_error stopped, Stop.kind_stopOf]
    rfl

theorem byKind_lift_format (f : Formatter) (r : Except Failure Value) (span : Span) :
    byKind ((lift r >>= fun v => format t f v span).run s) =
      s.writing f (r.mapError Failure.kind) := by
  rw [byKind_lift_bind r fun v => byKind_format f v span]
  exact congrArg (s.writing f) (bind_pure _)

/-- A value that is piped into a filter is written as the filter gives it. -/
theorem byKind_pipe (receiver : Expr) (name : Ident) (span span' : Span)
    (plain : (Expr.filter receiver name [] span').endsInFormatter e.functions = false) :
    byKind ((pipe e t receiver name span).run s) =
      s.writing e.defaultFormatter
        (((Expr.filter receiver name [] span').evaluate (s.scope e) t.source).mapError
          Failure.kind) := by
  rw [Expr.evaluate_filter, mapError_bind, pipe, byKind_named]
  refine byKind_lift_bind (receiver.evaluate (s.scope e) t.source) fun v => ?_
  have functions : (s.scope e).functions = e.functions := rfl
  unfold Expr.applied
  rw [functions]
  cases found : Dict.get? name.name e.functions with
  | none =>
    -- the fault is another one than in an expression, of the same category
    have kind := Stop.kind_renderAt .unknownFunction t.source name.span
    have kind' := Failure.kind_renderAt .unknownFilter t.source name.span
    show (Except.error (Stop.kind _), s) = (.error (.ofFailure (Failure.kind _)), s)
    rw [kind, kind']
    rfl
  | some function =>
    cases function with
    | formatter f => exact absurd found (Expr.get?_ne_formatter plain f)
    | filter f =>
      exact byKind_lift_format e.defaultFormatter (located? t.source name.span (f v [])) span

/-- What comes of writing the value of an expression that is not piped into a formatter at last. -/
theorem byKind_output (x : Expr) (span : Span) (plain : x.endsInFormatter e.functions = false) :
    byKind ((output e t x span).run s) =
      s.writing e.defaultFormatter ((x.evaluate (s.scope e) t.source).mapError Failure.kind) := by
  unfold output
  split
  · exact byKind_pipe _ _ span _ plain
  · rw [print, byKind_named]
    exact byKind_lift_format _ (x.evaluate (s.scope e) t.source) _

end Step

end Stencil
