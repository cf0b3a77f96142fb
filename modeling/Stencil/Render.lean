import Stencil.Directive.Localized
import Stencil.Render.Tree
import Stencil.Value.Document

/-!
# Rendering templates

- `Job`: what a template is rendered with.
- `Job.withDocument`, `Job.withValue`: the data of a job, converted to a value or a value already.
- `Outcome`: the result of a render, its output, and its calls to the store.
- `Engine.run`: renders the statements of a template and gives the state at the end.
- `Engine.render`: renders a template.
- `Engine.renderFirst`, `Engine.renderLocalized`: render the first view that exists.

Specification: section E1; `Renderer.render`, `to_response`, `to_writer`, `render_first` and
`render_localized`.
-/

namespace Stencil

/-- What a template is rendered with. -/
structure Job where
  /-- The variables, or why there are none. -/
  data : Except Error Value
  request : Request
  queries : Dict Query
  /-- How many templates may be active at once, in place of the setting. -/
  maxIncludeDepth : Option Nat
  /-- The number of bytes that the output has room for. -/
  room : Option Nat
  /-- What the output says when it refuses a text. -/
  refusal : String

/-- Renders with some data, without a request and with an output that takes everything. -/
def Job.ofData (data : Value) : Job := ⟨.ok data, .default, [], none, none, ""⟩

/-- The job with data of any kind, given by their document or by why they have none. They are
converted to a value. -/
def Job.withDocument (job : Job) (document : Except Error Json) : Job :=
  { job with data := document.map Value.ofJson }

/-- The job with a value as its data, as it is. -/
def Job.withValue (job : Job) (v : Value) : Job := { job with data := .ok v }

/-- The state before the first statement, with some data. -/
def Job.initial (job : Job) (data : Value) : RenderState :=
  .initial data job.request job.queries job.room

/-- What comes of a render. -/
structure Outcome where
  result : Except Failure Response
  output : Output
  calls : List StoreCall

namespace Outcome

/-- An outcome without any output. -/
def ofFailure (f : Failure) : Outcome := ⟨.error f, .empty none, []⟩

/-- The text of an output without bounds. -/
def body (o : Outcome) : String := o.output.text

/-- The error of a render that has failed. If the output has refused a text by then, this is what
went wrong. -/
def failure (refusal : String) (output : Output) (e : Error) : Error :=
  if output.accepts then e else .ofCause (.io refusal)

/-- The outcome of a render that has come to its end or has stopped. -/
def ofRun (refusal : String) : Except Stop Unit × RenderState → Outcome
  | (.ok (), s) => ⟨.ok s.response, s.output, s.calls⟩
  | (.error .halted, s) => ⟨.ok s.response, s.output, s.calls⟩
  | (.error (.failed e), s) => ⟨.error (.error (failure refusal s.output e)), s.output, s.calls⟩
  | (.error .broken, s) => ⟨.error .broken, s.output, s.calls⟩
  | (.error .outputFull, s) => ⟨.error (.error (.ofCause (.io refusal))), s.output, s.calls⟩

theorem failure_of_accepts {output : Output} (h : output.accepts = true) (refusal : String)
    (e : Error) : failure refusal output e = e := if_pos h

@[simp] theorem output_ofRun (refusal : String) (r : Except Stop Unit × RenderState) :
    (ofRun refusal r).output = r.2.output := by
  rcases r with ⟨(_ | _ | _ | _) | _, s⟩
  all_goals rfl

@[simp] theorem calls_ofRun (refusal : String) (r : Except Stop Unit × RenderState) :
    (ofRun refusal r).calls = r.2.calls := by
  rcases r with ⟨(_ | _ | _ | _) | _, s⟩
  all_goals rfl

end Outcome

namespace Engine

/-- How many templates may be active at once. -/
def depthLimit (e : Engine) (job : Job) : Nat :=
  job.maxIncludeDepth.getD e.settings.maxIncludeDepth

/-- Renders the statements of a template. The template itself is always allowed to be active.
Without data the render has failed before the first statement. -/
def run (e : Engine) (t : Template) (job : Job) : Except Stop Unit × RenderState :=
  match job.data with
  | .error f => (.error (.failed f), job.initial .none)
  | .ok data =>
    let limit := e.depthLimit job
    (t.renderAt e limit (limit - 1 + 1)).run (job.initial data)

/-- Renders a template. -/
def render (e : Engine) (t : Template) (job : Job) : Outcome :=
  .ofRun job.refusal (e.run t job)

/-! ## Views -/

/-- What a resolver renders, as an outcome. -/
def resolved (resolve : ViewResolver) (candidates : List String) (data : Value) : Outcome :=
  match resolve candidates data with
  | .ok body => ⟨.ok .empty, (Output.empty none).append body, []⟩
  | .error f => .ofFailure f

/-- Renders the first of some views that exists, with a request. -/
def renderView (e : Engine) (candidates : List String) (data : Value) (request : Request) :
    Outcome :=
  match e.resolver with
  | some resolve => resolved resolve candidates data.viaDocument
  | none =>
    match candidates.findSome? e.template? with
    | some t => e.render t { Job.ofData data.viaDocument with request }
    | none => .ofFailure (.error (.ofCause (.viewNotFound candidates)))

/-- Renders the first of some views that exists. -/
def renderFirst (e : Engine) (candidates : List String) (data : Value) : Outcome :=
  e.renderView candidates data .default

/-- Renders a view, preferring its variant for the locale of the request. -/
def renderLocalized (e : Engine) (view : String) (data : Value) (request : Request) : Outcome :=
  e.renderView (Localized.candidates request.locale view) data request

end Engine

end Stencil
