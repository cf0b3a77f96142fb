import Stencil.Render.Step

/-!
# Rendering statements

A statement is rendered by recursion on it. Templates in place are rendered by a function that is
passed down; it knows how many more may be active at once.

- `Stmt.render`, `Stmt.renderAll`: render statements.
- `Template.renderAt`: renders a template, with a bound on the templates that are active at once.

Specification: section E1; the statements that `compile_stmt` turns into instructions.
-/

namespace Stencil

/-- Runs the body of a loop for each of the rounds, and leaves the loop. -/
def Render.eachRound (body : Render Unit) : List Round → Render Unit
  | [] => Render.leaveLoop
  | r :: rs => do
    Render.enterRound r rs
    body
    eachRound body rs

/-- Renders a template with variables of its own. -/
def Render.within (given : Value) (body : Render Unit) : Render Unit := do
  Render.enter given
  body
  Render.leave

namespace Stmt

variable (e : Engine) (visit : Template → Render Unit) (t : Template)

/-- Goes on as a directive says; what it skips is up to the caller. -/
def follow (span : Span) : Flow → Render Unit
  | .next => pure ()
  | .skip => pure ()
  | .halt => throw .halted
  | .visit name given => do
    let u ← Step.target e t name (.unknownTemplate (some name)) span
    Render.within given (visit u)

mutual

/-- Renders a statement. -/
def render : Stmt → Render Unit
  | .raw span => Step.raw t span
  | .output x span => Step.output e t x span
  | .include name none => do
    let u ← Step.target e t name.name (.unknownTemplate none) name.span
    visit u
  | .include name (some x) => do
    let given ← Step.given e t x
    let u ← Step.target e t name.name (.unknownTemplate none) name.span
    Render.within given (visit u)
  | .ifElse negated cond thenBody elseBody => do
    let b ← Step.test e t cond
    if b != negated then renderAll thenBody else renderElse elseBody
  | .forLoop vars iterable body => do
    let rounds ← Step.rounds e t vars iterable
    Render.eachRound (renderAll body) rounds
  | .directive d => do
    let flow ← Step.perform e t d
    follow e visit t d.span flow
  | .block start body stop => do
    let flow ← Step.perform e t start
    match flow with
    | .skip => pure ()
    | flow => do
      follow e visit t start.span flow
      renderAll body
      let flow ← Step.perform e t stop
      follow e visit t stop.span flow
  | .cached start body stop => Step.cached e t start stop (renderAll body)

/-- Renders statements in order. -/
def renderAll : List Stmt → Render Unit
  | [] => pure ()
  | s :: ss => do
    render s
    renderAll ss

/-- Renders the second branch of a condition, if there is one. -/
def renderElse : Option (List Stmt) → Render Unit
  | none => pure ()
  | some ss => renderAll ss

end

end Stmt

/-- Renders a template in place. The number of further templates that may be active is known; with
none the limit is reported. -/
def Template.renderAt (e : Engine) (limit : Nat) : Nat → Template → Render Unit
  | 0, _ => throw (.failed (.ofCause (.includeDepth limit)))
  | n + 1, t => Stmt.renderAll e (renderAt e limit n) t t.body

end Stencil
