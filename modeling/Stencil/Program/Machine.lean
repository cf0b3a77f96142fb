import Stencil.Program
import Stencil.Render

/-!
# Running programs

The machine runs the instructions of a template one by one. A template in place is an activation of
its own on top of the one that names it, and the machine has come to its end when no activation is
left. The steps are those of a render of the statements, so that the states in between are what can
be said more of here.

- `Activation`: a template that is active, and how far it has come.
- `Machine.step`: one instruction, or the end of an activation.
- `Machine.run`: some number of steps.
- `Engine.runProgram?`: what comes of running the program of a template.

Specification: section E1; `render_one`.
-/

namespace Stencil

/-- A template that is active. -/
structure Activation where
  template : Template
  code : List Instr
  /-- The number of the next instruction. -/
  position : Nat
  /-- The template has variables of its own. -/
  isScoped : Bool

namespace Activation

/-- The next instruction. -/
def next? (a : Activation) : Option Instr := a.code[a.position]?

/-- Behind the next instruction. -/
def advance (a : Activation) : Activation := { a with position := a.position + 1 }

/-- Before some instruction. -/
def goTo (a : Activation) (target : Nat) : Activation := { a with position := target }

end Activation

namespace Machine

variable (e : Engine) (limit : Nat)

/-- Makes a template active on top of others, before its first instruction. -/
def place (t : Template) (isScoped : Bool) (stack : List Activation) : Render (List Activation) :=
  match t.program? with
  | some code => pure (⟨t, code, 0, isScoped⟩ :: stack)
  | none => throw .broken

/-- Makes a template active, unless too many are. -/
def activate (t : Template) (isScoped : Bool) (stack : List Activation) :
    Render (List Activation) :=
  if limit ≤ stack.length then throw (.failed (.ofCause (.includeDepth limit)))
  else place t isScoped stack

/-- Goes on as a directive says. -/
def follow (t : Template) (span : Span) (flow : Flow) (stack : List Activation) :
    Render (List Activation) :=
  match flow with
  | .next => pure stack
  | .skip => pure stack
  | .halt => throw .halted
  | .visit name given => do
    let u ← Step.target e t name (.unknownTemplate (some name)) span
    Render.enter given
    activate limit u true stack

/-- The rounds that the innermost loop has left. -/
def roundsLeft : List Layer → List Round
  | .loop l :: _ => l.rest
  | _ => []

/-- Runs an instruction of an activation on top of others. -/
def execute (a : Activation) (rest : List Activation) : Instr → Render (List Activation)
  | .raw span => do
    Step.raw a.template span
    pure (a.advance :: rest)
  | .print x => do
    Step.print e a.template x
    pure (a.advance :: rest)
  | .pipe receiver name span => do
    Step.pipe e a.template receiver name span
    pure (a.advance :: rest)
  | .include name none => do
    let u ← Step.target e a.template name.name (.unknownTemplate none) name.span
    activate limit u false (a.advance :: rest)
  | .include name (some x) => do
    let given ← Step.given e a.template x
    let u ← Step.target e a.template name.name (.unknownTemplate none) name.span
    Render.enter given
    activate limit u true (a.advance :: rest)
  | .jump target => pure (a.goTo target :: rest)
  | .branch negated cond target => do
    let b ← Step.test e a.template cond
    pure ((if b != negated then a.advance else a.goTo target) :: rest)
  | .loop vars iterable => do
    let _ ← Step.rounds e a.template vars iterable
    pure (a.advance :: rest)
  | .round target => do
    match roundsLeft (← get).layers with
    | [] => do
      Render.leaveLoop
      pure (a.goTo target :: rest)
    | r :: rs => do
      Render.enterRound r rs
      pure (a.advance :: rest)
  | .directive d => do
    let flow ← Step.perform e a.template d
    follow e limit a.template d.span flow (a.advance :: rest)
  | .start d target => do
    let flow ← Step.perform e a.template d
    match flow with
    | .skip => pure (a.goTo target :: rest)
    | flow => follow e limit a.template d.span flow (a.advance :: rest)
  | .stop d => do
    let flow ← Step.perform e a.template d
    follow e limit a.template d.span flow (a.advance :: rest)
  | .startCached i target => do
    let opened ← Step.startCached e a.template i
    pure ((if opened then a.advance else a.goTo target) :: rest)
  | .stopCached i => do
    Step.stopCached e a.template i
    pure (a.advance :: rest)

/-- Ends an activation on top of others. -/
def finish (isScoped : Bool) (rest : List Activation) : Render (List Activation) := do
  if isScoped then Render.leave
  pure rest

/-- Runs an instruction, or ends an activation that has none left. -/
def step : List Activation → Render (List Activation)
  | [] => pure []
  | a :: rest =>
    match a.next? with
    | some i => execute e limit a rest i
    | none => finish a.isScoped rest

/-- Runs so many steps, or fewer if the machine comes to its end. -/
def run : Nat → List Activation → Render (List Activation)
  | _, [] => pure []
  | 0, stack => pure stack
  | n + 1, stack => do
    let stack ← step e limit stack
    run n stack

/-- What has come of a run: nothing yet, if activations are left. -/
def result? : Except Stop (List Activation) → Option (Except Stop Unit)
  | .ok [] => some (.ok ())
  | .ok (_ :: _) => none
  | .error stop => some (.error stop)

end Machine

/-- What comes of running the program of a template for so many steps, if they are enough. -/
def Engine.runProgram? (e : Engine) (t : Template) (job : Job) (steps : Nat) : Option Outcome :=
  match job.data with
  | .error f => some ⟨.error (.error f), .empty job.room, []⟩
  | .ok data =>
    let m := Machine.place t false [] >>= Machine.run e (e.depthLimit job) steps
    let (result, s) := m.run (job.initial data)
    (Machine.result? result).map fun r => .ofRun job.refusal (r, s)

end Stencil
