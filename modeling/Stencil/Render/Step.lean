import Stencil.Cache.Options
import Stencil.Render.State

/-!
# The steps of a render

What single statements, and the ends of blocks, do to the state. Errors are named after the
template in which they arise.

- `Script.run`: does what a script says.
- `Step.raw`, `Step.print`, `Step.pipe`, `Step.output`: write text and values.
- `Step.test`: the condition of a branch.
- `Step.rounds`: begins a loop.
- `Step.perform`: runs a directive.
- `Step.startCached`, `Step.stopCached`, `Step.cached`: begin and end a cached block.
- `Step.target`: the template that a statement names.

Specification: sections E1 and 4.3; the instructions of `render_one`, `run_directive`, and `start`
and `end` of cached blocks.
-/

namespace Stencil

/-! ## Scripts -/

/-- Does what a script says. -/
def Script.run {α : Type} (e : Engine) (origin : Origin) : Script α → Render α
  | .done a => pure a
  | .fail f => throw (Render.stopOf f)
  | .full => throw .outputFull
  | .look next => do
    let v ← Render.view e origin
    (next v).run e origin
  | .write text next => do
    let accepted ← Render.offer text
    (next accepted).run e origin
  | .assign name value next => do
    Render.bindVariable name value
    next.run e origin
  | .respond change next => do
    Render.respond change
    next.run e origin
  | .limit query l next => do
    Render.setLimit query l
    next.run e origin
  | .ask c next => do
    let answer ← Render.ask e.store c
    (next answer).run e origin

namespace Step

/-- A reason to stop whose error is located at a place, unless it has one. -/
def locateStop (source : String) (span : Span) : Stop → Stop
  | .failed e => .failed (e.locate source span)
  | s => s

/-- A computation whose errors are located at a place. -/
def locatedAt {α : Type} (source : String) (span : Span) (m : Render α) : Render α :=
  ExceptT.mk fun s =>
    match m.run s with
    | (.ok a, s) => (.ok a, s)
    | (.error stop, s) => (.error (locateStop source span stop), s)

/-! ## Text and values -/

/-- Writes a region of the source. -/
def raw (t : Template) (span : Span) : Render Unit :=
  Render.named t.name
    (match Text.slice span t.source with
    | some text => Render.write text
    | none => throw .broken)

/-- Writes what a formatter makes of a value; its fault is located at a place. -/
def format (t : Template) (f : Formatter) (v : Value) (span : Span) : Render Unit := do
  let w := f v
  Render.write w.text
  match w.fault with
  | some fault => Render.fault fault t.source span
  | none => pure ()

/-- Writes the value of an expression. -/
def print (e : Engine) (t : Template) (x : Expr) : Render Unit :=
  Render.named t.name do
    let v ← Render.evaluate e t.source x
    format t e.defaultFormatter v x.span

/-- Pipes the value of an expression into a function, which may be a formatter, and writes it. -/
def pipe (e : Engine) (t : Template) (receiver : Expr) (name : Ident) (span : Span) :
    Render Unit :=
  Render.named t.name do
    let v ← Render.evaluate e t.source receiver
    match Dict.get? name.name e.functions with
    | some (.filter f) => do
      let w ← Render.lift (located? t.source name.span (f v []))
      format t e.defaultFormatter w span
    | some (.formatter f) => format t f v name.span
    | none => Render.fault .unknownFunction t.source name.span

/-- Writes the value of an expression. If it is piped into a function without arguments at last,
the function may be a formatter. -/
def output (e : Engine) (t : Template) (x : Expr) (span : Span) : Render Unit :=
  match x with
  | .filter receiver name [] _ => pipe e t receiver name span
  | x => print e t x

/-! ## Branches and loops -/

/-- The value of a condition. -/
def test (e : Engine) (t : Template) (cond : Expr) : Render Bool :=
  Render.named t.name do
    let v ← Render.evaluate e t.source cond
    match v with
    | .bool b => pure b
    | v => Render.fault (.notBool v.kind) t.source cond.span

/-- Begins a loop and gives its rounds. -/
def rounds (e : Engine) (t : Template) (vars : LoopVars) (iterable : Expr) :
    Render (List Round) :=
  Render.named t.name do
    let v ← Render.evaluate e t.source iterable
    let rs ← Render.lift (located t.source (vars.rounds v iterable.span))
    Render.enterLoop rs
    pure rs

/-! ## Directives -/

/-- The values of the arguments of a directive. -/
def arguments (e : Engine) (t : Template) (args : DirectiveArgs) : Render Args := do
  Render.lift (args.evaluate (← Render.scope e) t.source)

/-- Runs a directive. -/
def perform (e : Engine) (t : Template) (d : Directive) : Render Flow :=
  Render.named t.name do
    let args ← arguments e t d.args
    locatedAt t.source d.span ((d.run args).run e d.origin)

/-- Begins a cached block without the store. Its body is rendered. -/
def bypass : Render Bool := do
  Render.openBlock none
  pure true

/-- Looks the text of a cached block up in the store. It is written if there is one; otherwise the
block begins and its body is rendered. Gives whether this is the case. -/
def consult (store : CacheStore) (p : Pending) : Render Bool := do
  match ← Render.lookUp store p.key p.isGlobal with
  | some text => do
    Render.write text
    pure false
  | none => do
    Render.begin store p.isGlobal
    Render.openBlock (some p)
    pure true

/-- Begins a cached block with the options in its argument. Gives whether its body is rendered. -/
def beginBlock (e : Engine) (origin : Origin) (args : Args) : Render Bool := do
  let o ← Render.lift ((CacheOptions.read args.values.head?).mapError .error)
  Render.record (.started origin o)
  match e.store with
  | none => bypass
  | some store =>
    if o.bypasses (← get).request then bypass
    else consult store (.ofOptions origin o)

/-- Ends the innermost cached block: its text is kept if it is to be, and written. -/
def endBlock (e : Engine) : Render Unit := do
  let (pending, body) ← Render.closeBlock
  match pending, e.store with
  | some p, some store =>
    Render.keep store (p.entry body)
  | _, _ => pure ()
  Render.write body

/-- Begins a cached block. -/
def startCached (e : Engine) (t : Template) (i : Invocation) : Render Bool :=
  Render.named t.name do
    let args ← arguments e t i.args
    locatedAt t.source i.span (beginBlock e i.origin args)

/-- Ends a cached block. -/
def stopCached (e : Engine) (t : Template) (i : Invocation) : Render Unit :=
  Render.named t.name do
    let _ ← arguments e t i.args
    locatedAt t.source i.span (endBlock e)

/-- Renders a body in a cached block, unless the store has its text. -/
def cached (e : Engine) (t : Template) (start stop : Invocation) (body : Render Unit) :
    Render Unit := do
  let opened ← startCached e t start
  if opened then do
    body
    stopCached e t stop
  else pure ()

/-! ## Other templates -/

/-- The template of a name. The fault for an unknown one is located at a place. -/
def target (e : Engine) (t : Template) (name : String) (fault : RenderFault) (span : Span) :
    Render Template :=
  Render.named t.name
    (match e.template? name with
    | some u => pure u
    | none => Render.fault fault t.source span)

/-- The variables that a template is given. -/
def given (e : Engine) (t : Template) (x : Expr) : Render Value :=
  Render.named t.name (Render.evaluate e t.source x)

end Step

end Stencil
