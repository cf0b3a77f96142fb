import Stencil.Engine
import Stencil.Render.Evaluate
import Stencil.Render.History
import Stencil.Render.Output

/-!
# The state of a render

- `RenderState`: the layers and frames of variables, the open cached blocks with the texts that
  are captured in them, the response, the queries, the history, and the output.
- `Stop`: why a render does not go on.
- `Render`: computations on the state that may stop.
- `Render.offer`, `Render.write`: hand a text to the innermost capture, or else to the output.
- `Render.bindVariable`, `Render.enter`, `Render.leave`: variables and templates.
- `Render.view`, `Render.respond`, `Render.setLimit`: what directives see and change.
- `Render.openBlock`, `Render.closeBlock`: cached blocks.
- `Render.record`: adds an event to the history.
- `Render.lookUp`, `Render.begin`, `Render.keep`: calls to the store.
- `Render.ask`: a call of a directive, whose failure is an answer like any other.

Specification: sections E1 and E2; `RenderState`, `Context` and `BlockStack`.
-/

namespace Stencil

/-- How the text of a cached block will be kept. The duration is in seconds. -/
structure Pending where
  key : String
  isGlobal : Bool
  duration : Option Int
  expiration : Option Moment
deriving DecidableEq

/-- What the options of a block at a place say about it. -/
def Pending.ofOptions (origin : Origin) (o : CacheOptions) : Pending :=
  ⟨o.keyAt origin, o.isGlobal, o.duration, o.expiration⟩

/-- What is kept when the text of the block is known. -/
def Pending.entry (p : Pending) (body : String) : CacheEntry :=
  ⟨p.key, p.isGlobal, p.duration.map (· * Moment.perSecond), p.expiration, body⟩

/-- An open cached block; nothing is kept of one that is rendered without the store. -/
structure Block where
  id : Nat
  pending : Option Pending
deriving DecidableEq

/-- The state of a render. -/
structure RenderState where
  /-- The innermost layer comes first. -/
  layers : List Layer
  /-- One frame for each template with variables of its own, the outermost first. -/
  frames : List Frame
  /-- The texts captured so far, the innermost first. -/
  captures : List String
  /-- The open cached blocks, the innermost first. -/
  blocks : List Block
  /-- The identity of the next cached block. -/
  nextBlock : Nat
  request : Request
  response : Response
  queries : Dict Query
  /-- What has happened, the oldest event first. -/
  history : List Event
  output : Output

/-- Why a render does not go on. -/
inductive Stop where
  /-- It was ended on purpose; what has been written stands. -/
  | halted
  | failed (e : Error)
  /-- A text was cut where no character begins or ends. -/
  | broken
  /-- The output has refused a text. -/
  | outputFull

/-- Computations on the state of a render that may stop. -/
abbrev Render (α : Type) := ExceptT Stop (StateM RenderState) α

namespace RenderState

/-- The state at the start of a render. -/
def initial (data : Value) (request : Request) (queries : Dict Query) (room : Option Nat) :
    RenderState where
  layers := [.variables data 0]
  frames := [[]]
  captures := []
  blocks := []
  nextBlock := 0
  request := request
  response := .empty
  queries := queries
  history := []
  output := .empty room

/-- The calls made to the store, the oldest first. -/
def calls (s : RenderState) : List StoreCall := History.calls s.history

/-- The state with more events in its history. -/
def after (s : RenderState) (events : List Event) : RenderState :=
  { s with history := s.history ++ events }

/-- The state when the innermost open block has been closed, given the others. -/
def closed (s : RenderState) (others : List Block) : RenderState :=
  { s with blocks := others, captures := s.captures.drop 1 }

@[simp] theorem after_after (s : RenderState) (v w : List Event) :
    (s.after v).after w = s.after (v ++ w) := by
  simp [after]

@[simp] theorem calls_after (s : RenderState) (w : List Event) :
    (s.after w).calls = s.calls ++ History.calls w := History.calls_append _ _

/-- What expressions are evaluated in. -/
def scope (s : RenderState) (e : Engine) : Scope := ⟨s.layers, s.frames, e.shared, e.functions⟩

/-- What a directive sees. -/
def view (s : RenderState) (e : Engine) (origin : Origin) : View where
  settings := e.settings
  resolver := e.resolver
  hasTemplate name := (e.template? name).isSome
  request := s.request
  response := s.response
  origin := origin
  query? name := Dict.get? name s.queries
  blockIds := (s.blocks.map Block.id).reverse

/-- Changes the last of some frames. -/
def modifyLast (f : Frame → Frame) : List Frame → List Frame
  | [] => [f []]
  | [x] => [f x]
  | x :: xs => x :: modifyLast f xs

theorem modifyLast_append (outer : List Frame) (f : Frame → Frame) {frames : List Frame}
    (h : frames ≠ []) : modifyLast f (outer ++ frames) = outer ++ modifyLast f frames := by
  induction outer with
  | nil => rfl
  | cons x xs ih =>
    rw [List.cons_append, List.cons_append, ← ih]
    cases hx : xs ++ frames with
    | nil => exact absurd (List.append_eq_nil_iff.1 hx).2 h
    | cons y ys => rfl

theorem length_modifyLast (f : Frame → Frame) {frames : List Frame} (h : frames ≠ []) :
    (modifyLast f frames).length = frames.length := by
  induction frames with
  | nil => exact absurd rfl h
  | cons x xs ih =>
    cases xs with
    | nil => rfl
    | cons y ys =>
      show (modifyLast f (y :: ys)).length + 1 = _
      rw [ih (by simp)]
      rfl

end RenderState

namespace Render

/-! ## Results of computations -/

/-- The reason to stop for a failure. -/
def stopOf : Failure → Stop
  | .error e => .failed e
  | .broken => .broken

/-- The result of a computation, or its failure. -/
def lift {α : Type} : Except Failure α → Render α
  | .ok a => pure a
  | .error f => throw (stopOf f)

/-- Stops with a fault at a place of a source. -/
def fault {α : Type} (f : RenderFault) (source : String) (span : Span) : Render α :=
  throw (.failed (.renderAt f source span))

/-- A reason to stop whose error is named after a template, unless it is named already. -/
def nameStop (name : Option String) : Stop → Stop
  | .failed e => .failed (e.inTemplate name)
  | s => s

/-- A computation whose errors are named after a template. -/
def named {α : Type} (name : Option String) (m : Render α) : Render α :=
  ExceptT.mk fun s =>
    match m.run s with
    | (.ok a, s) => (.ok a, s)
    | (.error stop, s) => (.error (nameStop name stop), s)

/-! ## The history -/

/-- Adds an event to the history. -/
def record (event : Event) : Render Unit :=
  modify fun s => s.after [event]

/-! ## Texts -/

/-- Hands a text to the innermost capture, or else to the output. Gives whether it is accepted. -/
def offer (text : String) : Render Bool := do
  record (.wrote text)
  let s ← get
  match s.captures with
  | c :: cs => do
    set { s with captures := (c ++ text) :: cs }
    pure true
  | [] => do
    set { s with output := s.output.append text }
    pure (s.output.takes text)

/-- Hands in a text, which has to be accepted. -/
def write (text : String) : Render Unit := do
  let accepted ← offer text
  if accepted then pure () else throw .outputFull

/-! ## Variables -/

/-- What expressions are evaluated in now. -/
def scope (e : Engine) : Render Scope := do
  pure ((← get).scope e)

/-- The value of an expression of a source. -/
def evaluate (e : Engine) (source : String) (x : Expr) : Render Value := do
  lift (x.evaluate (← scope e) source)

/-- Binds a variable in the innermost frame. -/
def bindVariable (name : String) (value : Value) : Render Unit :=
  modify fun s => { s with frames := RenderState.modifyLast (Dict.insert name value) s.frames }

/-- Enters a template with variables of its own. -/
def enter (given : Value) : Render Unit :=
  modify fun s =>
    { s with
      layers := .variables given s.frames.length :: .boundary :: s.layers
      frames := s.frames ++ [[]] }

/-- Leaves a template with variables of its own. -/
def leave : Render Unit :=
  modify fun s => { s with layers := s.layers.drop 2, frames := s.frames.dropLast }

/-- Enters a loop before its first round. -/
def enterLoop (rounds : List Round) : Render Unit :=
  modify fun s => { s with layers := .loop ⟨[], rounds⟩ :: s.layers }

/-- Goes on to a round of the innermost loop, with the given rounds behind it. -/
def enterRound (round : Round) (rest : List Round) : Render Unit :=
  modify fun s => { s with layers := .loop ⟨round, rest⟩ :: s.layers.drop 1 }

/-- Leaves the innermost loop. -/
def leaveLoop : Render Unit := modify fun s => { s with layers := s.layers.drop 1 }

/-! ## Directives -/

/-- What a directive sees now. -/
def view (e : Engine) (origin : Origin) : Render View := do
  pure ((← get).view e origin)

/-- Changes the response. -/
def respond (change : Response → Response) : Render Unit :=
  modify fun s => { s with response := change s.response }

/-- Sets the limit of a query, if there is such a query. -/
def setLimit (query : String) (limit : Option Nat) : Render Unit :=
  modify fun s =>
    match Dict.get? query s.queries with
    | some q => { s with queries := Dict.insert query (q.setLimit limit) s.queries }
    | none => s

/-! ## Cached blocks -/

/-- Opens a cached block and captures what is written in it. -/
def openBlock (pending : Option Pending) : Render Unit :=
  modify fun s =>
    { s with
      blocks := ⟨s.nextBlock, pending⟩ :: s.blocks
      nextBlock := s.nextBlock + 1
      captures := "" :: s.captures }

/-- Closes the innermost cached block and gives the text captured in it. -/
def closeBlock : Render (Option Pending × String) := do
  let s ← get
  match s.blocks with
  | [] => throw (.failed (.ofCause (.rendering .noOpenBlock)))
  | b :: bs =>
    set (s.closed bs)
    record .stopped
    pure (b.pending, s.captures.head?.getD "")

/-! ## The store -/

/-- The answer of the store, or its failure. -/
def answer {α : Type} : Except String α → Render α
  | .ok a => pure a
  | .error text => throw (.failed (.ofCause (.store text)))

/-- Makes a call to the store. -/
def call {α : Type} (c : StoreCall) (ask : List StoreCall → Except String α) : Render α := do
  let s ← get
  record (.called c)
  answer (ask s.calls)

/-- Looks a text up in the store. -/
def lookUp (store : CacheStore) (key : String) (isGlobal : Bool) : Render (Option String) :=
  call (.get key isGlobal) fun past => store.get past key isGlobal

/-- Tells the store that a text is about to be rendered. -/
def begin (store : CacheStore) (isGlobal : Bool) : Render Unit :=
  call (.start isGlobal) fun past => store.start past isGlobal

/-- Keeps a text in the store. -/
def keep (store : CacheStore) (entry : CacheEntry) : Render Unit :=
  call (.put entry) fun past => store.put past entry

/-- Makes a call to the store, if there is one, and gives its answer. -/
def ask (store : Option CacheStore) (c : StoreCall) : Render (Option StoreAnswer) :=
  match store with
  | none => pure none
  | some st => do
    let s ← get
    record (.called c)
    pure (some (st.answer s.calls c))

end Render

end Stencil
