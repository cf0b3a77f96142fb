import Stencil.Error
import Stencil.Query
import Stencil.Request
import Stencil.Response
import Stencil.Settings
import Stencil.Source.Origin
import Stencil.Store
import Stencil.Text.Blank

/-!
# Directives

A directive is a named tag. Where it occurs, it chooses from its unparsed arguments how they are
passed and what is done with them when the template is rendered.

- `View`: what a directive sees of the render.
- `Script`: what a directive does, as a tree of the operations it may use.
- `Flow`: how the render goes on after a directive.
- `Occurrence`: a directive tag as it is written.
- `Fragment`: how the arguments are passed, and the script for their values.
- `Definition`: a single directive, a paired one, or the cached block.

Specification: section E2; `Definition`, `Fragment`, `Mode`, `Flow`, `Args` and `Context`.
-/

namespace Stencil

/-- Renders the first of some views that exists, with data as its variables. -/
abbrev ViewResolver := List String → Value → Except Failure String

/-- What a directive sees of the render. -/
structure View where
  settings : Settings
  resolver : Option ViewResolver
  hasTemplate : String → Bool
  request : Request
  response : Response
  /-- Where the directive stands. -/
  origin : Origin
  query? : String → Option Query
  /-- The identities of the open cached blocks, the outermost first. -/
  blockIds : List Nat

/-! ## Scripts -/

/-- What a directive does. -/
inductive Script (α : Type) where
  | done (a : α)
  | fail (f : Failure)
  /-- Fails because the output has refused a text. -/
  | full
  /-- Goes on with what can be seen now. -/
  | look (next : View → Script α)
  /-- Hands in a text and goes on with whether it is accepted. -/
  | write (text : String) (next : Bool → Script α)
  /-- Binds a variable in the scope of the template. -/
  | assign (name : String) (value : Value) (next : Script α)
  /-- Changes the response. -/
  | respond (change : Response → Response) (next : Script α)
  /-- Sets the limit of a query. -/
  | limit (query : String) (limit : Option Nat) (next : Script α)
  /-- Calls the store and goes on with its answer, or with none if there is no store. -/
  | ask (call : StoreCall) (next : Option StoreAnswer → Script α)

namespace Script

variable {α β : Type}

/-- One script after another. -/
def bind : Script α → (α → Script β) → Script β
  | .done a, k => k a
  | .fail f, _ => .fail f
  | .full, _ => .full
  | .look next, k => .look fun v => (next v).bind k
  | .write text next, k => .write text fun accepted => (next accepted).bind k
  | .assign name value next, k => .assign name value (next.bind k)
  | .respond change next, k => .respond change (next.bind k)
  | .limit query l next, k => .limit query l (next.bind k)
  | .ask call next, k => .ask call fun answer => (next answer).bind k

instance : Monad Script where
  pure := .done
  bind := bind

/-- What can be seen now. -/
def view : Script View := .look .done

/-- Fails with an error. -/
def refuse (e : Error) : Script α := .fail (.error e)

/-- The result of a computation, or its error. -/
def lift : Except Error α → Script α
  | .ok a => .done a
  | .error e => refuse e

/-- Writes a text. The script ends if the output refuses it. -/
def put (text : String) : Script Unit :=
  .write text fun accepted => if accepted then .done () else .full

/-- Binds a variable. -/
def set (name : String) (value : Value) : Script Unit := .assign name value (.done ())

/-- Changes the response. -/
def modifyResponse (change : Response → Response) : Script Unit := .respond change (.done ())

end Script

/-! ## Tags -/

/-- How the render goes on after a directive. -/
inductive Flow where
  /-- With what follows. -/
  | next
  /-- Behind the end of the block, if the directive begins one. -/
  | skip
  /-- Not at all; what has been written stands. -/
  | halt
  /-- With a template rendered in place, for which the given variables are the global ones. -/
  | visit (template : String) (globals : Value)

/-- The values of the arguments of a directive; the bindings of an assignment have names too. -/
structure Args where
  values : List Value
  names : List String

/-- The bindings of an assignment. -/
def Args.bindings (a : Args) : List (String × Value) := a.names.zip a.values

/-- How the arguments of a directive are written. -/
inductive Mode where
  /-- Expressions with commas between them. -/
  | call
  /-- Bindings with commas between them. -/
  | assign
  /-- No arguments are allowed. -/
  | bare
deriving DecidableEq

/-- A directive tag as it is written: its text behind the name, with the place of the text. -/
structure Occurrence where
  raw : String
  span : Span
  origin : Origin

/-- The tag has no text behind its name. -/
def Occurrence.isEmpty (o : Occurrence) : Bool := (Text.trim o.raw.toList).isEmpty

/-- How the arguments are passed, and what is done with their values. -/
structure Fragment where
  mode : Mode
  run : Args → Script Flow

namespace Fragment

/-- Takes expressions. -/
def call (run : List Value → Script Flow) : Fragment := ⟨.call, fun a => run a.values⟩

/-- Takes bindings. -/
def assign (run : List (String × Value) → Script Flow) : Fragment :=
  ⟨.assign, fun a => run a.bindings⟩

/-- Takes nothing. -/
def bare (run : Script Flow) : Fragment := ⟨.bare, fun _ => run⟩

end Fragment

/-- Makes a fragment for an occurrence. -/
abbrev Compile := Occurrence → Except Error Fragment

/-- What is registered under the name of a directive. -/
inductive Definition where
  | single (compile : Compile)
  /-- A block: its start and its end, which is named after the start. -/
  | paired (start stop : Compile)
  /-- The block whose text is kept in the store. -/
  | cached

/-- The directive begins a block. -/
def Definition.isPaired : Definition → Bool
  | .single _ => false
  | .paired _ _ => true
  | .cached => true

/-- A block whose body is rendered if a condition on the request and the arguments holds. -/
def Definition.condition (holds : Request → List Value → Bool) : Definition :=
  .paired
    (fun _ => .ok (.call fun args => do
      let v ← Script.view
      pure (if holds v.request args then .next else .skip)))
    (fun _ => .ok (.bare (pure .next)))

end Stencil
