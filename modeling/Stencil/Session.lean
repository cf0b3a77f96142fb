import Stencil.Render
import Stencil.Store.Memory
import Stencil.Store.Recording

/-!
# Sessions

An engine answers from a store that is fixed while it renders. A session keeps the engine together
with what is in the store, and carries the calls of each step over to the next.

- `Backing`: the store behind an engine.
- `Session`: an engine with the store behind it.
- `Session.render`, `Session.renderFirst`, `Session.renderLocalized`: rendering steps.
- `Session.get`, `Session.put`, `Session.count`, `Session.isEmpty`, `Session.clear`: steps on the
  store itself.
-/

namespace Stencil

/-- The store behind an engine. -/
inductive Backing where
  | none
  | memory (s : MemoryStore)
  | recording (s : RecordingStore)

namespace Backing

/-- The store as an engine uses it at a time. -/
def cache (now : Moment) : Backing → Option CacheStore
  | .none => Option.none
  | .memory s => some (s.cache now)
  | .recording s => some s.cache

/-- The store after some calls at a time. -/
def replay (now : Moment) (calls : List StoreCall) : Backing → Backing
  | .none => .none
  | .memory s => .memory (s.replay now calls)
  | .recording s => .recording (s.replay calls)

/-- The number of texts in the store. -/
def count (now : Moment) : Backing → Nat
  | .none => 0
  | .memory s => s.count now
  | .recording s => s.entries.length

/-- There is no text in the store. -/
def isEmpty (now : Moment) : Backing → Bool
  | .none => true
  | .memory s => s.isEmpty now
  | .recording s => s.entries.isEmpty

/-- The store without its texts. -/
def clear : Backing → Backing
  | .none => .none
  | .memory s => .memory s.clear
  | .recording s => .recording { s with entries := [] }

end Backing

/-- An engine with the store behind it. -/
structure Session where
  engine : Engine
  backing : Backing

namespace Session

variable (now : Moment)

/-- The engine with its store as it is now. -/
def current (s : Session) : Engine := { s.engine with store := s.backing.cache now }

/-- The session after the calls of an outcome. -/
def after (s : Session) (o : Outcome) : Outcome × Session :=
  (o, { s with backing := s.backing.replay now o.calls })

/-- Renders a template. -/
def render (s : Session) (t : Template) (job : Job) : Outcome × Session :=
  s.after now ((s.current now).render t job)

/-- Renders the first of some views that exists. -/
def renderFirst (s : Session) (candidates : List String) (data : Value) : Outcome × Session :=
  s.after now ((s.current now).renderFirst candidates data)

/-- Renders a view, preferring its variant for the locale of the request. -/
def renderLocalized (s : Session) (view : String) (data : Value) (request : Request) :
    Outcome × Session :=
  s.after now ((s.current now).renderLocalized view data request)

/-- The answer of the store to one call, and the session after it. Without a store there is
none. -/
def ask {α : Type} (s : Session) (call : StoreCall) (answer : CacheStore → Except String α) :
    Option (Except Error α) × Session :=
  match s.backing.cache now with
  | none => (none, s)
  | some store =>
    (some ((answer store).mapError fun text => .ofCause (.store text)),
      { s with backing := s.backing.replay now [call] })

/-- Looks a text up in the store. -/
def get (s : Session) (key : String) (isGlobal : Bool) :
    Option (Except Error (Option String)) × Session :=
  s.ask now (.get key isGlobal) fun store => store.get [] key isGlobal

/-- Keeps a text in the store. -/
def put (s : Session) (entry : CacheEntry) : Option (Except Error Unit) × Session :=
  s.ask now (.put entry) fun store => store.put [] entry

/-- The number of texts in the store. -/
def count (s : Session) : Nat := s.backing.count now

/-- There is no text in the store. -/
def isEmpty (s : Session) : Bool := s.backing.isEmpty now

/-- Empties the store. -/
def clear (s : Session) : Session := { s with backing := s.backing.clear }

end Session

end Stencil
