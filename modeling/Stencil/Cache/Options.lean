import Stencil.Cache.Lifetime
import Stencil.Request
import Stencil.Source.Origin
import Stencil.Value.Document

/-!
# Options of cached blocks

- `CacheOptions`: what the argument of a cached block says.
- `CacheOptions.read`: reads the argument; the first fault in the order key, duration, expiration
  is reported.
- `CacheOptions.bypasses`: the block is rendered without the store.
- `CacheOptions.keyText`, `CacheOptions.derivedKey`: the key of a block that names none.

Specification: sections 4.3 and E4; `Options.parse` and `derive_key`.
-/

namespace Stencil

/-- What the argument of a cached block says. -/
structure CacheOptions where
  key : Option String
  isGlobal : Bool
  duration : Option Int
  expiration : Option Moment
  condition : Bool
  exception : Bool
  /-- The argument itself. -/
  entries : Dict Value

namespace CacheOptions

/-- The entries of the argument; without an argument there are none. -/
def entriesOf : Option Value → Except Error (Dict Value)
  | none => .ok []
  | some .none => .ok []
  | some (.map entries) => .ok entries
  | some v => .error (.arguments (.cacheOptions v.kind))

/-- The key that the entries name. An empty text names none. -/
def keyOf (entries : Dict Value) : Except Error (Option String) :=
  match Dict.get? "key" entries with
  | none => .ok none
  | some .none => .ok none
  | some (.text s) => .ok (if s.isEmpty then none else some s)
  | some (.int n) => .ok (some (toString n.toInt))
  | some v => .error (.arguments (.cacheKey v.kind))

/-- A flag among the entries. -/
def flag (entries : Dict Value) (name : String) (standard : Bool) : Bool :=
  match Dict.get? name entries with
  | none => standard
  | some v => v.isTruthy

/-- Reads the argument of a cached block. -/
def read (argument : Option Value) : Except Error CacheOptions := do
  let entries ← entriesOf argument
  let key ← keyOf entries
  let duration ← Lifetime.duration ((Dict.get? "duration" entries).getD .none)
  let expiration ← Lifetime.expiration ((Dict.get? "expiration" entries).getD .none)
  .ok ⟨key, flag entries "global" false, duration, expiration, flag entries "if" true,
    flag entries "unless" false, entries⟩

/-- The block is rendered without the store, for previews and if its conditions say so. -/
def bypasses (o : CacheOptions) (r : Request) : Bool :=
  r.isPreview || !o.condition || o.exception

/-- The text whose digest is the key of a block that names none: where it stands and its options. -/
def keyText (origin : Origin) (entries : Dict Value) : String :=
  origin.identity ++ "|" ++ toString origin.line ++ ":" ++ toString origin.column ++ "|" ++
    (Value.map entries).json

/-- The key of a block that names none. -/
def derivedKey (origin : Origin) (entries : Dict Value) : String :=
  Digest.hexOf (keyText origin entries) 32

/-- The key under which the text of a block is kept. -/
def keyAt (o : CacheOptions) (origin : Origin) : String :=
  o.key.getD (derivedKey origin o.entries)

end CacheOptions

end Stencil
