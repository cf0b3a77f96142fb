import Stencil.Moment

/-!
# Cache stores

A store keeps rendered texts under keys, in two name spaces. It answers each call from the calls
made to it before, so that a store is a function of its history.

- `CacheEntry`: a text to keep, with its lifetime.
- `StoreCall`: a call to a store.
- `CacheStore`: the answers of a store.
- `CacheStore.answer`: the answer to any call.

Specification: sections 6 and E3; `CacheStore` and `CacheEntry`.
-/

namespace Stencil

/-- A text to keep. The duration is in nanoseconds; a moment of expiration takes precedence over
it. -/
structure CacheEntry where
  key : String
  isGlobal : Bool
  duration : Option Int
  expiration : Option Moment
  body : String
deriving DecidableEq

/-- A call to a store. -/
inductive StoreCall where
  /-- A text is looked up. -/
  | get (key : String) (isGlobal : Bool)
  /-- A text that was not found is about to be rendered. -/
  | start (isGlobal : Bool)
  /-- A text is kept. -/
  | put (entry : CacheEntry)
deriving DecidableEq

/-- The answers of a store to its calls, given the calls before, the oldest first. Any call may
fail with a message. -/
structure CacheStore where
  get : List StoreCall → String → Bool → Except String (Option String)
  start : List StoreCall → Bool → Except String Unit
  put : List StoreCall → CacheEntry → Except String Unit

/-- What a store answers to a call: a text if one is found, or the message of a failure. -/
abbrev StoreAnswer := Except String (Option String)

/-- The answer to a call, given the calls before. -/
def CacheStore.answer (store : CacheStore) (past : List StoreCall) : StoreCall → StoreAnswer
  | .get key isGlobal => store.get past key isGlobal
  | .start isGlobal => (store.start past isGlobal).map fun _ => none
  | .put entry => (store.put past entry).map fun _ => none

end Stencil
