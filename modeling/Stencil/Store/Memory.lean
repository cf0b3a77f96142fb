import Stencil.Store

/-!
# Stores in memory

- `MemoryStore`: entries under a key and a name space, each with a moment of expiration or none.
- `MemoryStore.get`, `MemoryStore.put`, `MemoryStore.count`, `MemoryStore.isEmpty`,
  `MemoryStore.clear`: its operations at a given time. Looking up an entry that has expired removes
  it, and no other (`MemoryStore.find?_remove_self`, `MemoryStore.find?_remove_of_ne`).
- `MemoryStore.cache`: the store as a cache store.

Specification: section E3; `MemoryStore` and `Stored.is_live`.
-/

namespace Stencil

/-- An entry of a store in memory. -/
structure StoredEntry where
  isGlobal : Bool
  key : String
  body : String
  expires : Option Moment
deriving DecidableEq

/-- The entry has not expired. -/
def StoredEntry.isLive (e : StoredEntry) (now : Moment) : Bool := e.expires.all now.before

/-- Entries in memory, at most one for each key of a name space, and the duration in nanoseconds of
those that are put without a lifetime. -/
structure MemoryStore where
  defaultDuration : Option Int
  entries : List StoredEntry
deriving DecidableEq

namespace MemoryStore

/-- A store without entries. -/
def empty (defaultDuration : Option Int) : MemoryStore := ⟨defaultDuration, []⟩

/-- The entry is the one of this key. -/
def isAt (isGlobal : Bool) (key : String) (e : StoredEntry) : Bool :=
  e.isGlobal == isGlobal && e.key == key

/-- The entry under a key, expired or not. -/
def find? (s : MemoryStore) (isGlobal : Bool) (key : String) : Option StoredEntry :=
  s.entries.find? (isAt isGlobal key)

/-- The store without the entry under a key. -/
def remove (s : MemoryStore) (isGlobal : Bool) (key : String) : MemoryStore :=
  { s with entries := s.entries.filter fun e => !isAt isGlobal key e }

/-- No entry is left under a key that was removed. -/
@[simp] theorem find?_remove_self (s : MemoryStore) (isGlobal : Bool) (key : String) :
    (s.remove isGlobal key).find? isGlobal key = none := by
  simp [find?, remove]

/-- The entries under all other keys stay. -/
theorem find?_remove_of_ne (s : MemoryStore) {isGlobal isGlobal' : Bool} {key key' : String}
    (h : (isGlobal', key') ≠ (isGlobal, key)) :
    (s.remove isGlobal key).find? isGlobal' key' = s.find? isGlobal' key' := by
  have rest : ∀ e : StoredEntry,
      (!isAt isGlobal key e && isAt isGlobal' key' e) = isAt isGlobal' key' e := by
    intro e
    simp only [isAt]
    grind
  simp [find?, remove, List.find?_filter, rest]

/-- Looks up a text. An entry that has expired is removed. -/
def get (s : MemoryStore) (now : Moment) (key : String) (isGlobal : Bool) :
    Option String × MemoryStore :=
  match s.find? isGlobal key with
  | some e => if e.isLive now then (some e.body, s) else (none, s.remove isGlobal key)
  | none => (none, s)

/-- When an entry expires that is put now: at its expiration, or after its duration or the default
one. A duration that leads out of the range of moments sets no end. -/
def expiry (s : MemoryStore) (now : Moment) (e : CacheEntry) : Option Moment :=
  match e.expiration, e.duration.or s.defaultDuration with
  | some at_, _ => some at_
  | none, some d => now.add d
  | none, none => none

/-- Keeps a text, in place of the one under the same key. -/
def put (s : MemoryStore) (now : Moment) (e : CacheEntry) : MemoryStore :=
  { s with
    entries := ⟨e.isGlobal, e.key, e.body, s.expiry now e⟩ ::
      (s.remove e.isGlobal e.key).entries }

/-- The number of entries that have not expired. -/
def count (s : MemoryStore) (now : Moment) : Nat := s.entries.countP fun e => e.isLive now

/-- All entries have expired. -/
def isEmpty (s : MemoryStore) (now : Moment) : Bool := s.count now == 0

/-- The store without its entries. -/
def clear (s : MemoryStore) : MemoryStore := { s with entries := [] }

/-- The store after some calls at one time. -/
def replay (s : MemoryStore) (now : Moment) (calls : List StoreCall) : MemoryStore :=
  calls.foldl (fun s call =>
    match call with
    | .get key isGlobal => (s.get now key isGlobal).2
    | .start _ => s
    | .put e => s.put now e) s

/-- The cache store that answers from these entries. -/
def cache (s : MemoryStore) (now : Moment) : CacheStore where
  get past key isGlobal := .ok ((s.replay now past).get now key isGlobal).1
  start _ _ := .ok ()
  put _ _ := .ok ()

end MemoryStore

end Stencil
