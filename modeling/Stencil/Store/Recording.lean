import Stencil.Store

/-!
# Stores with failing calls

- `RecordingStore`: texts without lifetimes, and the kinds of calls that fail.
- `RecordingStore.keep`: keeps a text, in place of the one under the same key
  (`RecordingStore.find?_keep_self`, `RecordingStore.find?_keep_of_ne`).
- `RecordingStore.finds`: whether a call looks for a text that is there.
- `RecordingStore.cache`: the store as a cache store.
-/

namespace Stencil

/-- Texts under keys, one for each key of a name space, and which calls fail. -/
structure RecordingStore where
  entries : List (String × Bool × String)
  failsGet : Bool
  failsStart : Bool
  failsPut : Bool

namespace RecordingStore

/-- The text is the one under this key. -/
def isUnder (key : String) (isGlobal : Bool) (e : String × Bool × String) : Bool :=
  e.1 == key && e.2.1 == isGlobal

/-- The text under a key. -/
def find? (s : RecordingStore) (key : String) (isGlobal : Bool) : Option String :=
  (s.entries.find? (isUnder key isGlobal)).map fun e => e.2.2

/-- Keeps a text, in place of the one under the same key. -/
def keep (s : RecordingStore) (key : String) (isGlobal : Bool) (body : String) :
    RecordingStore :=
  { s with
    entries := (key, isGlobal, body) :: s.entries.filter fun e => !isUnder key isGlobal e }

/-- The text that is kept is the one that is found. -/
@[simp] theorem find?_keep_self (s : RecordingStore) (key : String) (isGlobal : Bool)
    (body : String) : (s.keep key isGlobal body).find? key isGlobal = some body := by
  simp [find?, keep, isUnder]

/-- The texts under all other keys stay as they were. -/
theorem find?_keep_of_ne (s : RecordingStore) {key key' : String} {isGlobal isGlobal' : Bool}
    (body : String) (h : (key', isGlobal') ≠ (key, isGlobal)) :
    (s.keep key isGlobal body).find? key' isGlobal' = s.find? key' isGlobal' := by
  have head : isUnder key' isGlobal' (key, isGlobal, body) = false := by
    simp only [isUnder, Bool.and_eq_false_iff, beq_eq_false_iff_ne]
    grind
  have rest : ∀ e : String × Bool × String,
      (!isUnder key isGlobal e && isUnder key' isGlobal' e) = isUnder key' isGlobal' e := by
    intro e
    simp only [isUnder]
    grind
  simp [find?, keep, head, List.find?_filter, rest]

/-- The store after some calls. A text whose call failed is not kept. -/
def replay (s : RecordingStore) (calls : List StoreCall) : RecordingStore :=
  calls.foldl (fun s call =>
    match call with
    | .put e => if s.failsPut then s else s.keep e.key e.isGlobal e.body
    | _ => s) s

/-- A call looks for a text that is there, given the calls before. -/
def finds (s : RecordingStore) (past : List StoreCall) : StoreCall → Bool
  | .get key isGlobal => ((s.replay past).find? key isGlobal).isSome
  | _ => false

/-- The cache store that answers from these texts. -/
def cache (s : RecordingStore) : CacheStore where
  get past key isGlobal :=
    if s.failsGet then .error "get is down" else .ok ((s.replay past).find? key isGlobal)
  start _ _ := if s.failsStart then .error "start is down" else .ok ()
  put _ _ := if s.failsPut then .error "put is down" else .ok ()

end RecordingStore

end Stencil
