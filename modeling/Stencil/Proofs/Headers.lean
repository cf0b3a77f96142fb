import Mathlib.Data.List.Induction
import Stencil.Response

/-!
# Headers that are set one after the other

Names of headers are one name if they are equal up to the case of ASCII letters. A header that is
set again gets the spelling and the value of the last call, in the place of the first one.

- `Text.firstSpellings`: some names without those that have come before.
- `Response.lastCall?`: the last call for a name.
- `Response.ofCalls`: the response after some calls.
- `Response.recorded_ofCalls`: every name that has been set has the header of its last call.
- `Response.headers_ofCalls`: the headers after some calls, one by one and looked up by name.
-/

namespace Stencil

/-! ## Names -/

namespace Text

variable {s t : String}

/-- Names that are one name are the same as others. -/
theorem sameLetters_congr_left (h : sameLetters s t = true) (u : String) :
    sameLetters s u = sameLetters t u := by
  rw [Bool.eq_iff_iff]
  constructor
  · intro hs
    exact sameLetters_trans (sameLetters_comm t s ▸ h) hs
  · intro ht
    exact sameLetters_trans h ht

/-- Names in their order, without those of which an earlier one is the same. -/
def firstSpellings : List String → List String
  | [] => []
  | n :: ns => n :: (firstSpellings ns).filter fun m => !sameLetters n m

variable {names : List String}

/-- A name that has come before is left out, and another one comes last. -/
theorem firstSpellings_concat (names : List String) (name : String) :
    firstSpellings (names ++ [name]) =
      if names.any (sameLetters · name) then firstSpellings names
      else firstSpellings names ++ [name] := by
  induction names with
  | nil => rfl
  | cons n ns ih =>
    rw [List.cons_append, firstSpellings, firstSpellings, ih, List.any_cons]
    by_cases later : ns.any (sameLetters · name)
    · simp only [later, Bool.or_true, if_true]
    · by_cases first : sameLetters n name
      · simp [later, first]
      · simp [later, first]

theorem mem_of_mem_firstSpellings {name : String} (h : name ∈ firstSpellings names) :
    name ∈ names := by
  induction names with
  | nil => exact h
  | cons n ns ih =>
    rcases List.mem_cons.1 h with rfl | h
    · exact List.mem_cons_self
    · exact List.mem_cons_of_mem n (ih (List.mem_filter.1 h).1)

/-- Every name is kept in its first spelling. -/
theorem exists_mem_firstSpellings {name : String} (h : name ∈ names) :
    ∃ first ∈ firstSpellings names, sameLetters first name := by
  induction names with
  | nil => cases h
  | cons n ns ih =>
    by_cases same : sameLetters n name
    · exact ⟨n, List.mem_cons_self, same⟩
    · rcases List.mem_cons.1 h with rfl | h
      · exact absurd (sameLetters_refl name) same
      · obtain ⟨first, mem, found⟩ := ih h
        refine ⟨first, List.mem_cons_of_mem n (List.mem_filter.2 ⟨mem, ?_⟩), found⟩
        -- `n` is not the name, so it is not the spelling that stands for the name either
        rw [Bool.not_eq_true', Bool.eq_false_iff]
        intro other
        exact same (sameLetters_trans other found)

/-- No two of the names that are left are the same. -/
theorem pairwise_firstSpellings (names : List String) :
    (firstSpellings names).Pairwise fun n m => sameLetters n m = false := by
  induction names with
  | nil => exact .nil
  | cons n ns ih =>
    refine .cons ?_ (ih.filter _)
    intro m mem
    simpa using (List.mem_filter.1 mem).2

end Text

namespace Response

open Text

variable {name value : String} {h c : String × String} {calls headers : List (String × String)}

/-! ## Setting a header -/

/-- Of headers with different names, the one of the name is replaced where it stands. -/
theorem putHeader_eq_map (value : String)
    (distinct : headers.Pairwise fun h k => sameLetters h.1 k.1 = false)
    (stands : headers.any fun h => sameLetters h.1 name) :
    putHeader name value headers =
      headers.map fun h => if sameLetters h.1 name then (name, value) else h := by
  induction headers with
  | nil => cases stands
  | cons h hs ih =>
    obtain ⟨others, distinct⟩ := List.pairwise_cons.1 distinct
    by_cases same : sameLetters h.1 name
    · -- the names behind are not that of `h`, so they are not the name that is set
      have rest : hs.map (fun k => if sameLetters k.1 name then (name, value) else k) = hs := by
        refine (List.map_congr_left fun k mem => if_neg ?_).trans (List.map_id' hs)
        rw [sameLetters_comm, ← sameLetters_congr_left same, others k mem]
        exact Bool.false_ne_true
      rw [putHeader, if_pos same, List.map_cons, if_pos same, rest]
    · rw [List.any_cons, Bool.eq_false_iff.2 same, Bool.false_or] at stands
      rw [putHeader, if_neg same, List.map_cons, if_neg same, ih distinct stands]

/-- A header of a new name comes last. -/
theorem putHeader_eq_append (value : String)
    (new : headers.any (fun h => sameLetters h.1 name) = false) :
    putHeader name value headers = headers ++ [(name, value)] := by
  induction headers with
  | nil => rfl
  | cons h hs ih =>
    rw [List.any_cons, Bool.or_eq_false_iff] at new
    rw [putHeader, if_neg (Bool.eq_false_iff.1 new.1), ih new.2, List.cons_append]

/-! ## Calls -/

/-- The response after some calls that set a header, the first of them first. -/
def ofCalls (calls : List (String × String)) : Response :=
  calls.foldl (fun r c => r.setHeader c.1 c.2) .empty

theorem headers_ofCalls_concat (calls : List (String × String)) (c : String × String) :
    (ofCalls (calls ++ [c])).headers = putHeader c.1 c.2 (ofCalls calls).headers := by
  rw [ofCalls, List.foldl_append]
  rfl

/-- The last call for a name. -/
def lastCall? (calls : List (String × String)) (name : String) : Option (String × String) :=
  calls.reverse.find? fun c => sameLetters c.1 name

theorem lastCall?_concat (calls : List (String × String)) (c : String × String) (name : String) :
    lastCall? (calls ++ [c]) name =
      if sameLetters c.1 name then some c else lastCall? calls name := by
  rw [lastCall?, List.reverse_concat, List.find?_cons]
  cases sameLetters c.1 name with
  | true => rfl
  | false => rfl

theorem sameLetters_of_lastCall? (found : lastCall? calls name = some c) :
    sameLetters c.1 name := by
  have same := List.find?_some found
  exact same

theorem lastCall?_eq_none :
    lastCall? calls name = none ↔ (calls.map Prod.fst).any (sameLetters · name) = false := by
  rw [lastCall?, List.find?_eq_none, List.any_map, List.any_eq_false]
  simp

/-- Spellings of one name have the same last call. -/
theorem lastCall?_congr {name' : String} (same : sameLetters name name' = true) :
    lastCall? calls name = lastCall? calls name' := by
  refine congrArg (List.find? · calls.reverse) (funext fun c => ?_)
  rw [sameLetters_comm, sameLetters_congr_left same, sameLetters_comm]

/-! ## Headers after some calls -/

section

variable {names : List String}

/-- Headers that are the last calls for different names have different names. -/
theorem pairwise_of_lastCalls (last : headers.map some = names.map (lastCall? calls))
    (distinct : names.Pairwise fun n m => sameLetters n m = false) :
    headers.Pairwise fun h k => sameLetters h.1 k.1 = false := by
  have apart : (names.map (lastCall? calls)).Pairwise fun o o' =>
      ∀ h k, o = some h → o' = some k → sameLetters h.1 k.1 = false := by
    refine List.pairwise_map.2 (distinct.imp ?_)
    intro n m other h k hn hm
    rw [sameLetters_congr_left (sameLetters_of_lastCall? hn), sameLetters_comm,
      sameLetters_congr_left (sameLetters_of_lastCall? hm), sameLetters_comm]
    exact other
  rw [← last, List.pairwise_map] at apart
  exact apart.imp fun apart => apart _ _ rfl rfl

/-- Names that have a header have been set. -/
theorem exists_lastCall? (last : headers.map some = names.map (lastCall? calls)) {n : String}
    (mem : n ∈ names) : ∃ h ∈ headers, lastCall? calls n = some h := by
  have among : lastCall? calls n ∈ headers.map some := last ▸ List.mem_map_of_mem mem
  obtain ⟨h, mem, found⟩ := List.mem_map.1 among
  exact ⟨h, mem, found.symm⟩

/-- A header is the last call for its name. -/
theorem lastCall?_of_mem (last : headers.map some = names.map (lastCall? calls))
    (mem : h ∈ headers) : lastCall? calls h.1 = some h := by
  have among : some h ∈ names.map (lastCall? calls) := last ▸ List.mem_map_of_mem mem
  obtain ⟨n, -, found⟩ := List.mem_map.1 among
  rw [lastCall?_congr (sameLetters_of_lastCall? found), found]

/-- Another call gives its header to the name that is the same, and leaves the others. -/
theorem lastCalls_concat (last : headers.map some = names.map (lastCall? calls))
    (c : String × String) :
    (headers.map fun h => if sameLetters h.1 c.1 then c else h).map some =
      names.map (lastCall? (calls ++ [c])) := by
  let replace (h : String × String) : String × String := if sameLetters h.1 c.1 then c else h
  calc (headers.map replace).map some
      = (headers.map some).map (Option.map replace) := by
        rw [List.map_map, List.map_map]
        rfl
    _ = names.map fun n => (lastCall? calls n).map replace := by
        rw [last, List.map_map]
        rfl
    _ = names.map (lastCall? (calls ++ [c])) := by
        refine List.map_congr_left fun n mem => ?_
        obtain ⟨h, -, found⟩ := exists_lastCall? last mem
        have same : sameLetters h.1 c.1 = sameLetters c.1 n := by
          rw [sameLetters_congr_left (sameLetters_of_lastCall? found), sameLetters_comm]
        rw [lastCall?_concat, found, Option.map_some]
        show some (if sameLetters h.1 c.1 then c else h) = _
        rw [same]
        split
        · rfl
        · rfl

/-- A call for another name does not matter to the ones that have been set. -/
theorem map_lastCall?_concat (new : ∀ n ∈ names, sameLetters n c.1 = false) :
    names.map (lastCall? (calls ++ [c])) = names.map (lastCall? calls) := by
  refine List.map_congr_left fun n mem => ?_
  rw [lastCall?_concat, if_neg]
  rw [sameLetters_comm, new n mem]
  exact Bool.false_ne_true

end

/-- The headers are the last calls for the names that have been set, in the order in which each name
has been set first. -/
theorem recorded_ofCalls (calls : List (String × String)) :
    (ofCalls calls).headers.map some =
      (firstSpellings (calls.map Prod.fst)).map (lastCall? calls) := by
  induction calls using List.reverseRecOn with
  | nil => rfl
  | append_singleton calls c ih =>
    have distinct := pairwise_of_lastCalls ih (pairwise_firstSpellings _)
    rw [headers_ofCalls_concat, List.map_append, List.map_singleton, firstSpellings_concat]
    by_cases again : (calls.map Prod.fst).any (sameLetters · c.1)
    · have stands : (ofCalls calls).headers.any fun h => sameLetters h.1 c.1 := by
        obtain ⟨name, set, same⟩ := List.any_eq_true.1 again
        obtain ⟨n, first, same'⟩ := exists_mem_firstSpellings set
        obtain ⟨h, mem, found⟩ := exists_lastCall? ih first
        refine List.any_eq_true.2 ⟨h, mem, ?_⟩
        exact sameLetters_trans (sameLetters_of_lastCall? found) (sameLetters_trans same' same)
      rw [putHeader_eq_map c.2 distinct stands, if_pos again]
      exact lastCalls_concat ih c
    · have new : ∀ n ∈ calls.map Prod.fst, sameLetters n c.1 = false := by
        rw [List.any_eq_true] at again
        intro n mem
        exact Bool.eq_false_iff.2 fun same => again ⟨n, mem, same⟩
      have absent : (ofCalls calls).headers.any (fun h => sameLetters h.1 c.1) = false := by
        refine List.any_eq_false.2 fun h mem same => ?_
        have last := lastCall?_of_mem ih mem
        rw [lastCall?_congr same, lastCall?_eq_none.2 (Bool.eq_false_iff.2 again)] at last
        cases last
      rw [putHeader_eq_append c.2 absent, if_neg again, List.map_append, List.map_append, ih,
        map_lastCall?_concat fun n mem => new n (mem_of_mem_firstSpellings mem), List.map_singleton,
        List.map_singleton, lastCall?_concat, if_pos (sameLetters_refl c.1)]

/-- A header is looked up by the last call for its name. -/
theorem header?_ofCalls (calls : List (String × String)) (name : String) :
    (ofCalls calls).header? name = (lastCall? calls name).map Prod.snd := by
  refine congrArg (Option.map Prod.snd) ?_
  have recorded := recorded_ofCalls calls
  cases found : (ofCalls calls).headers.find? fun h => sameLetters h.1 name with
  | some h =>
    have same : sameLetters h.1 name := by simpa using List.find?_some found
    rw [← lastCall?_congr same, lastCall?_of_mem recorded (List.mem_of_find?_eq_some found)]
  | none =>
    rw [eq_comm, lastCall?_eq_none, List.any_eq_false]
    intro n set same
    obtain ⟨m, first, same'⟩ := exists_mem_firstSpellings set
    obtain ⟨h, mem, last⟩ := exists_lastCall? recorded first
    refine List.find?_eq_none.1 found h mem ?_
    exact sameLetters_trans (sameLetters_of_lastCall? last) (sameLetters_trans same' same)

/-- After any calls that set headers no two names of headers are the same, and a name has the value
of the last call for it, in whatever spelling, or no value if there is none. The headers have the
spellings and the values of the last calls for their names, and stand in the order in which each
name has been set first. -/
theorem headers_ofCalls (calls : List (String × String)) :
    ((ofCalls calls).headers.Pairwise fun h k => sameLetters h.1 k.1 = false) ∧
      (∀ name, (ofCalls calls).header? name = (lastCall? calls name).map Prod.snd) ∧
      (ofCalls calls).headers.map some =
        (firstSpellings (calls.map Prod.fst)).map (lastCall? calls) := by
  have recorded := recorded_ofCalls calls
  refine ⟨?_, header?_ofCalls calls, recorded⟩
  exact pairwise_of_lastCalls recorded (pairwise_firstSpellings _)

example : (ofCalls [("X-Frame-Options", "DENY"), ("Cache-Control", "no-store"),
    ("x-frame-options", "SAMEORIGIN")]).headers =
      [("x-frame-options", "SAMEORIGIN"), ("Cache-Control", "no-store")] := by
  decide

end Response

end Stencil
