/-!
# Dictionaries sorted by key

A dictionary is a list of keys and values in which every key stands before the greater ones, so
that equal contents are equal lists. Keys are compared by their code points, which is also the
order of their bytes.

- `Dict.get?`: the value under a key.
- `Dict.insert`: a value put under a key, in place of an earlier one.
- `Dict.erase`: the dictionary without a key.
- `Dict.ofList`: the dictionary of a list of entries, later entries winning.
- `Dict.Sorted`: the keys increase.
- `Dict.isSome_get?`: the keys are those that have a value.
- `Dict.get?_insert`, `Dict.sorted_insert`: what insertion does to the view and to the order.
- `Dict.ofList_of_sorted`: entries whose keys increase are a dictionary already.
-/

namespace Stencil

/-- Entries sorted by key. -/
abbrev Dict (α : Type) := List (String × α)

namespace Dict

variable {α β : Type}

/-- The value under a key. -/
def get? (key : String) : Dict α → Option α
  | [] => none
  | (k, v) :: rest => if k = key then some v else get? key rest

/-- Puts a value under a key, in place of an earlier one. -/
def insert (key : String) (value : α) : Dict α → Dict α
  | [] => [(key, value)]
  | (k, v) :: rest =>
    if key = k then (key, value) :: rest
    else if key < k then (key, value) :: (k, v) :: rest
    else (k, v) :: insert key value rest

/-- The dictionary without a key. -/
def erase (key : String) (d : Dict α) : Dict α := d.filter fun e => e.1 != key

/-- The dictionary of some entries; of several under one key the last one wins. -/
def ofList (entries : List (String × α)) : Dict α :=
  entries.foldl (fun d e => insert e.1 e.2 d) []

/-- The keys in order. -/
def keys (d : Dict α) : List String := d.map Prod.fst

/-- The keys increase. -/
def Sorted (d : Dict α) : Prop := d.Pairwise fun a b => a.1 < b.1

@[simp] theorem get?_nil (key : String) : get? key ([] : Dict α) = none := rfl

@[simp] theorem get?_cons (key k : String) (v : α) (d : Dict α) :
    get? key ((k, v) :: d) = if k = key then some v else get? key d := rfl

/-- A value that is found stands in the dictionary under its key. -/
theorem mem_of_get? {key : String} {v : α} {d : Dict α} (found : get? key d = some v) :
    (key, v) ∈ d := by
  induction d with
  | nil => cases found
  | cons e d ih =>
    obtain ⟨k, w⟩ := e
    rw [get?_cons] at found
    split at found
    · next same =>
      cases found
      exact same ▸ List.mem_cons_self
    · exact List.mem_cons_of_mem _ (ih found)

/-- There is a value under the keys of the dictionary only. -/
theorem isSome_get? {key : String} {d : Dict α} : (get? key d).isSome ↔ key ∈ keys d := by
  constructor
  · intro found
    obtain ⟨v, found⟩ := Option.isSome_iff_exists.1 found
    exact List.mem_map_of_mem (mem_of_get? found)
  · intro mem
    induction d with
    | nil => cases mem
    | cons e d ih =>
      obtain ⟨k, v⟩ := e
      rw [get?_cons]
      split
      · rfl
      · next different =>
        rcases List.mem_cons.1 mem with same | mem
        · exact absurd same.symm different
        · exact ih mem

theorem get?_eq_none {key : String} {d : Dict α} (other : key ∉ keys d) : get? key d = none :=
  Option.not_isSome_iff_eq_none.1 fun found => other (isSome_get?.1 found)

/-- Insertion changes the value of one key only. -/
theorem get?_insert (key key' : String) (value : α) (d : Dict α) :
    get? key' (insert key value d) = if key = key' then some value else get? key' d := by
  induction d with
  | nil => rfl
  | cons e d ih =>
    obtain ⟨k, v⟩ := e
    by_cases hk : key = k
    · subst hk
      by_cases h : key = key' <;> simp [insert, h]
    · by_cases hlt : key < k
      · simp [insert, hk, hlt]
      · simp only [insert, hk, hlt, if_false, get?_cons, ih]
        by_cases h : key = key'
        · subst h
          simp [Ne.symm hk]
        · simp [h]

/-- What holds of the values of some entries holds of those in the dictionary of the entries. -/
theorem forall_of_ofList {P : α → Prop} {entries : List (String × α)} (h : ∀ e ∈ entries, P e.2)
    (key : String) (v : α) (found : get? key (ofList entries) = some v) : P v := by
  have grow : ∀ (entries : List (String × α)) (d : Dict α), (∀ e ∈ entries, P e.2) →
      (∀ key v, get? key d = some v → P v) →
      ∀ key v, get? key (entries.foldl (fun d e => insert e.1 e.2 d) d) = some v → P v := by
    intro entries
    induction entries with
    | nil => exact fun d _ hd => hd
    | cons e entries ih =>
      intro d he hd
      refine ih _ (fun e' h' => he e' (List.mem_cons_of_mem e h')) fun key v found => ?_
      rw [get?_insert] at found
      split at found
      · cases found
        exact he e List.mem_cons_self
      · exact hd key v found
  exact grow entries [] h nofun key v found

/-- Insertion adds no key but its own. -/
theorem mem_keys_insert {key k : String} {value : α} {d : Dict α} :
    k ∈ keys (insert key value d) ↔ k = key ∨ k ∈ keys d := by
  induction d with
  | nil => simp [insert, keys]
  | cons e d ih =>
    obtain ⟨k', v⟩ := e
    by_cases hk : key = k'
    · subst hk
      simp [insert, keys]
    · by_cases hlt : key < k'
      · simp [insert, hk, hlt, keys]
      · simp only [keys] at ih
        simp only [insert, hk, hlt, if_false, keys, List.map_cons, List.mem_cons, ih]
        grind

/-- Keys that increase are different. -/
theorem nodup_keys {d : Dict α} (h : Sorted d) : (keys d).Nodup := by
  refine List.pairwise_map.2 (h.imp ?_)
  intro a b less same
  exact String.lt_irrefl b.1 (same ▸ less)

/-- Where the keys are different every entry is found. -/
theorem get?_of_mem {d : Dict α} (h : (keys d).Nodup) {key : String} {v : α}
    (mem : (key, v) ∈ d) : get? key d = some v := by
  induction d with
  | nil => cases mem
  | cons e d ih =>
    obtain ⟨k, w⟩ := e
    obtain ⟨new, rest⟩ := List.nodup_cons.1 h
    rcases List.mem_cons.1 mem with same | mem
    · cases same
      exact if_pos rfl
    · have different : k ≠ key := by
        rintro rfl
        have present : k ∈ keys d := List.mem_map_of_mem (f := Prod.fst) mem
        exact new present
      rw [get?_cons, if_neg different, ih rest mem]

/-- With a new entry the keys increase still. -/
theorem sorted_insert {d : Dict α} (h : Sorted d) (key : String) (value : α) :
    Sorted (insert key value d) := by
  induction d with
  | nil => exact List.pairwise_singleton _ _
  | cons e d ih =>
    obtain ⟨k, v⟩ := e
    obtain ⟨first, rest⟩ := List.pairwise_cons.1 h
    by_cases same : key = k
    · rw [insert, if_pos same]
      exact .cons (same ▸ first) rest
    · by_cases less : key < k
      · rw [insert, if_neg same, if_pos less]
        refine .cons ?_ h
        intro e' mem
        rcases List.mem_cons.1 mem with rfl | mem
        · exact less
        · exact String.lt_trans less (first e' mem)
      · rw [insert, if_neg same, if_neg less]
        refine .cons ?_ (ih rest)
        intro e' mem
        -- the keys behind are the new one and those that have been there
        rcases mem_keys_insert.1 (List.mem_map_of_mem mem) with new | old
        · show k < e'.1
          grind
        · obtain ⟨e'', mem, key_eq⟩ := List.mem_map.1 old
          exact key_eq ▸ first e'' mem

theorem sorted_foldl_insert (entries : List (String × α)) {d : Dict α} (h : Sorted d) :
    Sorted (entries.foldl (fun d e => insert e.1 e.2 d) d) := by
  induction entries generalizing d with
  | nil => exact h
  | cons e entries ih => exact ih (sorted_insert h e.1 e.2)

/-- The keys of a dictionary of entries increase. -/
theorem sorted_ofList (entries : List (String × α)) : Sorted (ofList entries) :=
  sorted_foldl_insert entries .nil

/-- An entry that is greater than all others is put behind them. -/
theorem insert_of_lt {d : Dict α} {key : String} (greater : ∀ e ∈ d, e.1 < key) (value : α) :
    insert key value d = d ++ [(key, value)] := by
  induction d with
  | nil => rfl
  | cons e d ih =>
    obtain ⟨k, v⟩ := e
    have less : k < key := greater (k, v) List.mem_cons_self
    have different : key ≠ k := by
      rintro rfl
      exact String.lt_irrefl _ less
    rw [insert, if_neg different, if_neg (String.lt_asymm less),
      ih fun e mem => greater e (List.mem_cons_of_mem _ mem), List.cons_append]

/-- Entries whose keys increase are put behind each other. -/
theorem foldl_insert_of_sorted {entries : List (String × α)} {d : Dict α}
    (h : Sorted (d ++ entries)) :
    entries.foldl (fun d e => insert e.1 e.2 d) d = d ++ entries := by
  induction entries generalizing d with
  | nil => exact (List.append_nil d).symm
  | cons e entries ih =>
    have behind : insert e.1 e.2 d = d ++ [e] :=
      insert_of_lt (fun e' mem => (List.pairwise_append.1 h).2.2 e' mem e List.mem_cons_self) e.2
    have shifted : d ++ e :: entries = (d ++ [e]) ++ entries := by simp
    rw [List.foldl_cons, behind, shifted]
    exact ih (shifted ▸ h)

/-- Entries whose keys increase are a dictionary already. -/
theorem ofList_of_sorted {d : Dict α} (h : Sorted d) : ofList d = d :=
  foldl_insert_of_sorted (d := []) h

/-- Erasing removes the value of one key only. -/
theorem get?_erase (key key' : String) (d : Dict α) :
    get? key' (erase key d) = if key = key' then none else get? key' d := by
  induction d with
  | nil => simp [erase]
  | cons e d ih =>
    obtain ⟨k, v⟩ := e
    have ih' : get? key' (List.filter (fun e => e.1 != key) d) =
        if key = key' then none else get? key' d := ih
    by_cases hk : k = key
    · subst hk
      by_cases h : k = key'
      · subst h
        simpa [erase] using ih'
      · simp [erase, ih', h]
    · by_cases h : key = key'
      · subst h
        simp [erase, ih', hk]
      · simp [erase, ih', hk, h]

end Dict

end Stencil
