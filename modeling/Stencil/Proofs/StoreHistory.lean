import Mathlib.Data.Finset.Card
import Stencil.Store.Memory

/-!
# What a store in memory answers

A store in memory keeps its entries until they are replaced, removed by a look-up after their
expiration, or cleared. None of this has to be known to tell its answers: they follow from the calls
that were made to it and from the times of these calls, as long as the clock does not go back.

- `MemoryStore.Timed`: a call at a time; `MemoryStore.perform`: its answer and the store behind it.
- `MemoryStore.lastPut?`, `MemoryStore.held?`: what a history of calls says about a key.
- `MemoryStore.Expected`: the answer that follows from a history.
- `MemoryStore.Reflects`: a store whose entries say the same as a history.
- `MemoryStore.answer_of_history`: every answer is the expected one, whatever has been looked up
  before and whatever was put into the other name space.
-/

namespace Stencil

/-! ## Times -/

namespace Moment

/-- The first moment does not lie behind the second one. -/
def NotAfter (m n : Moment) : Prop := n.before m = false

instance (m n : Moment) : Decidable (m.NotAfter n) := inferInstanceAs (Decidable (_ = _))

variable {m n p : Moment}

theorem before_iff : m.before n = true ↔
    m.seconds < n.seconds ∨ m.seconds = n.seconds ∧ m.nanos < n.nanos := by
  simp [before]

/-- What lies before a moment lies before all later ones. -/
theorem NotAfter.before (h : m.NotAfter n) (h' : n.before p = true) : m.before p = true := by
  have early : ¬ (n.seconds < m.seconds ∨ n.seconds = m.seconds ∧ n.nanos < m.nanos) := by
    rw [← before_iff, h]
    exact Bool.false_ne_true
  rw [before_iff] at h' ⊢
  omega

end Moment

/-- An entry that lives at a time has lived before. -/
theorem StoredEntry.isLive_of_notAfter {e : StoredEntry} {now later : Moment}
    (le : now.NotAfter later) (h : e.isLive later = true) : e.isLive now = true := by
  unfold isLive at h ⊢
  cases ends : e.expires with
  | none => rfl
  | some at_ =>
    rw [ends] at h
    exact le.before h

namespace MemoryStore

/-! ## Calls -/

/-- A call to a store in memory. -/
inductive Call where
  | put (entry : CacheEntry)
  | get (key : String) (isGlobal : Bool)
  | count
  | isEmpty
  | clear
deriving DecidableEq

/-- What a store in memory answers. -/
inductive Answer where
  | done
  | text (body : Option String)
  | number (n : Nat)
  | truth (b : Bool)
deriving DecidableEq

/-- A call at a time. -/
structure Timed where
  time : Moment
  call : Call
deriving DecidableEq

/-- The answer to a call, and the store behind it. -/
def perform (s : MemoryStore) (c : Timed) : Answer × MemoryStore :=
  match c.call with
  | .put e => (.done, s.put c.time e)
  | .get key isGlobal => (.text (s.get c.time key isGlobal).1, (s.get c.time key isGlobal).2)
  | .count => (.number (s.count c.time), s)
  | .isEmpty => (.truth (s.isEmpty c.time), s)
  | .clear => (.done, s.clear)

/-- The answer to a call. -/
def answer (s : MemoryStore) (c : Timed) : Answer := (s.perform c).1

/-- The store behind some calls, of which the last one comes first. -/
def after (s : MemoryStore) : List Timed → MemoryStore
  | [] => s
  | c :: past => ((s.after past).perform c).2

/-- No call was made before those behind it in the list. -/
def Ordered (past : List Timed) : Prop := past.Pairwise fun c b => b.time.NotAfter c.time

instance (past : List Timed) : Decidable (Ordered past) :=
  inferInstanceAs (Decidable (List.Pairwise _ _))

/-! ## What a history says -/

/-- The text that was put under a key last, and when, unless the store has been cleared since. -/
def lastPut? (isGlobal : Bool) (key : String) : List Timed → Option (Moment × CacheEntry)
  | [] => none
  | c :: past =>
    match c.call with
    | .put e =>
      if e.isGlobal = isGlobal ∧ e.key = key then some (c.time, e) else lastPut? isGlobal key past
    | .clear => none
    | _ => lastPut? isGlobal key past

/-- The end of a text that was put at a time: the expiration that is given with it, or else the time
after its duration, or the default one, if there is such a moment. -/
def lifeEnd? (standard : Option Int) (time : Moment) (e : CacheEntry) : Option Moment :=
  e.expiration.or ((e.duration.or standard).bind time.add)

/-- The text under a key: the one that was put last, unless its end has come. -/
def held? (standard : Option Int) (past : List Timed) (now : Moment) (isGlobal : Bool)
    (key : String) : Option String :=
  (lastPut? isGlobal key past).bind fun p =>
    if ∀ at_ ∈ lifeEnd? standard p.1 p.2, now.before at_ = true then some p.2.body else none

/-- The answer to a call that follows from the calls before it. -/
def Expected (standard : Option Int) (past : List Timed) (now : Moment) : Call → Answer → Prop
  | .put _, a => a = .done
  | .get key isGlobal, a => a = .text (held? standard past now isGlobal key)
  | .count, a =>
    ∃ places : Finset (Bool × String),
      (∀ p, p ∈ places ↔ (held? standard past now p.1 p.2).isSome) ∧ a = .number places.card
  | .isEmpty, a =>
    ∃ b, (b = true ↔ ∀ isGlobal key, held? standard past now isGlobal key = none) ∧ a = .truth b
  | .clear, a => a = .done

/-- The call may change what stands in a name space, or looks there. -/
def Call.concerns (isGlobal : Bool) : Call → Bool
  | .put e => e.isGlobal == isGlobal
  | .get _ g => g == isGlobal
  | _ => true

/-- The call looks a text up. -/
def Call.isLookup : Call → Bool
  | .get _ _ => true
  | _ => false

variable {standard : Option Int} {past past' : List Timed} {now : Moment} {c : Timed}
  {s : MemoryStore} {isGlobal : Bool} {key : String} {a a' : Answer}

/-- Calls that are neither a text put under a key nor a clearing do not matter for the key. -/
theorem lastPut?_filter {p : Timed → Bool} (isGlobal : Bool) (key : String) (past : List Timed)
    (put : ∀ time e, e.isGlobal = isGlobal → p ⟨time, .put e⟩ = true)
    (clear : ∀ time, p ⟨time, .clear⟩ = true) :
    lastPut? isGlobal key (past.filter p) = lastPut? isGlobal key past := by
  induction past with
  | nil => rfl
  | cons c past ih =>
    obtain ⟨time, call⟩ := c
    by_cases kept : p ⟨time, call⟩ = true
    · rw [List.filter_cons_of_pos kept]
      cases call <;> simp [lastPut?, ih]
    · rw [List.filter_cons_of_neg kept, ih]
      cases call with
      | put e =>
        have other : ¬ (e.isGlobal = isGlobal ∧ e.key = key) := fun h => kept (put time e h.1)
        simp [lastPut?, other]
      | clear => exact absurd (clear time) kept
      | _ => rfl

/-- Histories that say the same about all keys lead to the same answers. -/
theorem Expected.unique {call : Call} (h : Expected standard past now call a)
    (h' : Expected standard past' now call a')
    (same : ∀ isGlobal key,
      held? standard past now isGlobal key = held? standard past' now isGlobal key) :
    a = a' := by
  cases call with
  | put e => exact h.trans h'.symm
  | get key isGlobal =>
    have answers : a = .text (held? standard past now isGlobal key) := h
    rw [answers, same]
    exact h'.symm
  | count =>
    obtain ⟨places, mem, rfl⟩ := h
    obtain ⟨places', mem', rfl⟩ := h'
    have eq : places = places' := by
      ext p
      rw [mem, mem', same]
    rw [eq]
  | isEmpty =>
    obtain ⟨b, empty, rfl⟩ := h
    obtain ⟨b', empty', rfl⟩ := h'
    have eq : b = b' := by
      rw [Bool.eq_iff_iff, empty, empty']
      simp only [same]
    rw [eq]
  | clear => exact h.trans h'.symm

/-! ## What the entries of a store say -/

/-- The name space and the key of an entry. -/
def placeOf (e : StoredEntry) : Bool × String := (e.isGlobal, e.key)

/-- No two entries have the same place. -/
def Distinct (s : MemoryStore) : Prop := (s.entries.map placeOf).Nodup

/-- The text that is found under a key. -/
def text? (s : MemoryStore) (now : Moment) (isGlobal : Bool) (key : String) : Option String :=
  (s.get now key isGlobal).1

theorem text?_eq : s.text? now isGlobal key =
    (s.find? isGlobal key).bind fun e => if e.isLive now then some e.body else none := by
  unfold text? get
  cases s.find? isGlobal key with
  | none => rfl
  | some e => cases live : e.isLive now <;> simp [live]

theorem isAt_iff {e : StoredEntry} : isAt isGlobal key e = true ↔ placeOf e = (isGlobal, key) := by
  simp [isAt, placeOf]

/-- With one entry for each place, the entry that is found is the one that stands there. -/
theorem find?_eq_some_iff (distinct : s.Distinct) {e : StoredEntry} :
    s.find? isGlobal key = some e ↔ e ∈ s.entries ∧ placeOf e = (isGlobal, key) := by
  constructor
  · intro found
    exact ⟨List.mem_of_find?_eq_some found, isAt_iff.1 (List.find?_some found)⟩
  · rintro ⟨mem, place⟩
    obtain ⟨e', found⟩ := Option.isSome_iff_exists.1
      (List.find?_isSome.2 ⟨e, mem, isAt_iff.2 place⟩)
    have mem' := List.mem_of_find?_eq_some found
    have place' := isAt_iff.1 (List.find?_some found)
    have same : e' = e := List.inj_on_of_nodup_map distinct mem' mem (place'.trans place.symm)
    rw [find?, found, same]

/-- An entry is counted for each place at which a text is found. -/
theorem exists_places (distinct : s.Distinct) (now : Moment) :
    ∃ places : Finset (Bool × String),
      (∀ p, p ∈ places ↔ (s.text? now p.1 p.2).isSome) ∧ s.count now = places.card := by
  have live : (s.entries.filter (·.isLive now)).Sublist s.entries := List.filter_sublist
  have nodup : ((s.entries.filter (·.isLive now)).map placeOf).Nodup :=
    List.Nodup.sublist (live.map placeOf) distinct
  refine ⟨((s.entries.filter (·.isLive now)).map placeOf).toFinset, ?_, ?_⟩
  · rintro ⟨isGlobal, key⟩
    rw [List.mem_toFinset, List.mem_map, text?_eq]
    constructor
    · rintro ⟨e, mem, place⟩
      obtain ⟨mem, lives⟩ := List.mem_filter.1 mem
      have found := (find?_eq_some_iff distinct).2 ⟨mem, place⟩
      simp [found, lives]
    · intro some
      obtain ⟨body, found⟩ := Option.isSome_iff_exists.1 some
      obtain ⟨e, entry, lives⟩ := Option.bind_eq_some_iff.1 found
      obtain ⟨mem, place⟩ := (find?_eq_some_iff distinct).1 entry
      refine ⟨e, List.mem_filter.2 ⟨mem, ?_⟩, place⟩
      by_contra dead
      rw [if_neg dead] at lives
      cases lives
  · rw [List.toFinset_card_of_nodup nodup, List.length_map, count, List.countP_eq_length_filter]

theorem distinct_remove (distinct : s.Distinct) (isGlobal : Bool) (key : String) :
    (s.remove isGlobal key).Distinct := by
  have sub : (s.entries.filter fun e => !isAt isGlobal key e).Sublist s.entries :=
    List.filter_sublist
  exact List.Nodup.sublist (sub.map placeOf) distinct

theorem distinct_put (distinct : s.Distinct) (now : Moment) (e : CacheEntry) :
    (s.put now e).Distinct := by
  refine List.nodup_cons.2 ⟨?_, distinct_remove distinct e.isGlobal e.key⟩
  intro mem
  obtain ⟨e', mem, place⟩ := List.mem_map.1 mem
  have gone := (List.mem_filter.1 mem).2
  rw [isAt_iff.2 place] at gone
  cases gone

theorem distinct_get (distinct : s.Distinct) (now : Moment) (key : String) (isGlobal : Bool) :
    (s.get now key isGlobal).2.Distinct := by
  unfold get
  split
  · split
    · exact distinct
    · exact distinct_remove distinct isGlobal key
  · exact distinct

/-! ## What calls do to the texts -/

/-- A text that is put replaces the one under its own key. -/
theorem find?_put (s : MemoryStore) (time : Moment) (e : CacheEntry) (isGlobal : Bool)
    (key : String) :
    (s.put time e).find? isGlobal key =
      if e.isGlobal = isGlobal ∧ e.key = key then
        some ⟨e.isGlobal, e.key, e.body, s.expiry time e⟩
      else s.find? isGlobal key := by
  unfold put find?
  by_cases own : e.isGlobal = isGlobal ∧ e.key = key
  · rw [if_pos own, List.find?_cons_of_pos (by simpa [isAt] using own)]
  · have other : (isGlobal, key) ≠ (e.isGlobal, e.key) := by
      intro eq
      cases eq
      exact own ⟨rfl, rfl⟩
    rw [if_neg own, List.find?_cons_of_neg (by simpa [isAt] using own)]
    exact find?_remove_of_ne s other

/-- What is removed by a look-up has expired, and will not be found later on. -/
theorem text?_get {time : Moment} (le : time.NotAfter now) (key' : String) (isGlobal' : Bool)
    (isGlobal : Bool) (key : String) :
    (s.get time key' isGlobal').2.text? now isGlobal key = s.text? now isGlobal key := by
  unfold get
  split
  · next e found =>
    split
    · rfl
    · next dead =>
      by_cases same : (isGlobal, key) = (isGlobal', key')
      · cases same
        have dead' : ¬ e.isLive now = true :=
          fun lives => dead (StoredEntry.isLive_of_notAfter le lives)
        rw [text?_eq, text?_eq, find?_remove_self, found]
        simp [dead']
      · rw [text?_eq, text?_eq, find?_remove_of_ne s same]
  · rfl

theorem expiry_eq (s : MemoryStore) (time : Moment) (e : CacheEntry) :
    s.expiry time e = lifeEnd? s.defaultDuration time e := by
  unfold expiry lifeEnd?
  cases e.expiration with
  | some at_ => rfl
  | none =>
    rw [Option.none_or]
    cases e.duration.or s.defaultDuration with
    | none => rfl
    | some d => rw [Option.bind_some]

/-! ## Stores and histories -/

/-- The entries of a store say the same as a history, from its last call on. -/
structure Reflects (standard : Option Int) (past : List Timed) (s : MemoryStore) : Prop where
  standard_eq : s.defaultDuration = standard
  distinct : s.Distinct
  text_eq : ∀ now, (∀ c ∈ past, c.time.NotAfter now) → ∀ isGlobal key,
    s.text? now isGlobal key = held? standard past now isGlobal key

namespace Reflects

theorem empty : Reflects standard [] (empty standard) := ⟨rfl, List.nodup_nil, fun _ _ _ _ => rfl⟩

/-- A call keeps the entries in step with the history. -/
theorem perform (h : Reflects standard past s) (c : Timed) :
    Reflects standard (c :: past) (s.perform c).2 := by
  obtain ⟨time, call⟩ := c
  -- a call that leaves the history of all keys as it is
  have silent {s' : MemoryStore} (rest : s'.defaultDuration = standard) (distinct : s'.Distinct)
      (texts : ∀ now, time.NotAfter now → ∀ isGlobal key,
        s'.text? now isGlobal key = s.text? now isGlobal key)
      (quiet : ∀ isGlobal key,
        lastPut? isGlobal key (⟨time, call⟩ :: past) = lastPut? isGlobal key past) :
      Reflects standard (⟨time, call⟩ :: past) s' := by
    refine ⟨rest, distinct, fun now ordered isGlobal key => ?_⟩
    obtain ⟨le, others⟩ := List.forall_mem_cons.1 ordered
    rw [texts now le, h.text_eq now others, held?, held?, quiet]
  cases call with
  | put e =>
    refine ⟨h.standard_eq, distinct_put h.distinct time e, fun now ordered isGlobal key => ?_⟩
    show (s.put time e).text? now isGlobal key = _
    rw [text?_eq, find?_put, held?, lastPut?]
    by_cases own : e.isGlobal = isGlobal ∧ e.key = key
    · rw [if_pos own]
      simp only [own, and_self, if_true, Option.bind_some]
      rw [expiry_eq, h.standard_eq]
      simp only [StoredEntry.isLive, Option.all_eq_true, Option.mem_def]
    · obtain ⟨-, others⟩ := List.forall_mem_cons.1 ordered
      rw [if_neg own]
      simp only [own, if_false]
      rw [← text?_eq, h.text_eq now others, held?]
  | get key isGlobal =>
    refine silent ?_ (distinct_get h.distinct time key isGlobal)
      (fun now le isGlobal' key' => text?_get le key isGlobal isGlobal' key') fun _ _ => rfl
    show (s.get time key isGlobal).2.defaultDuration = standard
    rw [← h.standard_eq]
    unfold MemoryStore.get
    split
    · split <;> rfl
    · rfl
  | count => exact silent h.standard_eq h.distinct (fun _ _ _ _ => rfl) fun _ _ => rfl
  | isEmpty => exact silent h.standard_eq h.distinct (fun _ _ _ _ => rfl) fun _ _ => rfl
  | clear => exact ⟨h.standard_eq, List.nodup_nil, fun _ _ _ _ => rfl⟩

/-- The store behind some calls is in step with them. -/
theorem after (standard : Option Int) (past : List Timed) :
    Reflects standard past ((MemoryStore.empty standard).after past) := by
  induction past with
  | nil => exact empty
  | cons c past ih => exact ih.perform c

/-- A store that is in step with a history gives the answers that follow from it. -/
theorem expected (h : Reflects standard past s) (ordered : ∀ b ∈ past, b.time.NotAfter c.time) :
    Expected standard past c.time c.call (s.answer c) := by
  obtain ⟨time, call⟩ := c
  have texts := h.text_eq time ordered
  cases call with
  | put e => rfl
  | get key isGlobal => exact congrArg Answer.text (texts isGlobal key)
  | count =>
    obtain ⟨places, mem, card⟩ := exists_places h.distinct time
    refine ⟨places, fun p => ?_, congrArg Answer.number card⟩
    rw [mem, texts]
  | isEmpty =>
    obtain ⟨places, mem, card⟩ := exists_places h.distinct time
    refine ⟨s.isEmpty time, ?_, rfl⟩
    rw [MemoryStore.isEmpty, card, beq_iff_eq, Finset.card_eq_zero,
      Finset.eq_empty_iff_forall_notMem]
    constructor
    · intro none isGlobal key
      have missing := none (isGlobal, key)
      rw [mem, texts, Option.not_isSome_iff_eq_none] at missing
      exact missing
    · intro none p
      rw [mem, texts, none]
      exact nofun
  | clear => rfl

end Reflects

/-- Each answer of a store that was empty at first follows from the calls before it: a look-up finds
the text that was put last under the key, unless it has ended or the store was cleared, and what is
counted are the places at which one would be found. What was put into the other name space does not
matter for a look-up, and no earlier look-up matters for anything. -/
theorem answer_of_history (standard : Option Int) (past : List Timed) (c : Timed)
    (ordered : Ordered (c :: past)) :
    Expected standard past c.time c.call (((empty standard).after past).answer c) ∧
      (∀ key isGlobal, c.call = .get key isGlobal →
        ((empty standard).after past).answer c =
          ((empty standard).after (past.filter (·.call.concerns isGlobal))).answer c) ∧
      ((empty standard).after past).answer c =
        ((empty standard).after (past.filter (!·.call.isLookup))).answer c := by
  have before : ∀ b ∈ past, b.time.NotAfter c.time := (List.pairwise_cons.1 ordered).1
  have expected := (Reflects.after standard past).expected before
  have fewer (p : Timed → Bool) := (Reflects.after standard (past.filter p)).expected
    fun b mem => before b (List.mem_of_mem_filter mem)
  refine ⟨expected, fun key isGlobal lookup => ?_, ?_⟩
  · have first := expected
    have second := fewer (·.call.concerns isGlobal)
    rw [lookup] at first second
    rw [first, second, held?, held?, lastPut?_filter]
    · intro time e own
      exact beq_iff_eq.2 own
    · intro time
      rfl
  · refine expected.unique (fewer (!·.call.isLookup)) fun isGlobal key => ?_
    rw [held?, held?, lastPut?_filter]
    · intro time e own
      rfl
    · intro time
      rfl

/-- A text that has ended at its last nanosecond is not found, and not counted either, whether it
has been looked up or not; the text under the same key in the other name space stays. -/
theorem answer_of_history_lapsed :
    let mine : CacheEntry := ⟨"k", false, some 5, none, "mine"⟩
    let ours : CacheEntry := ⟨"k", true, none, none, "ours"⟩
    let past : List Timed :=
      [⟨⟨10, 5⟩, .get "k" false⟩, ⟨⟨10, 0⟩, .put ours⟩, ⟨⟨10, 0⟩, .put mine⟩]
    Ordered (⟨⟨10, 5⟩, .count⟩ :: past) ∧
      (∃ places : Finset (Bool × String),
        (∀ p, p ∈ places ↔ (held? none past ⟨10, 5⟩ p.1 p.2).isSome) ∧
          ((empty none).after past).answer ⟨⟨10, 5⟩, .count⟩ = .number places.card) ∧
      ((empty none).after past).answer ⟨⟨10, 5⟩, .count⟩ = .number 1 := by
  intro mine ours past
  have ordered : Ordered (⟨⟨10, 5⟩, .count⟩ :: past) := by decide
  exact ⟨ordered, (answer_of_history none past ⟨⟨10, 5⟩, .count⟩ ordered).1, by decide⟩

end MemoryStore

end Stencil
