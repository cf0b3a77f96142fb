import Stencil.Cache.Lifetime
import Stencil.Proofs.StoreHistory

/-!
# How long a store in memory keeps an entry

An entry that is put with a duration ends at the moment so much later, and never if that moment is
not within the years that have dates. Behind the last year this is what it has to be: the longer the
duration is, the longer the entry lives. Before the first year it is the other way round: the moment
has passed long since, and still the entry is kept for good.

- `Moment.shift_notAfter`: later moments stay later when durations grow.
- `Moment.IsTime`: the moments that there are; `Moment.Underruns`: a duration leads back before all
  of them.
- `StoredEntry.Outlives`: an entry lives whenever another one does.
- `MemoryStore.find?_after`: what is left of an entry after some calls.
- `MemoryStore.lifetime_law`: durations that are not longer than zero, and durations that grow.
- `MemoryStore.lapsed_found`: an entry that ended before the first year is found.
-/

namespace Stencil

/-! ## Moments -/

namespace Moment

/-- The moment is one of the years that have dates, and lies in its second or the leap second
behind it. -/
structure IsTime (m : Moment) : Prop where
  inRange : inRange m.seconds = true
  nanos_lt : (m.nanos : Int) < 2 * perSecond

/-- A duration in nanoseconds leads back before the first year. -/
def Underruns (m : Moment) (nanos : Int) : Prop :=
  m.seconds * perSecond + m.nanos + nanos < first * perSecond

instance (m : Moment) (nanos : Int) : Decidable (m.Underruns nanos) :=
  inferInstanceAs (Decidable (_ < _))

variable {m n : Moment} {d d' : Int}

theorem inRange_iff {seconds : Int} :
    Moment.inRange seconds = true ↔ first ≤ seconds ∧ seconds ≤ last := by
  simp [Moment.inRange]

theorem notAfter_iff : m.NotAfter n ↔
    m.seconds < n.seconds ∨ m.seconds = n.seconds ∧ m.nanos ≤ n.nanos := by
  rw [NotAfter, ← Bool.not_eq_true, before_iff]
  omega

theorem NotAfter.seconds_le (h : m.NotAfter n) : m.seconds ≤ n.seconds := by
  rw [notAfter_iff] at h
  omega

/-- Where a duration leads: from a moment that is not in a leap second, from one that is to before
it, within it, or to behind it. -/
theorem shift_cases (m : Moment) (d : Int) :
    (m.nanos < perSecond ∨ m.nanos + d < perSecond) ∧
        m.shift d = ofNanos (m.seconds * perSecond + (m.nanos + d)) ∨
      perSecond ≤ m.nanos ∧ perSecond ≤ m.nanos + d ∧ m.nanos + d < 2 * perSecond ∧
        m.shift d = ⟨m.seconds, (m.nanos + d).toNat⟩ ∨
      perSecond ≤ m.nanos ∧ 2 * perSecond ≤ m.nanos + d ∧
        m.shift d = ofNanos (m.seconds * perSecond + (m.nanos + d - perSecond)) := by
  unfold shift
  by_cases plain : m.nanos < perSecond ∨ m.nanos + d < perSecond
  · exact .inl ⟨plain, if_pos plain⟩
  · rw [if_neg plain]
    by_cases within : m.nanos + d < 2 * perSecond
    · refine .inr (.inl ⟨?_, ?_, within, if_pos within⟩) <;> omega
    · refine .inr (.inr ⟨?_, ?_, if_neg within⟩) <;> omega

/-- What lies behind a moment by less does not lie behind what lies behind it by more. -/
theorem shift_notAfter (m : Moment) (h : d ≤ d') : (m.shift d).NotAfter (m.shift d') := by
  rw [notAfter_iff]
  rcases m.shift_cases d with ⟨plain, eq⟩ | ⟨leap, low, high, eq⟩ | ⟨leap, low, eq⟩ <;>
  rcases m.shift_cases d' with ⟨plain', eq'⟩ | ⟨leap', low', high', eq'⟩ | ⟨leap', low', eq'⟩ <;>
    rw [eq, eq'] <;> dsimp only [ofNanos, perSecond] at * <;> omega

theorem shift_zero (h : m.IsTime) : m.shift 0 = m := by
  have bounded := h.nanos_lt
  rcases m.shift_cases 0 with ⟨plain, eq⟩ | ⟨leap, low, high, eq⟩ | ⟨leap, low, eq⟩
  · have seconds : (m.seconds * perSecond + (m.nanos + 0)) / perSecond = m.seconds := by
      simp only [perSecond] at *
      omega
    have nanos : ((m.seconds * perSecond + (m.nanos + 0)) % perSecond).toNat = m.nanos := by
      simp only [perSecond] at *
      omega
    rw [eq, ofNanos, seconds, nanos]
  · rw [eq, Int.add_zero, Int.toNat_natCast]
  · omega

/-- A duration leads back before the first year exactly if it leads to a moment there. -/
theorem underruns_iff (h : m.IsTime) : m.Underruns d ↔ (m.shift d).seconds < first := by
  have early := (inRange_iff.1 h.inRange).1
  rw [Underruns]
  -- only the order of the years matters
  generalize first = year at *
  rcases m.shift_cases d with ⟨plain, eq⟩ | ⟨leap, low, high, eq⟩ | ⟨leap, low, eq⟩ <;>
    simp only [eq, ofNanos, perSecond] at * <;> omega

end Moment

/-! ## Entries -/

/-- An entry lives at all times at which another one does. -/
def StoredEntry.Outlives (x y : StoredEntry) : Prop :=
  ∀ now, y.isLive now = true → x.isLive now = true

namespace MemoryStore

open Moment

variable {s s' : MemoryStore} {t now : Moment} {e e' : CacheEntry} {d d' : Int} {c : Timed}
  {later : List Timed} {isGlobal : Bool} {key : String}

/-- What a text becomes that is put at a time. -/
def stored (s : MemoryStore) (t : Moment) (e : CacheEntry) : StoredEntry :=
  ⟨e.isGlobal, e.key, e.body, s.expiry t e⟩

/-- A text is put with this duration, its own or the one of the store, and no expiration. -/
structure LastsFor (s : MemoryStore) (e : CacheEntry) (d : Int) : Prop where
  expiration : e.expiration = none
  duration : e.duration.or s.defaultDuration = some d

theorem LastsFor.expiry (h : s.LastsFor e d) : s.expiry t e = t.add d := by
  rw [MemoryStore.expiry, h.expiration, h.duration]

/-- When an entry lives: before the moment to which its duration leads, and always if this is not
within the years that have dates. -/
theorem isLive_stored (h : s.LastsFor e d) : (s.stored t e).isLive now = true ↔
    (Moment.inRange (t.shift d).seconds = true → now.before (t.shift d) = true) := by
  rw [StoredEntry.isLive, stored, h.expiry, add]
  split
  · next fits =>
    rw [Option.all_some]
    exact ⟨fun lives _ => lives, fun lives => lives fits⟩
  · next beyond =>
    rw [Option.all_none]
    exact ⟨fun _ fits => absurd fits beyond, fun _ => rfl⟩

/-- An entry that began before the first year lives at all times. -/
theorem isLive_of_underruns (ht : t.IsTime) (h : s.LastsFor e d) (under : t.Underruns d)
    (now : Moment) : (s.stored t e).isLive now = true := by
  rw [isLive_stored h, inRange_iff]
  rw [underruns_iff ht] at under
  omega

/-- An entry that does not last longer than zero has ended when it begins. -/
theorem not_isLive_of_nonpos (ht : t.IsTime) (h : s.LastsFor e d) (nonpos : d ≤ 0)
    (within : ¬ t.Underruns d) (later : t.NotAfter now) : (s.stored t e).isLive now = false := by
  have back := shift_notAfter t nonpos
  rw [shift_zero ht] at back
  have fits : Moment.inRange (t.shift d).seconds = true := by
    have late := (inRange_iff.1 ht.inRange).2
    have bound := back.seconds_le
    rw [underruns_iff ht] at within
    rw [inRange_iff]
    omega
  rw [← Bool.not_eq_true, isLive_stored h]
  intro lives
  have forward := later.before (lives fits)
  rw [back] at forward
  cases forward

/-- An entry lives longer with a longer duration. -/
theorem outlives_of_le (ht : t.IsTime) (h : s.LastsFor e d) (h' : s'.LastsFor e' d')
    (le : d ≤ d') (within : ¬ t.Underruns d) : (s'.stored t e').Outlives (s.stored t e) := by
  intro now lives
  have order := shift_notAfter t le
  rw [isLive_stored h] at lives
  rw [isLive_stored h']
  intro fits'
  have fits : Moment.inRange (t.shift d).seconds = true := by
    have late := (inRange_iff.1 fits').2
    have bound := order.seconds_le
    rw [underruns_iff ht] at within
    rw [inRange_iff]
    omega
  have ends := lives fits
  rw [before_iff] at ends ⊢
  rw [notAfter_iff] at order
  omega

/-! ## Entries and calls -/

/-- The call puts a text under a key. -/
def Call.putsAt (isGlobal : Bool) (key : String) : Call → Bool
  | .put e => e.isGlobal == isGlobal && e.key == key
  | _ => false

/-- The call leaves an entry where it is: the store is not cleared, and the entry is not looked up
after its end. -/
def Timed.spares (c : Timed) (x : StoredEntry) : Bool :=
  match c.call with
  | .clear => false
  | .get key isGlobal => !isAt isGlobal key x || x.isLive c.time
  | _ => true

/-- Where there is no entry, none is left when another one is removed. -/
theorem find?_remove_of_none (s : MemoryStore) {isGlobal' : Bool} {key' : String}
    (h : s.find? isGlobal key = none) : (s.remove isGlobal' key').find? isGlobal key = none := by
  by_cases same : (isGlobal, key) = (isGlobal', key')
  · cases same
    exact find?_remove_self s isGlobal key
  · rw [find?_remove_of_ne s same, h]

theorem find?_perform (silent : c.call.putsAt isGlobal key = false) :
    (s.perform c).2.find? isGlobal key = (s.find? isGlobal key).filter c.spares := by
  obtain ⟨time, call⟩ := c
  have spared (quiet : ∀ x, Timed.spares ⟨time, call⟩ x = true) :
      (s.find? isGlobal key).filter (Timed.spares ⟨time, call⟩) = s.find? isGlobal key := by
    cases s.find? isGlobal key with
    | none => rfl
    | some x => rw [Option.filter_some, if_pos (quiet x)]
  cases call with
  | put e =>
    have other : ¬ (e.isGlobal = isGlobal ∧ e.key = key) := by
      simpa [Call.putsAt] using silent
    rw [spared fun _ => rfl]
    exact (find?_put s time e isGlobal key).trans (if_neg other)
  | get key' isGlobal' =>
    show (s.get time key' isGlobal').2.find? isGlobal key = _
    cases found : s.find? isGlobal key with
    | none =>
      rw [Option.filter_none]
      unfold get
      split
      · split
        · exact found
        · exact find?_remove_of_none s found
      · exact found
    | some x =>
      have place := isAt_iff.1 (List.find?_some found)
      rw [Option.filter_some, Timed.spares]
      by_cases own : (isGlobal', key') = (isGlobal, key)
      · cases own
        have here : isAt isGlobal key x = true := isAt_iff.2 place
        cases live : x.isLive time with
        | true => simp [get, found, live]
        | false => simp [get, found, live, here]
      · have apart : isAt isGlobal' key' x = false := by
          rw [← Bool.not_eq_true, isAt_iff, place]
          exact Ne.symm own
        simp only [apart, Bool.not_false, Bool.true_or, if_true]
        unfold get
        split
        · split
          · exact found
          · exact (find?_remove_of_ne s (Ne.symm own)).trans found
        · exact found
  | count => exact (spared fun _ => rfl).symm
  | isEmpty => exact (spared fun _ => rfl).symm
  | clear =>
    show none = _
    cases s.find? isGlobal key <;> rfl

/-- What is left of an entry after some calls, of which none puts a text in its place. -/
theorem find?_after (silent : ∀ c ∈ later, c.call.putsAt isGlobal key = false) :
    (s.after later).find? isGlobal key =
      (s.find? isGlobal key).filter fun x => later.all (·.spares x) := by
  induction later with
  | nil =>
    show s.find? isGlobal key = _
    cases s.find? isGlobal key <;> rfl
  | cons c later ih =>
    obtain ⟨first, others⟩ := List.forall_mem_cons.1 silent
    show ((s.after later).perform c).2.find? isGlobal key = _
    rw [find?_perform first, ih others, Option.filter_filter]
    simp only [List.all_cons, Bool.and_comm]

/-- The text that is found under a key after a text was put there, unless another one was. -/
theorem text?_after (silent : ∀ c ∈ later, c.call.putsAt e.isGlobal e.key = false) :
    ((s.put t e).after later).text? now e.isGlobal e.key =
      if later.all (·.spares (s.stored t e)) && (s.stored t e).isLive now then some e.body
      else none := by
  have put : (s.put t e).find? e.isGlobal e.key = some (s.stored t e) := by
    rw [find?_put, if_pos ⟨rfl, rfl⟩]
    rfl
  rw [text?_eq, find?_after silent, put, Option.filter_some]
  cases later.all (·.spares (s.stored t e)) with
  | true => rfl
  | false => rfl

theorem text?_after_eq_some (silent : ∀ c ∈ later, c.call.putsAt e.isGlobal e.key = false) :
    ((s.put t e).after later).text? now e.isGlobal e.key = some e.body ↔
      (∀ c ∈ later, c.spares (s.stored t e) = true) ∧ (s.stored t e).isLive now = true := by
  rw [text?_after silent]
  simp

/-- What leaves an entry where it is leaves one there that outlives it. -/
theorem spares_of_outlives {x y : StoredEntry} (h : x.Outlives y) (same : placeOf x = placeOf y)
    (spared : c.spares y = true) : c.spares x = true := by
  obtain ⟨time, call⟩ := c
  cases call with
  | get key isGlobal =>
    have place : isAt isGlobal key x = isAt isGlobal key y := by
      rw [Bool.eq_iff_iff, isAt_iff, isAt_iff, same]
    simp only [Timed.spares, place, Bool.or_eq_true] at spared ⊢
    exact spared.imp id (h time)
  | clear => cases spared
  | _ => rfl

/-! ## Durations -/

/-- What becomes of a text that is put at some time with a duration, its own or the one of the
store, whatever is done with the store later on, as long as no other text is put under its key.

- If the duration does not lead back before the first year: with a duration that is zero or negative
  the text is never found from this time on, and whenever the text is found, it would also be found
  with any longer duration.
- If it does, then the text is found at all times, unless the store is cleared. -/
theorem lifetime_law (later : List Timed) (ht : t.IsTime) (h : s.LastsFor e d)
    (silent : ∀ c ∈ later, c.call.putsAt e.isGlobal e.key = false) :
    (¬ t.Underruns d →
      (d ≤ 0 → ∀ now, t.NotAfter now →
        ((s.put t e).after later).text? now e.isGlobal e.key = none) ∧
      ∀ (s' : MemoryStore) (e' : CacheEntry) (d' : Int), s'.LastsFor e' d' → d ≤ d' →
        e'.isGlobal = e.isGlobal → e'.key = e.key → ∀ now,
        ((s.put t e).after later).text? now e.isGlobal e.key = some e.body →
          ((s'.put t e').after later).text? now e.isGlobal e.key = some e'.body) ∧
    (t.Underruns d → (∀ c ∈ later, c.call ≠ .clear) → ∀ now,
      ((s.put t e).after later).text? now e.isGlobal e.key = some e.body) := by
  refine ⟨fun within => ⟨fun nonpos now order => ?_, ?_⟩, fun under uncleared now => ?_⟩
  · rw [text?_after silent, not_isLive_of_nonpos ht h nonpos within order, Bool.and_false]
    rfl
  · intro s' e' d' h' le sameSpace sameKey now found
    rw [text?_after_eq_some silent] at found
    rw [← sameSpace, ← sameKey] at silent ⊢
    have outlives := outlives_of_le ht h h' le within
    have place : placeOf (s'.stored t e') = placeOf (s.stored t e) :=
      congrArg₂ Prod.mk sameSpace sameKey
    rw [text?_after_eq_some silent]
    exact ⟨fun c hc => spares_of_outlives outlives place (found.1 c hc), outlives now found.2⟩
  · have lives := isLive_of_underruns ht h under
    rw [text?_after_eq_some silent]
    refine ⟨fun c hc => ?_, lives now⟩
    obtain ⟨time, call⟩ := c
    cases call with
    | get key isGlobal => simp [Timed.spares, lives]
    | clear => exact absurd rfl (uncleared _ hc)
    | _ => rfl

/-- A text that is put for no time at all is gone at once. One that is put for an hour is found
within the first second, as one that is put for that second is, and one whose duration leads back
before the first year is found. -/
theorem lifetime_law_second :
    let now : Moment := ⟨1767225600, 0⟩
    let text (duration : Int) : CacheEntry := ⟨"k", false, some duration, none, "text"⟩
    ¬ now.Underruns 0 ∧ now.Underruns (-9460800000000 * perSecond) ∧
      ((empty none).put now (text 0)).text? now false "k" = none ∧
      ((empty none).put now (text (3600 * perSecond))).text? ⟨1767225600, 999999999⟩ false "k" =
        some "text" ∧
      ((empty none).put now (text (-9460800000000 * perSecond))).text? now false "k" =
        some "text" := by
  intro now text
  have time : now.IsTime := ⟨by decide, by decide⟩
  have zero : ¬ now.Underruns 0 := by decide
  have second : ¬ now.Underruns perSecond := by decide
  have back : now.Underruns (-9460800000000 * perSecond) := by decide
  have lasts (d : Int) : (empty none).LastsFor (text d) d := ⟨rfl, rfl⟩
  have law (d : Int) := lifetime_law [] time (lasts d) nofun
  refine ⟨zero, back, ?_, ?_, ?_⟩
  · exact ((law 0).1 zero).1 (le_refl 0) now (by decide)
  · exact ((law perSecond).1 second).2 (empty none) (text (3600 * perSecond)) _ (lasts _)
      (by decide) rfl rfl _ (by decide)
  · exact (law (-9460800000000 * perSecond)).2 back nofun now

/-- A duration of minus 300000 years may be written. A text that is put with it is found, though one
that is put with a duration of minus one second is not. -/
theorem lapsed_found :
    let now : Moment := ⟨1767225600, 0⟩
    let text (duration : Int) : CacheEntry := ⟨"k", false, some duration, none, "text"⟩
    Lifetime.duration (.text "-300000 years") = .ok (some (-9460800000000)) ∧
      ((empty none).put now (text (-9460800000000 * perSecond))).text? now false "k" =
        some "text" ∧
      ((empty none).put now (text (-1 * perSecond))).text? now false "k" = none :=
  ⟨rfl, by decide, by decide⟩

end MemoryStore

end Stencil
