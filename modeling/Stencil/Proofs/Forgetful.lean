import Stencil.Engine.Standard
import Stencil.Proofs.Computation

/-!
# Stores that keep nothing

A store that finds nothing, and does not fail, is as good as no store to a render in which no
directive makes calls by itself. The two renders go through the same states, but for the history and
for what is to be kept of the open blocks.

- `CacheStore.Forgetful`: a store finds nothing and does not fail.
- `RenderState.forget`: a state without what belongs to the store.
- `Lockstep`: two computations do the same to states that differ in what belongs to the store only.
- `Step.lockstep_cached`: cached blocks around bodies in lockstep are in lockstep.
- `Engine.render_forgetful`: the outcome is the same but for the calls.
-/

namespace Stencil

/-- A store finds nothing and does not fail. -/
structure CacheStore.Forgetful (store : CacheStore) : Prop where
  get : ∀ past key isGlobal, store.get past key isGlobal = .ok none
  start : ∀ past isGlobal, store.start past isGlobal = .ok ()
  put : ∀ past entry, store.put past entry = .ok ()

/-! ## States without a store -/

/-- A block that is rendered without the store. -/
def Block.forget (b : Block) : Block := ⟨b.id, none⟩

namespace RenderState

/-- The state without what belongs to the store: the history, and what is to be kept of blocks. -/
def forget (s : RenderState) : RenderState :=
  { s with history := [], blocks := s.blocks.map Block.forget }

/-- Directives see the identities of the open blocks, which belong to the render. -/
theorem view_forget (s : RenderState) (e : Engine) (origin : Origin) :
    s.forget.view e origin = s.view e origin := by
  -- forgetting keeps the identities, which is all that is seen of a block
  have ids : (s.forget.blocks.map Block.id) = s.blocks.map Block.id := by
    simp [forget, Block.forget]
  unfold view
  rw [ids]
  rfl

@[simp] theorem forget_captures (s : RenderState) : s.forget.captures = s.captures := rfl

@[simp] theorem forget_queries (s : RenderState) : s.forget.queries = s.queries := rfl

@[simp] theorem forget_after (s : RenderState) (w : List Event) :
    (s.after w).forget = s.forget := rfl

theorem forget_closed (s : RenderState) (bs : List Block) :
    (s.closed bs).forget = s.forget.closed (bs.map Block.forget) := rfl

@[simp] theorem forget_forget (s : RenderState) : s.forget.forget = s.forget := by
  simp [forget, Function.comp_def, Block.forget]

end RenderState

/-! ## Lockstep -/

variable {α β : Type}

/-- What computations come to from two states is the same, but for what belongs to the store. -/
structure Together (m n : Render α) (s₁ s₂ : RenderState) : Prop where
  result : (m.run s₁).1 = (n.run s₂).1
  state : (m.run s₁).2.forget = (n.run s₂).2.forget

/-- Two computations do the same to states that differ in what belongs to the store only. -/
def Lockstep (m n : Render α) : Prop := ∀ s₁ s₂, s₁.forget = s₂.forget → Together m n s₁ s₂

open Render

theorem Together.bind {m n : Render α} {k l : α → Render β} {s₁ s₂ : RenderState}
    (hm : Together m n s₁ s₂) (hk : ∀ a, Lockstep (k a) (l a)) :
    Together (m >>= k) (n >>= l) s₁ s₂ := by
  obtain ⟨hresult, hstate⟩ := hm
  -- results are the same, so both sides stop or both go on
  rcases h₁ : m.run s₁ with ⟨stop | a, t₁⟩
  · rcases h₂ : n.run s₂ with ⟨stop' | a', t₂⟩
    · rw [h₁, h₂] at hresult hstate
      cases hresult
      refine ⟨?_, ?_⟩
      · rw [run_bind_error h₁, run_bind_error h₂]
      · rw [run_bind_error h₁, run_bind_error h₂]
        exact hstate
    · rw [h₁, h₂] at hresult
      cases hresult
  · rcases h₂ : n.run s₂ with ⟨stop' | a', t₂⟩
    · rw [h₁, h₂] at hresult
      cases hresult
    · rw [h₁, h₂] at hresult hstate
      cases hresult
      obtain ⟨hresult', hstate'⟩ := hk a t₁ t₂ hstate
      refine ⟨?_, ?_⟩
      · rw [run_bind_ok h₁, run_bind_ok h₂]
        exact hresult'
      · rw [run_bind_ok h₁, run_bind_ok h₂]
        exact hstate'

theorem Lockstep.bind {m n : Render α} {k l : α → Render β} (hm : Lockstep m n)
    (hk : ∀ a, Lockstep (k a) (l a)) : Lockstep (m >>= k) (n >>= l) :=
  fun s₁ s₂ h => (hm s₁ s₂ h).bind hk

theorem lockstep_pure (a : α) : Lockstep (pure a : Render α) (pure a) :=
  fun _ _ h => ⟨rfl, h⟩

theorem lockstep_throw (stop : Stop) : Lockstep (throw stop : Render α) (throw stop) :=
  fun _ _ h => ⟨rfl, h⟩

/-- Reasons to stop may be changed on both sides. -/
theorem Lockstep.mapError {m n m' n' : Render α} {g : Stop → Stop} (h : Lockstep m n)
    (hm : ∀ s, m'.run s = ((m.run s).1.mapError g, (m.run s).2))
    (hn : ∀ s, n'.run s = ((n.run s).1.mapError g, (n.run s).2)) : Lockstep m' n' := by
  intro s₁ s₂ hs
  obtain ⟨hresult, hstate⟩ := h s₁ s₂ hs
  refine ⟨?_, ?_⟩
  · rw [hm, hn, hresult]
  · rw [hm, hn]
    exact hstate

/-- A computation that does the same without what belongs to the store. -/
theorem lockstep_of_forget {m : Render α} (h : ∀ s, Together m m s s.forget) : Lockstep m m := by
  intro s₁ s₂ hs
  obtain ⟨r₁, t₁⟩ := h s₁
  obtain ⟨r₂, t₂⟩ := h s₂
  rw [hs] at r₁ t₁
  exact ⟨r₁.trans r₂.symm, t₁.trans t₂.symm⟩

/-- What is read of the state does not depend on what belongs to the store. -/
theorem lockstep_read {f : RenderState → α} (h : ∀ s, f s.forget = f s) :
    Lockstep (get >>= fun s => pure (f s) : Render α) (get >>= fun s => pure (f s)) :=
  lockstep_of_forget fun s => ⟨congrArg Except.ok (h s).symm, s.forget_forget.symm⟩

theorem lockstep_modify {f : RenderState → RenderState}
    (h : ∀ s, (f s).forget = f s.forget) : Lockstep (modify f : Render PUnit) (modify f) := by
  refine lockstep_of_forget fun s => ⟨rfl, ?_⟩
  show (f s).forget = (f s.forget).forget
  rw [h, h, s.forget_forget]

/-- Events are of no account. -/
theorem lockstep_record (v w : Event) : Lockstep (record v) (record w) :=
  fun _ _ h => ⟨rfl, h⟩

theorem lockstep_offer (text : String) : Lockstep (offer text) (offer text) := by
  refine lockstep_of_forget fun s => ⟨?_, ?_⟩
  · rw [run_offer, run_offer, RenderState.forget_captures]
    split
    · rfl
    · rfl
  · rw [run_offer, run_offer, RenderState.forget_captures]
    split
    · exact (RenderState.forget_forget _).symm
    · exact (RenderState.forget_forget _).symm

theorem lockstep_results : ResultCongruence fun m n => Lockstep m n where
  pure := lockstep_pure
  throw _ := lockstep_throw _
  bind := Lockstep.bind

/-- The operations of a render are in lockstep with themselves. -/
theorem lockstep_steps : StepCongruence fun m n => Lockstep m n where
  toResultCongruence := lockstep_results
  named name hm := hm.mapError (run_named name _) (run_named name _)
  locatedAt source span hm :=
    hm.mapError (Step.run_locatedAt source span _) (Step.run_locatedAt source span _)
  evaluate e _ _ := lockstep_results.reading e (lockstep_read fun _ => rfl) _
  arguments e _ _ := lockstep_results.reading e (lockstep_read fun _ => rfl) _
  view e origin := lockstep_read fun s => s.view_forget e origin
  write text := lockstep_results.write_of_offer (lockstep_offer text)
  offer := lockstep_offer
  bindVariable _ _ := lockstep_modify fun _ => rfl
  respond _ := lockstep_modify fun _ => rfl
  setLimit query _ := lockstep_modify fun s => by
    simp only [RenderState.forget_queries]
    split
    · rfl
    · rfl

/-! ## Cached blocks -/

theorem lockstep_openBlock (p q : Option Pending) : Lockstep (openBlock p) (openBlock q) := by
  intro s₁ s₂ hs
  refine ⟨rfl, ?_⟩
  show ((openBlock none).run s₁.forget).2 = ((openBlock none).run s₂.forget).2
  rw [hs]

namespace Step

variable {st : CacheStore} (hst : st.Forgetful)

theorem lockstep_bypass : Lockstep bypass bypass :=
  (lockstep_openBlock none none).bind fun _ => lockstep_pure true

include hst

/-- Nothing is found, so that the block begins. -/
theorem run_consult (p : Pending) (s : RenderState) :
    (consult st p).run s =
      (openBlock (some p) >>= fun _ => pure true).run
        (s.after [.called (.get p.key p.isGlobal), .called (.start p.isGlobal)]) := by
  -- the two calls are answered, and leave nothing but their traces in the history
  have got : (lookUp st p.key p.isGlobal).run s =
      (.ok none, s.after [.called (.get p.key p.isGlobal)]) := run_call_ok (hst.get ..)
  have started : (begin st p.isGlobal).run (s.after [.called (.get p.key p.isGlobal)]) =
      (.ok (), (s.after [.called (.get p.key p.isGlobal)]).after [.called (.start p.isGlobal)]) :=
    run_call_ok (hst.start ..)
  rw [consult, run_bind_ok got]
  dsimp only
  rw [run_bind_ok started, RenderState.after_after]
  rfl

theorem lockstep_consult (p : Pending) : Lockstep (consult st p) bypass := by
  intro s₁ s₂ hs
  obtain ⟨hresult, hstate⟩ := (lockstep_openBlock (some p) none).bind
    (fun _ => lockstep_pure true)
    (s₁.after [.called (.get p.key p.isGlobal), .called (.start p.isGlobal)]) s₂ hs
  rw [← run_consult hst] at hresult hstate
  exact ⟨hresult, hstate⟩

theorem lockstep_beginBlock (e : Engine) (origin : Origin) (args : Args) :
    Lockstep (beginBlock (e.withStore (some st)) origin args)
      (beginBlock (e.withStore none) origin args) := by
  refine (lockstep_steps.lift _).bind fun o => (lockstep_record _ _).bind fun _ => ?_
  intro s₁ s₂ hs
  obtain ⟨hresult, hstate⟩ : Together
      (if o.bypasses s₁.request then bypass else consult st (.ofOptions origin o)) bypass
      s₁ s₂ := by
    split
    · exact lockstep_bypass s₁ s₂ hs
    · exact lockstep_consult hst _ s₁ s₂ hs
  exact ⟨hresult, hstate⟩

/-- What is kept of a block makes no difference. -/
theorem exists_run_endBlock (e : Engine) {b : Block} {bs : List Block} {s : RenderState}
    (hb : s.blocks = b :: bs) :
    ∃ w, (endBlock (e.withStore (some st))).run s =
      (write (s.captures.head?.getD "")).run ((s.closed bs).after w) := by
  have closed := run_closeBlock s
  rw [hb] at closed
  rw [endBlock, run_bind_ok closed]
  cases b.pending with
  | none => exact ⟨_, rfl⟩
  | some p =>
    have kept : ∀ s', (keep st (p.entry (s.captures.head?.getD ""))).run s' =
        (.ok (), s'.after [.called (.put (p.entry (s.captures.head?.getD "")))]) :=
      fun _ => run_call_ok (hst.put ..)
    refine ⟨[.stopped] ++ [.called (.put (p.entry (s.captures.head?.getD "")))], ?_⟩
    rw [← RenderState.after_after]
    exact run_bind_ok (kept _)

theorem lockstep_endBlock (e : Engine) :
    Lockstep (endBlock (e.withStore (some st))) (endBlock (e.withStore none)) := by
  intro s₁ s₂ hs
  have blocks : s₁.forget.blocks = s₂.forget.blocks := by rw [hs]
  have captures : s₁.forget.captures = s₂.forget.captures := by rw [hs]
  rw [RenderState.forget_captures, RenderState.forget_captures] at captures
  change s₁.blocks.map Block.forget = s₂.blocks.map Block.forget at blocks
  -- as many blocks are open on both sides
  cases hb₁ : s₁.blocks with
  | nil =>
    rw [hb₁] at blocks
    have closed₁ := run_closeBlock s₁
    have closed₂ := run_closeBlock s₂
    rw [hb₁] at closed₁
    rw [List.map_eq_nil_iff.1 blocks.symm] at closed₂
    refine ⟨?_, ?_⟩
    · rw [endBlock, endBlock, run_bind_error closed₁, run_bind_error closed₂]
    · rw [endBlock, endBlock, run_bind_error closed₁, run_bind_error closed₂]
      exact hs
  | cons b₁ bs₁ =>
    rw [hb₁] at blocks
    obtain ⟨b₂, bs₂, hb₂, -, hbs⟩ := List.map_eq_cons_iff.1 blocks.symm
    obtain ⟨w, hw⟩ := exists_run_endBlock hst e hb₁
    rw [captures] at hw
    have closed₂ := run_closeBlock s₂
    rw [hb₂] at closed₂
    have ended : (endBlock (e.withStore none)).run s₂ =
        (write (s₂.captures.head?.getD "")).run ((s₂.closed bs₂).after [.stopped]) := by
      rw [endBlock, run_bind_ok closed₂]
      cases b₂.pending with
      | none => rfl
      | some p => rfl
    have behind : ((s₁.closed bs₁).after w).forget = ((s₂.closed bs₂).after [.stopped]).forget := by
      rw [RenderState.forget_after, RenderState.forget_after, RenderState.forget_closed,
        RenderState.forget_closed, hs, hbs]
    obtain ⟨hresult, hstate⟩ := lockstep_steps.write (s₂.captures.head?.getD "") _ _ behind
    refine ⟨?_, ?_⟩
    · rw [hw, ended]
      exact hresult
    · rw [hw, ended]
      exact hstate

theorem lockstep_startCached (e : Engine) (t : Template) (i : Invocation) :
    Lockstep (startCached (e.withStore (some st)) t i) (startCached (e.withStore none) t i) :=
  lockstep_steps.named t.name ((lockstep_steps.arguments e t i.args).bind fun args =>
    lockstep_steps.locatedAt t.source i.span (lockstep_beginBlock hst e i.origin args))

theorem lockstep_stopCached (e : Engine) (t : Template) (i : Invocation) :
    Lockstep (stopCached (e.withStore (some st)) t i) (stopCached (e.withStore none) t i) :=
  lockstep_steps.named t.name ((lockstep_steps.arguments e t i.args).bind fun _ =>
    lockstep_steps.locatedAt t.source i.span (lockstep_endBlock hst e))

/-- Cached blocks around bodies in lockstep are in lockstep. -/
theorem lockstep_cached (e : Engine) (t : Template) (start stop : Invocation) {m n : Render Unit}
    (hm : Lockstep m n) :
    Lockstep (cached (e.withStore (some st)) t start stop m)
      (cached (e.withStore none) t start stop n) := by
  refine (lockstep_startCached hst e t start).bind fun opened => ?_
  -- both sides have opened the block or neither has
  cases opened with
  | false => exact lockstep_pure ()
  | true => exact hm.bind fun _ => lockstep_stopCached hst e t stop

end Step

/-! ## Renders -/

/-- The renders with a store that keeps nothing and without a store are in lockstep. -/
theorem lockstep_renders {st : CacheStore} (hst : st.Forgetful) (e : Engine) :
    RenderCongruence e (some st) none fun m n => Lockstep m n where
  toStepCongruence := lockstep_steps
  halt := lockstep_throw _
  enterLoop _ := lockstep_modify fun _ => rfl
  enterRound _ _ := lockstep_modify fun _ => rfl
  leaveLoop := lockstep_modify fun _ => rfl
  enter _ := lockstep_modify fun _ => rfl
  leave := lockstep_modify fun _ => rfl
  cached t start stop _ _ hm := Step.lockstep_cached hst e t start stop hm

theorem Engine.together_run {st : CacheStore} (hst : st.Forgetful) {e : Engine} {t : Template}
    (he : e.Quiet) (ht : t.Quiet) (job : Job) :
    ((e.withStore (some st)).run t job).1 = ((e.withStore none).run t job).1 ∧
      ((e.withStore (some st)).run t job).2.forget = ((e.withStore none).run t job).2.forget := by
  unfold Engine.run
  cases job.data with
  | error f => exact ⟨rfl, rfl⟩
  | ok data =>
    obtain ⟨hresult, hstate⟩ := (lockstep_renders hst e).renderAt he (e.depthLimit job)
      (e.depthLimit job - 1 + 1) ht (job.initial data) (job.initial data) rfl
    exact ⟨hresult, hstate⟩

/-- A store that finds nothing and does not fail is as good as no store, if no directive makes calls
by itself: the render ends in the same way, in a state that differs in what belongs to the store
only, with the same response or error and the same output. -/
theorem Engine.render_forgetful {st : CacheStore} (hst : st.Forgetful) {e : Engine} {t : Template}
    (he : e.Quiet) (ht : t.Quiet) (job : Job) :
    ((e.withStore (some st)).run t job).1 = ((e.withStore none).run t job).1 ∧
      ((e.withStore (some st)).run t job).2.forget = ((e.withStore none).run t job).2.forget ∧
      ((e.withStore (some st)).render t job).result = ((e.withStore none).render t job).result ∧
      ((e.withStore (some st)).render t job).output = ((e.withStore none).render t job).output := by
  obtain ⟨hresult, hstate⟩ := together_run hst he ht job
  have response := congrArg RenderState.response hstate
  have output := congrArg RenderState.output hstate
  refine ⟨hresult, hstate, ?_⟩
  unfold render
  revert hresult response output
  rcases (e.withStore (some st)).run t job with ⟨ending, s₁⟩
  rcases (e.withStore none).run t job with ⟨ending', s₂⟩
  rintro (rfl : ending = ending') (response : s₁.response = s₂.response)
    (output : s₁.output = s₂.output)
  rcases ending with (_ | _ | _ | _) | ⟨⟩
  all_goals simp [Outcome.ofRun, response, output]

/-- A store that keeps nothing. -/
def CacheStore.void : CacheStore where
  get _ _ _ := .ok none
  start _ _ := .ok ()
  put _ _ := .ok ()

theorem CacheStore.forgetful_void : void.Forgetful :=
  ⟨fun _ _ _ => rfl, fun _ _ => rfl, fun _ _ => rfl⟩

/-- A block, and another one that is open when the render is halted. -/
def Template.halting : Template where
  name := none
  source := "ab"
  body :=
    [.cachedAs "first" [.raw ⟨0, 1⟩],
      .cachedAs "second"
        [.raw ⟨1, 2⟩,
          .directive ⟨⟨⟨"halt", ⟨0, 0⟩⟩, .none, ⟨"", 1, 1⟩, ⟨0, 0⟩⟩, fun _ => .done .halt⟩]]

/-- The text of the open block is lost with the store as it is without. -/
theorem Engine.render_forgetful_halting :
    CacheStore.void.Forgetful ∧ (Engine.new .standard).Quiet ∧ Template.halting.Quiet ∧
      (((Engine.new .standard).withStore (some .void)).render .halting (.ofData .none)).calls =
        [.get "first" false, .start false, .put ⟨"first", false, none, none, "a"⟩,
          .get "second" false, .start false] ∧
      (((Engine.new .standard).withStore (some .void)).render .halting (.ofData .none)).body = "a" ∧
      (((Engine.new .standard).withStore none).render .halting (.ofData .none)).body = "a" := by
  have quiet : Template.halting.Quiet :=
    ⟨⟨trivial, trivial⟩, ⟨trivial, fun _ => trivial, trivial⟩, trivial⟩
  have same := Engine.render_forgetful CacheStore.forgetful_void (quiet_new .standard) quiet
    (.ofData .none)
  refine ⟨CacheStore.forgetful_void, quiet_new .standard, quiet, rfl, rfl, ?_⟩
  rw [Outcome.body, ← same.2.2.2]
  rfl

end Stencil
