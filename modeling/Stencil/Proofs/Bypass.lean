import Stencil.Engine.Standard
import Stencil.Proofs.CachedBlocks

/-!
# Blocks without the store

A preview is rendered without the store, and so is a block whose conditions say so. What is decided
at the start of a block holds at its end, whatever blocks are open around it or in it.

- `CacheOptions.Declines`: the conditions among the options say to leave the store alone.
- `RenderState.Shielded`: a preview in which the store has not been asked.
- `Unasked`: two computations do the same to such a state, and leave such a state.
- `Step.unasked_cached`: cached blocks around such bodies are such computations, whatever is asked.
- `Step.Shuns`, `Step.Consults`: what the markers of a block have to do with the store.
- `Engine.bypass_precedes`: previews and conditions take precedence over the store.
-/

namespace Stencil

/-! ## Conditions -/

namespace CacheOptions

/-- The conditions among some options say to leave the store alone. -/
def Declines (entries : Dict Value) : Prop :=
  (∃ v, Dict.get? "if" entries = some v ∧ v.isTruthy = false) ∨
    ∃ v, Dict.get? "unless" entries = some v ∧ v.isTruthy = true

theorem flag_of_get? {entries : Dict Value} {name : String} {standard : Bool} {v : Value}
    (h : Dict.get? name entries = some v) : flag entries name standard = v.isTruthy := by
  rw [flag, h]

/-- What is read as conditions does not depend on the other options. -/
theorem conditions_of_read {entries : Dict Value} {o : CacheOptions}
    (h : read (some (.map entries)) = .ok o) :
    o.condition = flag entries "if" true ∧ o.exception = flag entries "unless" false := by
  obtain ⟨entries', hentries, h⟩ := Parse.bind_eq_ok h
  cases hentries
  obtain ⟨key, -, h⟩ := Parse.bind_eq_ok h
  obtain ⟨duration, -, h⟩ := Parse.bind_eq_ok h
  obtain ⟨expiration, -, h⟩ := Parse.bind_eq_ok h
  cases h
  exact ⟨rfl, rfl⟩

/-- Where the conditions say so, no request makes the store be asked. -/
theorem Declines.bypasses {entries : Dict Value} (h : Declines entries) {o : CacheOptions}
    (hread : read (some (.map entries)) = .ok o) (r : Request) : o.bypasses r = true := by
  obtain ⟨condition, exception⟩ := conditions_of_read hread
  rw [CacheOptions.bypasses, condition, exception]
  rcases h with ⟨v, hv, falsy⟩ | ⟨v, hv, truthy⟩
  · rw [flag_of_get? hv, falsy]
    simp
  · rw [flag_of_get? hv, truthy]
    simp

/-- No options of a block make the store be asked for a preview. -/
theorem bypasses_of_isPreview {r : Request} (h : r.isPreview = true) (o : CacheOptions) :
    o.bypasses r = true := by
  rw [CacheOptions.bypasses, h]
  simp

end CacheOptions

/-! ## Previews -/

open Render

/-- The state is one of a preview in which the store has not been asked, and of no open block a text
will be kept. -/
structure RenderState.Shielded (s : RenderState) : Prop where
  preview : s.request.isPreview = true
  blocks : ∀ b ∈ s.blocks, b.pending = none
  calls : s.calls = []

namespace RenderState.Shielded

variable {s s' : RenderState}

/-- Only these three parts of the state matter. -/
theorem of_same (h : s.Shielded) (request : s'.request = s.request) (blocks : s'.blocks = s.blocks)
    (calls : s'.calls = s.calls) : s'.Shielded := by
  refine ⟨?_, ?_, ?_⟩
  · rw [request]
    exact h.preview
  · rw [blocks]
    exact h.blocks
  · rw [calls]
    exact h.calls

/-- Events that are no calls do not matter. -/
theorem after (h : s.Shielded) {w : List Event} (hw : History.calls w = []) :
    (s.after w).Shielded := by
  refine h.of_same rfl rfl ?_
  rw [calls_after, hw, List.append_nil]

theorem closed (h : s.Shielded) {b : Block} {bs : List Block} (hs : s.blocks = b :: bs) :
    (s.closed bs).Shielded :=
  ⟨h.preview, fun b' hb' => h.blocks b' (hs ▸ List.mem_cons_of_mem b hb'), h.calls⟩

end RenderState.Shielded

variable {α β : Type}

/-- Two computations do the same to every shielded state, and leave it shielded. -/
def Unasked (m n : Render α) : Prop :=
  ∀ s : RenderState, s.Shielded → m.run s = n.run s ∧ (m.run s).2.Shielded

theorem unasked_self {m : Render α} (h : ∀ s : RenderState, s.Shielded → (m.run s).2.Shielded) :
    Unasked m m := fun s hs => ⟨rfl, h s hs⟩

theorem Unasked.bind {m n : Render α} {k l : α → Render β} (hm : Unasked m n)
    (hk : ∀ a, Unasked (k a) (l a)) : Unasked (m >>= k) (n >>= l) := by
  intro s hs
  obtain ⟨same, shielded⟩ := hm s hs
  rcases h : m.run s with ⟨stop | a, s'⟩
  · rw [h] at same shielded
    rw [run_bind_error h, run_bind_error same.symm]
    exact ⟨rfl, shielded⟩
  · rw [h] at same shielded
    rw [run_bind_ok h, run_bind_ok same.symm]
    exact hk a s' shielded

/-- Reasons to stop may be changed on both sides. -/
theorem Unasked.mapError {m n m' n' : Render α} {g : Stop → Stop} (h : Unasked m n)
    (hm : ∀ s, m'.run s = ((m.run s).1.mapError g, (m.run s).2))
    (hn : ∀ s, n'.run s = ((n.run s).1.mapError g, (n.run s).2)) : Unasked m' n' := by
  intro s hs
  obtain ⟨same, shielded⟩ := h s hs
  rw [hm, hn, same]
  rw [same] at shielded
  exact ⟨rfl, shielded⟩

theorem unasked_read (f : RenderState → α) :
    Unasked (get >>= fun s => pure (f s) : Render α) (get >>= fun s => pure (f s)) :=
  unasked_self fun _ hs => hs

theorem unasked_modify {g : RenderState → RenderState}
    (hg : ∀ s : RenderState, s.Shielded → (g s).Shielded) :
    Unasked (modify g : Render PUnit) (modify g) := unasked_self hg

theorem unasked_offer (text : String) : Unasked (offer text) (offer text) := by
  refine unasked_self fun s hs => ?_
  have told : (s.after [.wrote text]).Shielded := hs.after rfl
  rw [run_offer]
  split
  · exact told.of_same rfl rfl rfl
  · exact told.of_same rfl rfl rfl

theorem unasked_results : ResultCongruence fun m n => Unasked m n where
  pure _ := unasked_self fun _ hs => hs
  throw _ := unasked_self fun _ hs => hs
  bind := Unasked.bind

/-- The operations of a render do not ask the store. -/
theorem unasked_steps : StepCongruence fun m n => Unasked m n where
  toResultCongruence := unasked_results
  named name hm := hm.mapError (run_named name _) (run_named name _)
  locatedAt source span hm :=
    hm.mapError (Step.run_locatedAt source span _) (Step.run_locatedAt source span _)
  evaluate e _ _ := unasked_results.reading e (unasked_read _) _
  arguments e _ _ := unasked_results.reading e (unasked_read _) _
  view _ _ := unasked_read _
  write text := unasked_results.write_of_offer (unasked_offer text)
  offer := unasked_offer
  bindVariable _ _ := unasked_modify fun _ hs => hs.of_same rfl rfl rfl
  respond _ := unasked_modify fun _ hs => hs.of_same rfl rfl rfl
  setLimit query _ := unasked_modify fun s hs => by
    split
    · exact hs.of_same rfl rfl rfl
    · exact hs

namespace Step

variable (e : Engine) (a b : Option CacheStore)

/-- A preview opens its blocks without the store, whichever there is. -/
theorem unasked_beginBlock (origin : Origin) (args : Args) :
    Unasked (beginBlock (e.withStore a) origin args)
      (beginBlock (e.withStore b) origin args) := by
  intro s hs
  cases hread : CacheOptions.read args.values.head? with
  | error f =>
    rw [run_beginBlock_of_fault hread, run_beginBlock_of_fault hread]
    exact ⟨rfl, hs⟩
  | ok o =>
    have bypassed : o.bypasses s.request = true := CacheOptions.bypasses_of_isPreview hs.preview o
    rw [run_beginBlock_of_bypass hread fun _ _ => bypassed,
      run_beginBlock_of_bypass hread fun _ _ => bypassed]
    have told : (s.after [.started origin o]).Shielded := hs.after rfl
    exact ⟨rfl, told.preview, List.forall_mem_cons.2 ⟨rfl, told.blocks⟩, told.calls⟩

/-- No block of a preview is kept when it ends. -/
theorem unasked_endBlock : Unasked (endBlock (e.withStore a)) (endBlock (e.withStore b)) := by
  intro s hs
  cases hblocks : s.blocks with
  | nil =>
    have closed := run_closeBlock s
    rw [hblocks] at closed
    rw [endBlock, endBlock, run_bind_error closed, run_bind_error closed]
    exact ⟨rfl, hs⟩
  | cons block bs =>
    obtain ⟨id, pending⟩ := block
    obtain rfl : pending = none := hs.blocks ⟨id, pending⟩ (hblocks ▸ List.mem_cons_self)
    rw [run_endBlock_of_none _ hblocks, run_endBlock_of_none _ hblocks]
    exact unasked_steps.write _ _ ((hs.closed hblocks).after rfl)

theorem unasked_cached (t : Template) (start stop : Invocation) {m n : Render Unit}
    (hm : Unasked m n) :
    Unasked (cached (e.withStore a) t start stop m) (cached (e.withStore b) t start stop n) := by
  have started : Unasked (startCached (e.withStore a) t start)
      (startCached (e.withStore b) t start) :=
    unasked_steps.named t.name ((unasked_steps.arguments e t start.args).bind fun args =>
      unasked_steps.locatedAt t.source start.span (unasked_beginBlock e a b start.origin args))
  have stopped : Unasked (stopCached (e.withStore a) t stop) (stopCached (e.withStore b) t stop) :=
    unasked_steps.named t.name ((unasked_steps.arguments e t stop.args).bind fun _ =>
      unasked_steps.locatedAt t.source stop.span (unasked_endBlock e a b))
  refine started.bind fun opened => ?_
  cases opened with
  | false => exact unasked_results.pure ()
  | true => exact hm.bind fun _ => stopped

end Step

/-- The renders of a preview with two stores do the same. -/
theorem unasked_renders (e : Engine) (a b : Option CacheStore) :
    RenderCongruence e a b fun m n => Unasked m n where
  toStepCongruence := unasked_steps
  halt := unasked_self fun _ hs => hs
  enterLoop _ := unasked_modify fun _ hs => hs.of_same rfl rfl rfl
  enterRound _ _ := unasked_modify fun _ hs => hs.of_same rfl rfl rfl
  leaveLoop := unasked_modify fun _ hs => hs.of_same rfl rfl rfl
  enter _ := unasked_modify fun _ hs => hs.of_same rfl rfl rfl
  leave := unasked_modify fun _ hs => hs.of_same rfl rfl rfl
  cached t start stop _ _ hm := Step.unasked_cached e a b t start stop hm

/-- A preview comes to the same with every store, and does not ask it. -/
theorem Engine.unasked_run {e : Engine} {t : Template} (he : e.Quiet) (ht : t.Quiet) {job : Job}
    (preview : job.request.isPreview = true) (a b : Option CacheStore) :
    (e.withStore a).run t job = (e.withStore b).run t job ∧
      ((e.withStore a).run t job).2.calls = [] := by
  unfold Engine.run
  cases job.data with
  | error f => exact ⟨rfl, rfl⟩
  | ok data =>
    have start : (job.initial data).Shielded := ⟨preview, nofun, rfl⟩
    obtain ⟨same, shielded⟩ := (unasked_renders e a b).renderAt he (e.depthLimit job)
      (e.depthLimit job - 1 + 1) ht _ start
    exact ⟨same, shielded.calls⟩

/-! ## Blocks -/

namespace Step

variable {e : Engine} {t : Template} {start stop : Invocation} {body : Render Unit}
  {s : RenderState} {args : Args} {o : CacheOptions} {st : CacheStore}

/-- From a state, a cached block is rendered without the store: neither its start nor its end makes
a call, and its body is not left out. -/
structure Shuns (e : Engine) (t : Template) (start stop : Invocation) (body : Render Unit)
    (s : RenderState) : Prop where
  atStart : ((startCached e t start).run s).2.calls = s.calls
  opened : ∀ opened s₁, (startCached e t start).run s = (.ok opened, s₁) → opened = true
  atEnd : ∀ s₁ s₂, (startCached e t start).run s = (.ok true, s₁) → body.run s₁ = (.ok (), s₂) →
    ((stopCached e t stop).run s₂).2.calls = s₂.calls

/-- From a state, a cached block consults a store by its options: its start looks its text up, and
the text of a body that is rendered is kept at its end. -/
structure Consults (e : Engine) (o : CacheOptions) (t : Template) (start stop : Invocation)
    (body : Render Unit) (s : RenderState) : Prop where
  atStart : ∃ more, ((startCached e t start).run s).2.calls =
    s.calls ++ .get (o.keyAt start.origin) o.isGlobal :: more
  atEnd : ∀ s₁ s₂ args, (startCached e t start).run s = (.ok true, s₁) →
    body.run s₁ = (.ok (), s₂) → stop.args.evaluate (s₂.scope e) t.source = .ok args →
    ((stopCached e t stop).run s₂).2.calls =
      s₂.calls ++ [.put ((Pending.ofOptions start.origin o).entry (s₂.captures.head?.getD ""))]

/-- The end of a block makes no call if nothing of the block is to be kept. -/
theorem calls_stopCached_of_none {id : Nat} {bs : List Block} (h : s.blocks = ⟨id, none⟩ :: bs) :
    ((stopCached e t stop).run s).2.calls = s.calls := by
  cases hargs : stop.args.evaluate (s.scope e) t.source with
  | ok args =>
    rw [run_stopCached hargs]
    exact calls_endBlock_of_none h
  | error f =>
    have fault : (arguments e t stop.args).run s = (.error (stopOf f), s) := by
      rw [run_arguments, hargs]
      rfl
    rw [stopCached, run_named, run_bind_error fault]

/-- What is decided at the start of a block holds at its end. -/
theorem shuns_of_declines {entries : Dict Value}
    (hargs : start.args.evaluate (s.scope e) t.source = .ok args)
    (hentries : args.values.head? = some (.map entries)) (declines : CacheOptions.Declines entries)
    (hbody : Keeps RenderState.blocks body) : Shuns e t start stop body s := by
  have started := run_startCached hargs
  cases hread : CacheOptions.read args.values.head? with
  | error f =>
    rw [run_beginBlock_of_fault hread] at started
    refine ⟨?_, ?_, ?_⟩
    · rw [started]
    · intro opened s₁ h
      rw [started] at h
      cases h
    · intro s₁ s₂ h
      rw [started] at h
      cases h
  | ok o =>
    have bypassed : o.bypasses s.request = true :=
      declines.bypasses (hentries ▸ hread) s.request
    rw [run_beginBlock_of_bypass hread fun _ _ => bypassed] at started
    refine ⟨?_, ?_, ?_⟩
    · rw [started]
      show (s.after [.started start.origin o]).calls = s.calls
      simp
    · intro opened s₁ h
      rw [started] at h
      cases h
      rfl
    · intro s₁ s₂ h ran
      rw [started] at h
      cases h
      -- the block that has been opened is the innermost one again
      exact calls_stopCached_of_none (hbody _ _ _ ran)

/-- A block that is not to be rendered without the store asks it, whatever blocks it is in. -/
theorem consults_of_not_bypasses
    (hargs : start.args.evaluate (s.scope e) t.source = .ok args)
    (hread : CacheOptions.read args.values.head? = .ok o) (hst : e.store = some st)
    (hb : o.bypasses s.request = false) (hbody : Keeps RenderState.blocks body) :
    Consults e o t start stop body s := by
  have started := run_startCached hargs
  rw [run_beginBlock_of_consult hread hst hb] at started
  refine ⟨?_, ?_⟩
  · obtain ⟨more, calls⟩ :=
      calls_consult st (.ofOptions start.origin o) (s.after [.started start.origin o])
    refine ⟨more, ?_⟩
    rw [started]
    refine calls.trans ?_
    simp [Pending.ofOptions]
  · intro s₁ s₂ args' h ran hstop
    have opened := marker_eq_ok hargs h
    rw [run_beginBlock_of_consult hread hst hb] at opened
    have blocks : s₂.blocks = ⟨s.nextBlock, some (.ofOptions start.origin o)⟩ :: s.blocks :=
      (hbody _ _ _ ran).trans (blocks_of_consult opened)
    rw [run_stopCached hstop]
    exact calls_endBlock_of_some hst blocks

end Step

/-! ## Renders -/

/-- Previews and conditions take precedence over the store.

- If no directive makes calls by itself, a preview comes to the same with every store, be it one
  that fails or none, and the store is not asked.
- A cached block whose conditions say so is rendered without the store, whatever its other options
  say: no call is made at its start or at its end.
- A block that is to be rendered with the store asks it by its own options, whatever blocks are open
  around it; statements keep the request, by which this is decided with the options. -/
theorem Engine.bypass_precedes (e : Engine) (t : Template) :
    (e.Quiet → t.Quiet → ∀ job : Job,
      job.request.preview = true ∨ job.request.token.isSome = true → ∀ a b,
        (e.withStore a).render t job = (e.withStore b).render t job ∧
          ((e.withStore a).render t job).calls = []) ∧
    (∀ limit n start stop body s args entries,
      start.args.evaluate (s.scope e) t.source = .ok args →
        args.values.head? = some (.map entries) → CacheOptions.Declines entries →
        Step.Shuns e t start stop (Stmt.renderAll e (Template.renderAt e limit n) t body) s) ∧
    (∀ limit n start stop body s args o,
      start.args.evaluate (s.scope e) t.source = .ok args →
        CacheOptions.read args.values.head? = .ok o → e.store.isSome = true →
        o.bypasses s.request = false →
        Step.Consults e o t start stop (Stmt.renderAll e (Template.renderAt e limit n) t body) s) ∧
    ∀ limit n body,
      Keeps RenderState.request (Stmt.renderAll e (Template.renderAt e limit n) t body) := by
  refine ⟨?_, ?_, ?_, ?_⟩
  · intro he ht job preview a b
    have preview : job.request.isPreview = true := by
      rw [Request.isPreview, Bool.or_eq_true]
      exact preview
    obtain ⟨same, calls⟩ := unasked_run he ht preview a b
    refine ⟨congrArg (Outcome.ofRun job.refusal) same, ?_⟩
    rw [render, Outcome.calls_ofRun, calls]
  · intro limit n start stop body s args entries hargs hentries declines
    exact Step.shuns_of_declines hargs hentries declines (blocks_renderAll e limit n t body)
  · intro limit n start stop body s args o hargs hread hst hb
    obtain ⟨st, hst⟩ := Option.isSome_iff_exists.1 hst
    exact Step.consults_of_not_bypasses hargs hread hst hb (blocks_renderAll e limit n t body)
  · intro limit n body
    exact request_renderAll e limit n t body

/-- A store that fails at every call. -/
def CacheStore.failing : CacheStore where
  get _ _ _ := .error "down"
  start _ _ := .error "down"
  put _ _ := .error "down"

namespace Invocation

/-- The start of a block with some options. -/
def starting (options : List (String × Value)) : Invocation :=
  ⟨⟨"cache", ⟨0, 0⟩⟩, .call [.literal (.map options) ⟨0, 0⟩], ⟨"", 1, 1⟩, ⟨0, 0⟩⟩

/-- The end of a block. -/
def ending : Invocation := ⟨⟨"endcache", ⟨0, 0⟩⟩, .none, ⟨"", 1, 1⟩, ⟨0, 0⟩⟩

end Invocation

/-- A block without conditions in one whose conditions say to leave the store alone. -/
def Template.declining : Template where
  name := none
  source := "ab"
  body :=
    [.cached (.starting [("if", .bool false), ("key", .text "outer")])
      [.raw ⟨0, 1⟩, .cached (.starting [("key", .text "inner")]) [.raw ⟨1, 2⟩] .ending] .ending]

/-- A preview does not see that the store fails. Otherwise it is asked for the inner block, and for
that one only. -/
theorem Engine.bypass_precedes_declining :
    (Engine.new .standard).Quiet ∧ Template.declining.Quiet ∧
      (((Engine.new .standard).withStore (some .failing)).render .declining
          { Job.ofData .none with request := { Request.default with preview := true } }).body =
        "ab" ∧
      (((Engine.new .standard).withStore (some .failing)).render .declining
          { Job.ofData .none with request := { Request.default with preview := true } }).calls =
        [] ∧
      (((Engine.new .standard).withStore (some .failing)).render .declining (.ofData .none)).calls =
        [.get "inner" false] ∧
      Step.Shuns ((Engine.new .standard).withStore (some .failing)) .declining
        (.starting [("if", .bool false), ("key", .text "outer")]) .ending
        (Stmt.renderAll ((Engine.new .standard).withStore (some .failing))
          (Template.renderAt ((Engine.new .standard).withStore (some .failing)) 8 8) .declining
          [.raw ⟨0, 1⟩, .cached (.starting [("key", .text "inner")]) [.raw ⟨1, 2⟩] .ending])
        ((Job.ofData .none).initial .none) ∧
      ∃ o : CacheOptions, o.key = some "inner" ∧
        Step.Consults ((Engine.new .standard).withStore (some .failing)) o .declining
          (.starting [("key", .text "inner")]) .ending
          (Stmt.renderAll ((Engine.new .standard).withStore (some .failing))
            (Template.renderAt ((Engine.new .standard).withStore (some .failing)) 8 8) .declining
            [.raw ⟨1, 2⟩])
          ((Step.startCached ((Engine.new .standard).withStore (some .failing)) .declining
            (.starting [("if", .bool false), ("key", .text "outer")])).run
              ((Job.ofData .none).initial .none)).2 := by
  have quiet : Template.declining.Quiet :=
    ⟨⟨trivial, ⟨⟨trivial, trivial⟩, trivial⟩⟩, trivial⟩
  obtain ⟨previews, -⟩ := Engine.bypass_precedes (Engine.new .standard) .declining
  obtain ⟨-, declines, consults, -⟩ :=
    Engine.bypass_precedes ((Engine.new .standard).withStore (some .failing)) .declining
  obtain ⟨same, calls⟩ := previews (quiet_new .standard) quiet
    { Job.ofData .none with request := { Request.default with preview := true } } (.inl rfl)
    (some .failing) none
  refine ⟨quiet_new .standard, quiet, ?_, calls, rfl, ?_, ?_⟩
  · rw [same]
    rfl
  · exact declines 8 8 _ _ _ _ _ _ rfl rfl (.inl ⟨.bool false, rfl, rfl⟩)
  · exact ⟨_, rfl, consults 8 8 _ _ _ _ _ _ rfl rfl rfl rfl⟩

end Stencil
