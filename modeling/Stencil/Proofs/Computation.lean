import Stencil.Proofs.Congruence

/-!
# Computations on the state of a render

- `Render.run_pure`, `Render.run_bind`, `Render.run_throw`, …: what the ways to make computations do
  to a state.
- `Render.Ends`: what a computation comes to from a state.
- `Render.Keeps`: a part of the state is the same after a computation that does not stop.
- `Render.keeps_steps`: most steps of a render keep the structure of the state.
- `Render.keeps_layers`: so they keep the layers of variables, loops apart.
- `Render.keeps_blocks`: the markers of cached blocks keep what does not depend on the open blocks.
-/

namespace Stencil

namespace Render

variable {α β γ : Type}

/-! ## Runs -/

@[simp] theorem run_pure (a : α) (s : RenderState) : (pure a : Render α).run s = (.ok a, s) := rfl

@[simp] theorem run_throw (stop : Stop) (s : RenderState) :
    (throw stop : Render α).run s = (.error stop, s) := rfl

@[simp] theorem run_get (s : RenderState) : (get : Render RenderState).run s = (.ok s, s) := rfl

@[simp] theorem run_modify (f : RenderState → RenderState) (s : RenderState) :
    (modify f : Render PUnit).run s = (.ok ⟨⟩, f s) := rfl

theorem run_bind (m : Render α) (f : α → Render β) (s : RenderState) :
    (m >>= f).run s =
      match m.run s with
      | (.ok a, s') => (f a).run s'
      | (.error stop, s') => (.error stop, s') := by
  show (ExceptT.bind m f).run s = _
  simp only [ExceptT.bind, ExceptT.run, ExceptT.mk, bind, StateT.bind]
  rcases m s with ⟨r | a, s'⟩ <;> rfl

theorem run_bind_ok {m : Render α} {f : α → Render β} {s s' : RenderState} {a : α}
    (h : m.run s = (.ok a, s')) : (m >>= f).run s = (f a).run s' := by
  rw [run_bind, h]

theorem run_bind_error {m : Render α} {f : α → Render β} {s s' : RenderState} {stop : Stop}
    (h : m.run s = (.error stop, s')) : (m >>= f).run s = (.error stop, s') := by
  rw [run_bind, h]

@[simp] theorem run_get_bind (f : RenderState → Render β) (s : RenderState) :
    (get >>= f).run s = (f s).run s := run_bind_ok (run_get s)

@[simp] theorem run_modify_bind (g : RenderState → RenderState) (f : PUnit → Render β)
    (s : RenderState) : (modify g >>= f).run s = (f ⟨⟩).run (g s) := run_bind_ok (run_modify g s)

/-- A computation that has not stopped consists of two that have not. -/
theorem bind_eq_ok {m : Render α} {f : α → Render β} {s t : RenderState} {b : β}
    (h : (m >>= f).run s = (.ok b, t)) :
    ∃ a s', m.run s = (.ok a, s') ∧ (f a).run s' = (.ok b, t) := by
  rcases hm : m.run s with ⟨stop | a, s'⟩
  · rw [run_bind_error hm] at h
    cases h
  · rw [run_bind_ok hm] at h
    exact ⟨a, s', rfl, h⟩

theorem mapError_ok {ε ε' : Type} (f : ε → ε') (a : α) :
    (Except.ok a : Except ε α).mapError f = .ok a := rfl

/-- Naming errors changes why a computation stops, and nothing else. -/
theorem run_named (name : Option String) (m : Render α) (s : RenderState) :
    (named name m).run s = ((m.run s).1.mapError (nameStop name), (m.run s).2) := by
  simp only [named, ExceptT.run_mk]
  rcases m.run s with ⟨_ | _, _⟩ <;> rfl

/-- What happens to the reasons to stop does not matter to a computation that has not stopped. -/
theorem eq_ok_of_mapError {m n : Render α} {g : Stop → Stop} {s s' : RenderState} {a : α}
    (hn : n.run s = ((m.run s).1.mapError g, (m.run s).2)) (h : n.run s = (.ok a, s')) :
    m.run s = (.ok a, s') := by
  rw [hn] at h
  rcases hm : m.run s with ⟨stop | b, t⟩
  · rw [hm] at h
    cases h
  · rw [hm] at h
    cases h
    rfl

theorem named_eq_ok {name : Option String} {m : Render α} {s s' : RenderState} {a : α}
    (h : (named name m).run s = (.ok a, s')) : m.run s = (.ok a, s') :=
  eq_ok_of_mapError (run_named name m s) h

/-- A text is handed to the innermost capture, or else to the output, which may refuse it. The
output has the text in it also then. -/
theorem run_offer (text : String) (s : RenderState) :
    (offer text).run s =
      match s.captures with
      | c :: cs => (.ok true, { s.after [.wrote text] with captures := (c ++ text) :: cs })
      | [] =>
        (.ok (s.output.takes text),
          { s.after [.wrote text] with output := s.output.append text }) := by
  simp only [offer, record, run_modify_bind, run_get_bind]
  have same : (s.after [.wrote text]).captures = s.captures := rfl
  rw [same]
  cases s.captures with
  | cons c cs => rfl
  | nil => rfl

/-- The innermost open block is closed; its text is what has been captured. -/
theorem run_closeBlock (s : RenderState) :
    closeBlock.run s =
      match s.blocks with
      | [] => (.error (.failed (.ofCause (.rendering .noOpenBlock))), s)
      | b :: bs =>
        (.ok (b.pending, s.captures.head?.getD ""), (s.closed bs).after [.stopped]) := by
  rw [closeBlock, run_get_bind]
  cases s.blocks with
  | nil => rfl
  | cons b bs => rfl

/-- A call is recorded whether the store fails or not. -/
theorem run_call (c : StoreCall) (ask : List StoreCall → Except String α) (s : RenderState) :
    (call c ask).run s =
      ((ask s.calls).mapError fun text => .failed (.ofCause (.store text)),
        s.after [.called c]) := by
  rw [call, run_get_bind, record, run_modify_bind]
  cases ask s.calls with
  | ok a => rfl
  | error text => rfl

/-- A limit that is set changes the queries only. -/
theorem exists_run_setLimit (query : String) (limit : Option Nat) :
    ∃ change : Dict Query → Dict Query, ∀ s : RenderState,
      (setLimit query limit).run s = (.ok (), { s with queries := change s.queries }) := by
  refine ⟨fun queries => (Dict.get? query queries).elim queries fun q =>
    Dict.insert query (q.setLimit limit) queries, fun s => ?_⟩
  rw [setLimit, run_modify]
  dsimp only
  cases Dict.get? query s.queries with
  | none => rfl
  | some q => rfl

/-- A call of a directive changes the history only. -/
theorem exists_run_ask (store : Option CacheStore) (c : StoreCall) (s : RenderState) :
    ∃ answer w, (ask store c).run s = (.ok answer, s.after w) := by
  cases store with
  | none =>
    refine ⟨none, [], ?_⟩
    rw [RenderState.after, List.append_nil]
    rfl
  | some st => exact ⟨some (st.answer s.calls c), [.called c], rfl⟩

theorem run_call_ok {c : StoreCall} {ask : List StoreCall → Except String α} {s : RenderState}
    {a : α} (h : ask s.calls = .ok a) : (call c ask).run s = (.ok a, s.after [.called c]) := by
  rw [run_call, h]
  rfl

end Render

namespace Step

/-- Locating errors changes why a computation stops, and nothing else. -/
theorem run_locatedAt {α : Type} (source : String) (span : Span) (m : Render α)
    (s : RenderState) :
    (locatedAt source span m).run s =
      ((m.run s).1.mapError (locateStop source span), (m.run s).2) := by
  simp only [locatedAt, ExceptT.run_mk]
  rcases m.run s with ⟨_ | _, _⟩ <;> rfl

end Step

/-! ## What computations come to -/

namespace Render

variable {α β : Type} {m : Render α} {s : RenderState} {good : α → RenderState → Prop}
  {bad : Stop → RenderState → Prop}

/-- From a state, a computation goes on in one way or stops in another. -/
def Ends (m : Render α) (s : RenderState) (good : α → RenderState → Prop)
    (bad : Stop → RenderState → Prop) : Prop :=
  match m.run s with
  | (.ok a, s') => good a s'
  | (.error stop, s') => bad stop s'

theorem Ends.of_ok {a : α} {s' : RenderState} (h : Ends m s good bad)
    (hm : m.run s = (.ok a, s')) : good a s' := by
  rw [Ends, hm] at h
  exact h

theorem Ends.of_error {stop : Stop} {s' : RenderState} (h : Ends m s good bad)
    (hm : m.run s = (.error stop, s')) : bad stop s' := by
  rw [Ends, hm] at h
  exact h

theorem Ends.imp {good' : α → RenderState → Prop} {bad' : Stop → RenderState → Prop}
    (h : Ends m s good bad) (hgood : ∀ a s', good a s' → good' a s')
    (hbad : ∀ stop s', bad stop s' → bad' stop s') : Ends m s good' bad' := by
  rcases hm : m.run s with ⟨stop | a, s'⟩
  · rw [Ends, hm]
    exact hbad stop s' (h.of_error hm)
  · rw [Ends, hm]
    exact hgood a s' (h.of_ok hm)

/-- One computation after another: where the first one stops, so does the whole. -/
theorem Ends.seq {k : α → Render β} {good' : β → RenderState → Prop}
    {bad' : Stop → RenderState → Prop} (hm : Ends m s good bad)
    (hbad : ∀ stop s', bad stop s' → bad' stop s')
    (hk : ∀ a s', good a s' → Ends (k a) s' good' bad') : Ends (m >>= k) s good' bad' := by
  rcases h : m.run s with ⟨stop | a, s'⟩
  · rw [Ends, run_bind_error h]
    exact hbad stop s' (hm.of_error h)
  · rw [Ends, run_bind_ok h]
    exact hk a s' (hm.of_ok h)

theorem Ends.bind {k : α → Render β} {good' : β → RenderState → Prop}
    (hm : Ends m s good bad) (hk : ∀ a s', good a s' → Ends (k a) s' good' bad) :
    Ends (m >>= k) s good' bad :=
  hm.seq (fun _ _ h => h) hk

theorem Ends.get {k : RenderState → Render α} (h : Ends (k s) s good bad) :
    Ends (get >>= k) s good bad := by
  rw [Ends, run_get_bind]
  exact h

theorem Ends.modify {f : RenderState → RenderState} {k : PUnit → Render α}
    (h : Ends (k ⟨⟩) (f s) good bad) : Ends (modify f >>= k) s good bad := by
  rw [Ends, run_modify_bind]
  exact h

theorem Ends.named {name : Option String} (h : Ends m s good bad)
    (hbad : ∀ stop s', bad stop s' → bad (nameStop name stop) s') :
    Ends (Render.named name m) s good bad := by
  rcases hm : m.run s with ⟨stop | a, s'⟩
  · rw [Ends, run_named, hm]
    exact hbad stop s' (h.of_error hm)
  · rw [Ends, run_named, hm]
    exact h.of_ok hm

theorem Ends.locatedAt {source : String} {span : Span} (h : Ends m s good bad)
    (hbad : ∀ stop s', bad stop s' → bad (Step.locateStop source span stop) s') :
    Ends (Step.locatedAt source span m) s good bad := by
  rcases hm : m.run s with ⟨stop | a, s'⟩
  · rw [Ends, Step.run_locatedAt, hm]
    exact hbad stop s' (h.of_error hm)
  · rw [Ends, Step.run_locatedAt, hm]
    exact h.of_ok hm

end Render

/-! ## What computations keep -/

namespace Render

variable {α β γ : Type} {f : RenderState → γ}

/-- A part of the state is the same after a computation, unless it stops. -/
def Keeps (f : RenderState → γ) (m : Render α) : Prop :=
  ∀ s a s', m.run s = (.ok a, s') → f s' = f s

theorem keeps_pure (a : α) : Keeps f (pure a : Render α) := by
  intro s b s' h
  cases h
  rfl

theorem keeps_throw (stop : Stop) : Keeps f (throw stop : Render α) := by
  intro s b s' h
  cases h

theorem keeps_get : Keeps f get := by
  intro s b s' h
  cases h
  rfl

theorem keeps_modify {g : RenderState → RenderState} (hg : ∀ s, f (g s) = f s) :
    Keeps f (modify g : Render PUnit) := by
  intro s b s' h
  cases h
  exact hg s

theorem Keeps.bind {m : Render α} {k : α → Render β} (hm : Keeps f m)
    (hk : ∀ a, Keeps f (k a)) : Keeps f (m >>= k) := by
  intro s b t h
  obtain ⟨a, s', hs, ht⟩ := bind_eq_ok h
  rw [hk a s' b t ht, hm s a s' hs]

theorem Keeps.named {m : Render α} (name : Option String) (hm : Keeps f m) :
    Keeps f (Render.named name m) :=
  fun s a s' h => hm s a s' (named_eq_ok h)

theorem Keeps.locatedAt {m : Render α} (source : String) (span : Span) (hm : Keeps f m) :
    Keeps f (Step.locatedAt source span m) :=
  fun s a s' h => hm s a s' (eq_ok_of_mapError (Step.run_locatedAt source span m s) h)

/-! ## The structure of the state -/

/-- A part of the state is known from the layers, the open blocks, the identity of the next one, and
the request. -/
def Structural (f : RenderState → γ) : Prop :=
  ∀ s t : RenderState, s.layers = t.layers → s.blocks = t.blocks → s.nextBlock = t.nextBlock →
    s.request = t.request → f s = f t

theorem structural_layers : Structural RenderState.layers := fun _ _ h _ _ _ => h

theorem structural_blocks : Structural RenderState.blocks := fun _ _ _ h _ _ => h

theorem structural_nextBlock : Structural RenderState.nextBlock := fun _ _ _ _ h _ => h

section

variable (hf : Structural f)

include hf

theorem keeps_record (event : Event) : Keeps f (record event) :=
  keeps_modify fun _ => hf _ _ rfl rfl rfl rfl

theorem keeps_offer (text : String) : Keeps f (offer text) := by
  intro s a s' h
  rw [run_offer] at h
  split at h
  · cases h
    exact hf _ _ rfl rfl rfl rfl
  · cases h
    exact hf _ _ rfl rfl rfl rfl

theorem keeps_call (c : StoreCall) (ask : List StoreCall → Except String α) :
    Keeps f (call c ask) := by
  intro s a s' h
  rw [run_call] at h
  have state : s.after [.called c] = s' := congrArg Prod.snd h
  rw [← state]
  exact hf _ _ rfl rfl rfl rfl

theorem keeps_ask (store : Option CacheStore) (c : StoreCall) : Keeps f (ask store c) := by
  cases store with
  | none => exact keeps_pure _
  | some st => exact keeps_get.bind fun _ => (keeps_record hf _).bind fun _ => keeps_pure _

end

/-- A part of the state is known from the layers and the request, whatever blocks are open. -/
def Unblocked (f : RenderState → γ) : Prop :=
  ∀ s t : RenderState, s.layers = t.layers → s.request = t.request → f s = f t

theorem unblocked_layers : Unblocked RenderState.layers := fun _ _ h _ => h

theorem unblocked_request : Unblocked RenderState.request := fun _ _ _ h => h

theorem Unblocked.structural (hf : Unblocked f) : Structural f :=
  fun s t layers _ _ request => hf s t layers request

theorem keeps_openBlock (hf : Unblocked f) (pending : Option Pending) :
    Keeps f (openBlock pending) := keeps_modify fun _ => hf _ _ rfl rfl

theorem keeps_closeBlock (hf : Unblocked f) : Keeps f closeBlock := by
  intro s a s' h
  rw [run_closeBlock] at h
  split at h
  · cases h
  · cases h
    exact hf _ _ rfl rfl

end Render

theorem Render.keeps_results {γ : Type} (f : RenderState → γ) :
    ResultCongruence fun m _ => Render.Keeps f m where
  pure := Render.keeps_pure
  throw _ := Render.keeps_throw _
  bind := Render.Keeps.bind

/-- The steps of a render keep the structure of the state. -/
theorem Render.keeps_steps {γ : Type} {f : RenderState → γ} (hf : Render.Structural f) :
    StepCongruence fun m _ => Render.Keeps f m where
  toResultCongruence := Render.keeps_results f
  named := Render.Keeps.named
  locatedAt := Render.Keeps.locatedAt
  evaluate e _ _ :=
    (Render.keeps_results _).reading e (Render.keeps_get.bind fun _ => Render.keeps_pure _) _
  arguments e _ _ :=
    (Render.keeps_results _).reading e (Render.keeps_get.bind fun _ => Render.keeps_pure _) _
  view _ _ := Render.keeps_get.bind fun _ => Render.keeps_pure _
  write text := (Render.keeps_results _).write_of_offer (Render.keeps_offer hf text)
  offer := Render.keeps_offer hf
  bindVariable _ _ := Render.keeps_modify fun _ => hf _ _ rfl rfl rfl rfl
  respond _ := Render.keeps_modify fun _ => hf _ _ rfl rfl rfl rfl
  setLimit _ _ := Render.keeps_modify fun _ => by
    split
    · exact hf _ _ rfl rfl rfl rfl
    · rfl

/-- The steps of a render keep the layers of variables. -/
theorem Render.keeps_layers : StepCongruence fun m _ => Render.Keeps RenderState.layers m :=
  Render.keeps_steps Render.structural_layers

/-- The markers of a block keep what has nothing to do with the open blocks. -/
theorem Render.keeps_blocks {γ : Type} {f : RenderState → γ} (hf : Render.Unblocked f) :
    BlockCongruence fun m _ => Render.Keeps f m where
  toWriteCongruence := (Render.keeps_steps hf.structural).toWriteCongruence
  locatedAt := Render.Keeps.locatedAt
  arguments := (Render.keeps_steps hf.structural).arguments
  record := Render.keeps_record hf.structural
  call := Render.keeps_call hf.structural
  request hk := Render.keeps_get.bind fun s => hk s.request
  openBlock := Render.keeps_openBlock hf
  closeBlock := Render.keeps_closeBlock hf

/-- Whatever a directive does, it keeps the structure of the state. -/
theorem Step.keeps_perform {γ : Type} {f : RenderState → γ} (hf : Render.Structural f) (e : Engine)
    (t : Template) (d : Directive) : Render.Keeps f (Step.perform e t d) :=
  (Render.keeps_steps hf).perform e (a := e.store) (b := e.store)
    (fun c _ => Render.keeps_ask hf e.store c) t fun args => (d.run args).callsOnly_any

namespace Step

open Render

variable (e : Engine) (t : Template)

/-- Whatever a directive does, it keeps the layers. -/
theorem layers_perform (d : Directive) : Keeps RenderState.layers (perform e t d) :=
  keeps_perform structural_layers e t d

theorem layers_startCached (i : Invocation) : Keeps RenderState.layers (startCached e t i) :=
  (keeps_blocks unblocked_layers).startCached e t i

theorem layers_stopCached (i : Invocation) : Keeps RenderState.layers (stopCached e t i) :=
  (keeps_blocks unblocked_layers).stopCached e t i

/-- A loop is entered before its first round. -/
theorem layers_of_rounds {vars : LoopVars} {x : Expr} {s s' : RenderState} {rs : List Round}
    (h : (rounds e t vars x).run s = (.ok rs, s')) :
    s'.layers = .loop ⟨[], rs⟩ :: s.layers := by
  -- the value of the loop, its rounds, and then the layer for them
  obtain ⟨v, s₁, hv, h⟩ := bind_eq_ok (named_eq_ok h)
  obtain ⟨rs', s₂, hrs, h⟩ := bind_eq_ok h
  obtain ⟨_, s₃, hloop, h⟩ := bind_eq_ok h
  cases hloop
  cases h
  show Layer.loop ⟨[], rs⟩ :: s₂.layers = _
  have kept : s₂.layers = s.layers :=
    (keeps_layers.lift _ _ _ _ hrs).trans (keeps_layers.evaluate _ _ _ _ _ _ hv)
  rw [kept]

end Step

end Stencil
