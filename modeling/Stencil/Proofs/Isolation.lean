import Stencil.Proofs.Computation

/-!
# Templates with variables of their own

A template that is given variables of its own does not see those of the template that names it: not
the variables given to that one, nor the ones it binds, nor its loops. So it does the same wherever
it stands, and leaves all of them as they are.

- `RenderState.onTop`: a state that stands by itself, placed on top of layers and frames of others.
- `Scope.Alike`, `Expr.evaluate_congr`: expressions depend on what names stand for, and on no more.
- `Isolated`: a computation does the same by itself as on top of others.
- `isolated_renders`: the renders of templates are isolated.
- `Includes`: the ways in which a template comes to be rendered with variables of its own.
- `Engine.run_includes_unscoped`: what is done there does not depend on the variables around it.
-/

namespace Stencil

/-! ## Scopes -/

namespace Scope

/-- Names stand for the same in two scopes, and the functions are the same. -/
structure Alike (source : String) (s s' : Scope) : Prop where
  functions : s.functions = s'.functions
  find : ∀ name, s.find? source name = s'.find? source name

variable {source : String} {s s' : Scope}

theorem Alike.value (h : Alike source s s') (first : Ident) (path : List Member) :
    s.value source first path = s'.value source first path := by
  unfold Scope.value
  rw [h.find first.name]

end Scope

namespace Expr

variable {source : String} {s s' : Scope}

mutual

/-- The value of an expression depends on what names stand for. -/
theorem evaluate_congr (h : s.Alike source s') :
    ∀ x : Expr, x.evaluate s source = x.evaluate s' source
  | .variable first path => h.value first path
  | .literal v _ => rfl
  | .list items _ => by rw [evaluate, evaluate, evaluateAll_congr h items]
  | .map entries _ => by rw [evaluate, evaluate, evaluateEntries_congr h entries]
  | .filter receiver name args _ => by
    rw [evaluate, evaluate, evaluate_congr h receiver, evaluateAll_congr h args, h.functions]

theorem evaluateAll_congr (h : s.Alike source s') :
    ∀ xs : List Expr, evaluateAll s source xs = evaluateAll s' source xs
  | [] => rfl
  | x :: xs => by rw [evaluateAll, evaluateAll, evaluate_congr h x, evaluateAll_congr h xs]

theorem evaluateEntries_congr (h : s.Alike source s') :
    ∀ xs : List (String × Expr), evaluateEntries s source xs = evaluateEntries s' source xs
  | [] => rfl
  | (k, x) :: xs => by
    rw [evaluateEntries, evaluateEntries, evaluate_congr h x, evaluateEntries_congr h xs]

end

end Expr

theorem DirectiveArgs.evaluate_congr {source : String} {s s' : Scope} (h : s.Alike source s') :
    ∀ args : DirectiveArgs, args.evaluate s source = args.evaluate s' source
  | .none => rfl
  | .call values => by rw [evaluate, evaluate, Expr.evaluateAll_congr h]
  | .assign bindings => by rw [evaluate, evaluate, Expr.evaluateAll_congr h]

/-! ## States on top of others -/

/-- The layer when the number of its frame is moved. -/
def Layer.shift (k : Nat) : Layer → Layer
  | .loop l => .loop l
  | .variables given frame => .variables given (frame + k)
  | .boundary => .boundary

/-- In the layers of a state on top of others, names stand for what they stand for in the state. -/
theorem Scope.findLayer?_append (outer : List Frame) (frames : List Frame) (source name : String)
    (below : List Layer) (layers : List Layer) :
    findLayer? (outer ++ frames) source name
        (layers.map (Layer.shift outer.length) ++ .boundary :: below) =
      findLayer? frames source name layers := by
  induction layers with
  | nil => rfl
  | cons layer layers ih =>
    match layer with
    | .boundary => rfl
    | .loop l => rw [List.map_cons, Layer.shift, List.cons_append, findLayer?, findLayer?, ih]
    | .variables given frame =>
      -- the frame is looked up behind the outer ones
      have bound : bound? (outer ++ frames) given (frame + outer.length) name =
          bound? frames given frame name := by
        rw [bound?, bound?, List.getElem?_append_right (Nat.le_add_left _ _), Nat.add_sub_cancel]
      rw [List.map_cons, Layer.shift, List.cons_append, findLayer?, findLayer?, ih, bound]

namespace RenderState

/-- A state that stands by itself, placed on top of layers and frames of others. -/
def onTop (s : RenderState) (layers : List Layer) (frames : List Frame) : RenderState :=
  { s with
    layers := s.layers.map (Layer.shift frames.length) ++ .boundary :: layers
    frames := frames ++ s.frames }

variable {outer : List Frame} {below : List Layer}

theorem alike_onTop (s : RenderState) (e : Engine) (source : String) :
    ((s.onTop below outer).scope e).Alike source (s.scope e) := by
  refine ⟨rfl, fun name => ?_⟩
  have layers := Scope.findLayer?_append outer s.frames source name below s.layers
  exact congrArg (Option.map fun found => found.or (Dict.get? name e.shared)) layers

end RenderState

open Render

/-! ## Isolated computations -/

variable {α β : Type} {below : List Layer} {outer : List Frame}

/-- What a computation comes to from a state that stands by itself is what it comes to on top of
others. -/
def Commutes (below : List Layer) (outer : List Frame) (m n : Render α) (s : RenderState) : Prop :=
  n.run (s.onTop below outer) = ((m.run s).1, (m.run s).2.onTop below outer)

theorem Commutes.bind {m n : Render α} {k l : α → Render β} {s : RenderState}
    (hm : Commutes below outer m n s)
    (hk : ∀ a s', m.run s = (.ok a, s') → Commutes below outer (k a) (l a) s') :
    Commutes below outer (m >>= k) (n >>= l) s := by
  unfold Commutes at hm ⊢
  rcases h : m.run s with ⟨stop | a, s'⟩
  · rw [h] at hm
    rw [run_bind_error h, run_bind_error hm]
  · rw [h] at hm
    rw [run_bind_ok h, run_bind_ok hm]
    exact hk a s' h

/-- Two states have the same layers, and as many frames. -/
structure Level (s s' : RenderState) : Prop where
  layers : s'.layers = s.layers
  frames : s'.frames.length = s.frames.length

theorem Level.refl (s : RenderState) : Level s s := ⟨rfl, rfl⟩

theorem Level.trans {s s' s'' : RenderState} (h : Level s s') (h' : Level s' s'') : Level s s'' :=
  ⟨h'.layers.trans h.layers, h'.frames.trans h.frames⟩

theorem frames_ne_nil {s s' : RenderState} (hs : s.frames ≠ [])
    (same : s'.frames.length = s.frames.length) : s'.frames ≠ [] := by
  rw [← List.length_pos_iff] at hs ⊢
  rw [same]
  exact hs

theorem Level.frames_ne_nil {s s' : RenderState} (h : Level s s') (hs : s.frames ≠ []) :
    s'.frames ≠ [] := Stencil.frames_ne_nil hs h.frames

/-- A computation does the same by itself as on top of others, and has its own layers and as many
frames at its end as at its start. -/
structure Isolated (below : List Layer) (outer : List Frame) (m n : Render α) : Prop where
  commutes : ∀ s, s.frames ≠ [] → Commutes below outer m n s
  level : ∀ s a s', s.frames ≠ [] → m.run s = (.ok a, s') → Level s s'

theorem Isolated.bind {m n : Render α} {k l : α → Render β} (hm : Isolated below outer m n)
    (hk : ∀ a, Isolated below outer (k a) (l a)) : Isolated below outer (m >>= k) (n >>= l) where
  commutes s hs :=
    (hm.commutes s hs).bind fun a s' h =>
      (hk a).commutes s' ((hm.level s a s' hs h).frames_ne_nil hs)
  level s b t hs h := by
    obtain ⟨a, s', hs', ht⟩ := bind_eq_ok h
    have first := hm.level s a s' hs hs'
    exact first.trans ((hk a).level s' b t (first.frames_ne_nil hs) ht)

theorem isolated_pure (a : α) : Isolated below outer (pure a : Render α) (pure a) where
  commutes _ _ := rfl
  level s b s' _ h := by
    cases h
    exact .refl s

theorem isolated_throw (stop : Stop) :
    Isolated below outer (throw stop : Render α) (throw stop) where
  commutes _ _ := rfl
  level _ _ _ _ h := by cases h

theorem isolated_results (below : List Layer) (outer : List Frame) :
    ResultCongruence fun m n => Isolated below outer m n where
  pure := isolated_pure
  throw _ := isolated_throw _
  bind := Isolated.bind

/-- Reasons to stop may be changed. -/
theorem Isolated.mapError {m n m' n' : Render α} {g : Stop → Stop} (h : Isolated below outer m n)
    (hm : ∀ s, m'.run s = ((m.run s).1.mapError g, (m.run s).2))
    (hn : ∀ s, n'.run s = ((n.run s).1.mapError g, (n.run s).2)) :
    Isolated below outer m' n' where
  commutes s hs := by
    have same := h.commutes s hs
    unfold Commutes at same ⊢
    rw [hn, same, hm]
  level s a s' hs h' := h.level s a s' hs (eq_ok_of_mapError (hm s) h')

/-- A computation that leaves layers and frames alone, and does not look at them. -/
theorem isolated_of_run {f : RenderState → Except Stop α} {g : RenderState → RenderState}
    {m : Render α} (hm : ∀ s, m.run s = (f s, g s)) (hf : ∀ s, f (s.onTop below outer) = f s)
    (hg : ∀ s, g (s.onTop below outer) = (g s).onTop below outer)
    (hl : ∀ s, Level s (g s)) : Isolated below outer m m where
  commutes s _ := by
    unfold Commutes
    rw [hm, hm, hf, hg]
  level s a s' _ h := by
    rw [hm] at h
    obtain ⟨-, rfl⟩ := Prod.mk.inj h
    exact hl s

theorem isolated_modify {g : RenderState → RenderState}
    (hg : ∀ s, g (s.onTop below outer) = (g s).onTop below outer) (hl : ∀ s, Level s (g s)) :
    Isolated below outer (modify g : Render PUnit) (modify g) :=
  isolated_of_run (f := fun _ => .ok ⟨⟩) (fun _ => rfl) (fun _ => rfl) hg hl

/-- A computation that reads the state gives what it gives on top of others. -/
theorem isolated_read {f : RenderState → Except Stop α} {m : Render α}
    (hm : ∀ s, m.run s = (f s, s)) (hf : ∀ s, f (s.onTop below outer) = f s) :
    Isolated below outer m m :=
  isolated_of_run hm hf (fun _ => rfl) .refl

/-! ## Steps -/

theorem isolated_evaluate (e : Engine) (source : String) (x : Expr) :
    Isolated below outer (evaluate e source x) (evaluate e source x) := by
  refine isolated_read (f := fun s => (x.evaluate (s.scope e) source).mapError stopOf)
    (fun s => ?_) fun s => ?_
  · show (lift (x.evaluate (s.scope e) source)).run s = _
    cases x.evaluate (s.scope e) source <;> rfl
  · rw [Expr.evaluate_congr (s.alike_onTop e source) x]

theorem isolated_arguments (e : Engine) (t : Template) (args : DirectiveArgs) :
    Isolated below outer (Step.arguments e t args) (Step.arguments e t args) := by
  refine isolated_read (f := fun s => (args.evaluate (s.scope e) t.source).mapError stopOf)
    (fun s => ?_) fun s => ?_
  · show (lift (args.evaluate (s.scope e) t.source)).run s = _
    cases args.evaluate (s.scope e) t.source <;> rfl
  · rw [DirectiveArgs.evaluate_congr (s.alike_onTop e t.source) args]

theorem isolated_record (event : Event) : Isolated below outer (record event) (record event) :=
  isolated_modify (fun _ => rfl) fun _ => ⟨rfl, rfl⟩

theorem isolated_bindVariable (name : String) (value : Value) :
    Isolated below outer (bindVariable name value) (bindVariable name value) where
  commutes s hs := by
    have frames : RenderState.modifyLast (Dict.insert name value) (outer ++ s.frames) = _ :=
      RenderState.modifyLast_append outer _ hs
    exact congrArg (fun f => (Except.ok (), { s.onTop below outer with frames := f })) frames
  level s a s' hs h := by
    cases h
    exact ⟨rfl, RenderState.length_modifyLast _ hs⟩

/-- A text is handed in the same way, since captures and output are no part of the scope. -/
theorem isolated_offer (text : String) : Isolated below outer (offer text) (offer text) where
  commutes s _ := by
    unfold Commutes
    have captures : (s.onTop below outer).captures = s.captures := rfl
    rw [run_offer, run_offer, captures]
    cases s.captures with
    | nil => rfl
    | cons c cs => rfl
  level s a s' _ h := by
    rw [run_offer] at h
    split at h
    · cases h
      exact ⟨rfl, rfl⟩
    · cases h
      exact ⟨rfl, rfl⟩

/-- The operations of a render are isolated. -/
theorem isolated_steps (below : List Layer) (outer : List Frame) :
    StepCongruence fun m n => Isolated below outer m n where
  toResultCongruence := isolated_results below outer
  named name hm := hm.mapError (run_named name _) (run_named name _)
  locatedAt source span hm :=
    hm.mapError (Step.run_locatedAt source span _) (Step.run_locatedAt source span _)
  evaluate := isolated_evaluate
  arguments := isolated_arguments
  view e origin :=
    isolated_read (f := fun s => .ok (s.view e origin)) (fun _ => rfl) fun _ => rfl
  write text := (isolated_results below outer).write_of_offer (isolated_offer text)
  offer := isolated_offer
  bindVariable := isolated_bindVariable
  respond _ := isolated_modify (fun _ => rfl) fun _ => ⟨rfl, rfl⟩
  setLimit query limit := by
    refine isolated_modify (fun s => ?_) fun s => ?_
    · have queries : (s.onTop below outer).queries = s.queries := rfl
      rw [queries]
      cases Dict.get? query s.queries <;> rfl
    · split
      · exact ⟨rfl, rfl⟩
      · exact ⟨rfl, rfl⟩

/-! ## The store and cached blocks -/

theorem isolated_call (c : StoreCall) (ask : List StoreCall → Except String α) :
    Isolated below outer (call c ask) (call c ask) :=
  isolated_of_run (run_call c ask) (fun _ => rfl) (fun _ => rfl) fun _ => ⟨rfl, rfl⟩

theorem isolated_ask (store : Option CacheStore) (c : StoreCall) :
    Isolated below outer (ask store c) (ask store c) := by
  cases store with
  | none => exact isolated_pure _
  | some st =>
    exact isolated_of_run (f := fun s => .ok (some (st.answer s.calls c)))
      (g := fun s => s.after [.called c]) (fun _ => rfl) (fun _ => rfl) (fun _ => rfl)
      fun _ => ⟨rfl, rfl⟩

theorem isolated_openBlock (pending : Option Pending) :
    Isolated below outer (openBlock pending) (openBlock pending) :=
  isolated_modify (fun _ => rfl) fun _ => ⟨rfl, rfl⟩

theorem isolated_closeBlock : Isolated below outer closeBlock closeBlock where
  commutes s _ := by
    unfold Commutes
    have blocks : (s.onTop below outer).blocks = s.blocks := rfl
    rw [run_closeBlock, run_closeBlock, blocks]
    cases s.blocks with
    | nil => rfl
    | cons b bs => rfl
  level s a s' _ h := by
    rw [run_closeBlock] at h
    split at h
    · cases h
    · cases h
      exact ⟨rfl, rfl⟩

/-- The markers of cached blocks are isolated. -/
theorem isolated_blocks (below : List Layer) (outer : List Frame) :
    BlockCongruence fun m n => Isolated below outer m n where
  toWriteCongruence := (isolated_steps below outer).toWriteCongruence
  locatedAt := (isolated_steps below outer).locatedAt
  arguments := isolated_arguments
  record := isolated_record
  call := isolated_call
  request hk := ⟨fun s hs => (hk s.request).commutes s hs,
    fun s a s' hs h => (hk s.request).level s a s' hs h⟩
  openBlock := isolated_openBlock
  closeBlock := isolated_closeBlock

/-! ## Loops -/

theorem commutes_modify {g : RenderState → RenderState} {s : RenderState}
    (h : g (s.onTop below outer) = (g s).onTop below outer) :
    Commutes below outer (modify g : Render PUnit) (modify g) s := by
  show (_, _) = (_, _)
  rw [h]
  rfl

/-- The rounds of a loop that has been entered do the same on top of others, and leave it. -/
theorem isolated_eachRound {m n : Render Unit} (hm : Isolated below outer m n) :
    ∀ (rounds : List Round) (s : RenderState) (l : Loop) (layers : List Layer),
      s.layers = .loop l :: layers → s.frames ≠ [] →
      Commutes below outer (eachRound m rounds) (eachRound n rounds) s ∧
        ∀ s', (eachRound m rounds).run s = (.ok (), s') →
          s'.layers = layers ∧ s'.frames.length = s.frames.length
  | [], s, l, layers, hs, _ => by
    refine ⟨commutes_modify ?_, fun s' h => ?_⟩
    · simp [RenderState.onTop, hs]
    · cases h
      exact ⟨by simp [hs], rfl⟩
  | r :: rs, s, l, layers, hs, hf => by
    -- the state in which the body of this round is run
    let s₁ : RenderState := { s with layers := .loop ⟨r, rs⟩ :: s.layers.drop 1 }
    have entered : (enterRound r rs).run s = (.ok (), s₁) := rfl
    have behind : ∀ s₂, m.run s₁ = (.ok (), s₂) →
        s₂.layers = .loop ⟨r, rs⟩ :: layers ∧ s₂.frames.length = s.frames.length ∧
          s₂.frames ≠ [] := by
      intro s₂ h₂
      have level := hm.level s₁ _ s₂ hf h₂
      refine ⟨?_, level.frames, level.frames_ne_nil hf⟩
      rw [level.layers]
      simp [s₁, hs]
    constructor
    · refine Commutes.bind (commutes_modify ?_) fun _ s' h => ?_
      · simp [RenderState.onTop, hs, Layer.shift]
      · cases h
        refine (hm.commutes s₁ hf).bind fun _ s₂ h₂ => ?_
        obtain ⟨layered, -, framed⟩ := behind s₂ h₂
        exact (isolated_eachRound hm rs s₂ _ layers layered framed).1
    · intro s' h
      obtain ⟨_, s₁', h₁, h⟩ := bind_eq_ok h
      cases entered.symm.trans h₁
      obtain ⟨_, s₂, h₂, h⟩ := bind_eq_ok h
      obtain ⟨layered, frames, framed⟩ := behind s₂ h₂
      obtain ⟨layered', frames'⟩ := (isolated_eachRound hm rs s₂ _ layers layered framed).2 s' h
      exact ⟨layered', frames'.trans frames⟩

/-- A loop is entered in the same way, and adds no frame. -/
theorem isolated_rounds (e : Engine) (t : Template) (vars : LoopVars) (x : Expr)
    (below : List Layer) (outer : List Frame) {s : RenderState} (hs : s.frames ≠ []) :
    Commutes below outer (Step.rounds e t vars x) (Step.rounds e t vars x) s ∧
      ∀ rs s', (Step.rounds e t vars x).run s = (.ok rs, s') →
        s'.frames.length = s.frames.length := by
  -- the value and its rounds are found in isolation; only then the loop is entered
  have found (v : Value) :=
    (isolated_steps below outer).lift (located t.source (vars.rounds v x.span))
  have valued := (isolated_steps below outer).evaluate e t.source x
  constructor
  · have inner : Commutes below outer
        (evaluate e t.source x >>= fun v => lift (located t.source (vars.rounds v x.span)) >>=
          fun rs => enterLoop rs >>= fun _ => pure rs)
        (evaluate e t.source x >>= fun v => lift (located t.source (vars.rounds v x.span)) >>=
          fun rs => enterLoop rs >>= fun _ => pure rs) s := by
      refine (valued.commutes s hs).bind fun v s₁ h₁ => ?_
      have hs₁ := (valued.level s v s₁ hs h₁).frames_ne_nil hs
      exact ((found v).commutes s₁ hs₁).bind fun rs s₂ _ =>
        (commutes_modify rfl).bind fun _ _ _ => rfl
    unfold Commutes at inner ⊢
    rw [Step.rounds, run_named, run_named, inner]
  · intro rs s' h
    obtain ⟨v, s₁, h₁, h⟩ := bind_eq_ok (named_eq_ok h)
    obtain ⟨rs', s₂, h₂, h⟩ := bind_eq_ok h
    obtain ⟨_, s₃, h₃, h⟩ := bind_eq_ok h
    cases h₃
    cases h
    have level := valued.level s v s₁ hs h₁
    exact (level.trans ((found v).level s₁ rs s₂ (level.frames_ne_nil hs) h₂)).frames

theorem isolated_loop (e : Engine) (t : Template) (vars : LoopVars) (x : Expr) {m n : Render Unit}
    (hm : Isolated below outer m n) :
    Isolated below outer (Step.rounds e t vars x >>= eachRound m)
      (Step.rounds e t vars x >>= eachRound n) where
  commutes s hs := by
    have entered := isolated_rounds e t vars x below outer hs
    refine entered.1.bind fun rs s₁ h₁ => ?_
    exact (isolated_eachRound hm rs s₁ _ s.layers (Step.layers_of_rounds e t h₁)
      (frames_ne_nil hs (entered.2 rs s₁ h₁))).1
  level s a s' hs h := by
    have entered := isolated_rounds e t vars x below outer hs
    obtain ⟨rs, s₁, h₁, h⟩ := bind_eq_ok h
    have frames := entered.2 rs s₁ h₁
    obtain ⟨layers', frames'⟩ := (isolated_eachRound hm rs s₁ _ s.layers
      (Step.layers_of_rounds e t h₁) (frames_ne_nil hs frames)).2 s' h
    exact ⟨layers', frames'.trans frames⟩

/-! ## Templates -/

/-- The state in which a template with the given variables begins, by itself. -/
def RenderState.inside (s : RenderState) (given : Value) : RenderState :=
  { s with layers := [.variables given 0], frames := [[]] }

/-- A template with variables of its own begins on top of all that is around it. -/
theorem run_enter (s : RenderState) (given : Value) :
    (enter given).run s = (.ok ⟨⟩, (s.inside given).onTop s.layers s.frames) := by
  simp [enter, RenderState.onTop, RenderState.inside, Layer.shift]

/-- Leaving a template with variables of its own brings back what is around it. -/
theorem run_leave {s' : RenderState} {layer : Layer} (hl : s'.layers = [layer])
    (hf : s'.frames.length = 1) (below : List Layer) (outer : List Frame) :
    leave.run (s'.onTop below outer) =
      (.ok ⟨⟩, { s' with layers := below, frames := outer }) := by
  obtain ⟨frame, hf⟩ := List.length_eq_one_iff.1 hf
  simp [leave, RenderState.onTop, hl, hf]

/-- What comes of rendering with variables of its own is what comes of it by itself, and what is
around stays as it is. -/
theorem run_within {m : Render Unit} (s : RenderState) (given : Value)
    (hm : Isolated s.layers s.frames m m) :
    (within given m).run s =
      match m.run (s.inside given) with
      | (.ok (), s') => (.ok (), { s' with layers := s.layers, frames := s.frames })
      | (.error stop, s') => (.error stop, s'.onTop s.layers s.frames) := by
  have framed : (s.inside given).frames ≠ [] := by simp [RenderState.inside]
  have same := hm.commutes (s.inside given) framed
  unfold Commutes at same
  rw [within, run_bind_ok (run_enter s given)]
  rcases h : m.run (s.inside given) with ⟨stop | ⟨⟩, s'⟩
  · rw [h] at same
    rw [run_bind_error same]
  · rw [h] at same
    have level := hm.level (s.inside given) () s' framed h
    rw [run_bind_ok same]
    exact run_leave level.layers level.frames s.layers s.frames

theorem isolated_within {m n : Render Unit} (given : Value) (hm : Isolated below outer m n) :
    Isolated below outer (within given m) (within given n) := by
  -- the state in which the template begins, and what is known of the state in which it ends
  let entered (s : RenderState) : RenderState :=
    { s with
      layers := .variables given s.frames.length :: .boundary :: s.layers
      frames := s.frames ++ [[]] }
  have framed (s : RenderState) : (entered s).frames ≠ [] := by simp [entered]
  constructor
  · intro s _
    refine Commutes.bind (commutes_modify ?_) fun _ s₁ h₁ => ?_
    · simp [RenderState.onTop, Layer.shift, Nat.add_comm]
    · cases h₁
      refine (hm.commutes (entered s) (framed s)).bind fun _ s₂ h₂ => commutes_modify ?_
      have level := hm.level (entered s) _ s₂ (framed s) h₂
      have frames : s₂.frames ≠ [] := level.frames_ne_nil (framed s)
      simp [RenderState.onTop, level.layers, entered, List.dropLast_append_of_ne_nil frames]
  · intro s _ s' _ h
    obtain ⟨_, s₁, h₁, h⟩ := bind_eq_ok h
    cases h₁
    obtain ⟨_, s₂, h₂, h⟩ := bind_eq_ok h
    have level := hm.level (entered s) _ s₂ (framed s) h₂
    cases h
    constructor
    · simp [level.layers, entered]
    · simp [level.frames, entered]

/-- Renders are isolated. -/
theorem isolated_renders (e : Engine) (below : List Layer) (outer : List Frame) :
    TreeCongruence e e.store e.store (fun _ => True) fun m n => Isolated below outer m n where
  toWriteCongruence := (isolated_steps below outer).toWriteCongruence
  halt := isolated_throw _
  perform t d _ :=
    (isolated_steps below outer).perform e (a := e.store) (b := e.store)
      (fun c _ => isolated_ask e.store c) t fun args => (d.run args).callsOnly_any
  loop t vars x _ _ hm := isolated_loop e t vars x hm
  within given _ _ hm := isolated_within given hm
  cached t start stop _ _ hm := (isolated_blocks below outer).cached e t start stop hm

theorem isolated_renderAt (e : Engine) (limit n : Nat) (t : Template) (below : List Layer)
    (outer : List Frame) : Isolated below outer (t.renderAt e limit n) (t.renderAt e limit n) :=
  (isolated_renders e below outer).renderAt (fun _ _ _ _ _ => trivial) limit n t
    fun _ _ => trivial

/-! ## Including templates -/

/-- A state without what names stand for in it. -/
def RenderState.unscoped (s : RenderState) : RenderState := { s with layers := [], frames := [] }

/-- The ways in which a template comes to be rendered with variables of its own: a statement names
it and gives it variables, a directive asks for it, or it is the first localized view that exists
where no resolver does. -/
inductive Includes (e : Engine) (visit : Template → Render Unit) (p : Template) (given : Value) :
    Render Unit → RenderState → Prop
  | statement (t : Template) {name : Ident} {x : Expr} {s : RenderState}
      (found : e.template? name.name = some p)
      (evaluated : (Step.given e t x).run s = (.ok given, s)) :
      Includes e visit p given (Stmt.render e visit t (.include name (some x))) s
  | directive (t : Template) (span : Span) {name : String} {s : RenderState}
      (found : e.template? name = some p) :
      Includes e visit p given (Stmt.follow e visit t span (.visit name given)) s
  | localized (t : Template) {d : Directive} {args : Args} {name view : String} {s : RenderState}
      (run : d.run = fun args => Directive.runLocalized args.values) (resolver : e.resolver = none)
      (arguments : (Step.arguments e t d.args).run s = (.ok args, s))
      (named : Localized.arguments args.values = .ok (name, given))
      (first : (Localized.candidates s.request.locale name).find?
        (fun c => (e.template? c).isSome) = some view)
      (found : e.template? view = some p) :
      Includes e visit p given (Stmt.render e visit t (.directive d)) s

section

variable {e : Engine} {visit : Template → Render Unit} {t p : Template} {given : Value}
  {m : Render Unit} {s : RenderState}

theorem run_target {name : String} {fault : RenderFault} {span : Span}
    (found : e.template? name = some p) (s : RenderState) :
    (Step.target e t name fault span).run s = (.ok p, s) := by
  rw [Step.target_eq, found]
  rfl

theorem run_follow_visit {name : String} {span : Span} (found : e.template? name = some p)
    (s : RenderState) :
    (Stmt.follow e visit t span (.visit name given)).run s = (within given (visit p)).run s := by
  rw [Stmt.follow, run_bind_ok (run_target found s)]

/-- The directive for localized views asks for the first one that exists, if nothing resolves
them. -/
theorem run_localized {args : Args} {name view : String} {origin : Origin}
    (resolver : e.resolver = none) (named : Localized.arguments args.values = .ok (name, given))
    (first : (Localized.candidates s.request.locale name).find?
      (fun c => (e.template? c).isSome) = some view) :
    ((Directive.runLocalized args.values).run e origin).run s = (.ok (.visit view given), s) := by
  have looked : (Render.view e origin).run s = (.ok (s.view e origin), s) := rfl
  have unresolved : (s.view e origin).resolver = none := resolver
  have found : (Localized.candidates (s.view e origin).request.locale name).find?
      (s.view e origin).hasTemplate = some view := first
  rw [Directive.runLocalized, named]
  refine (run_bind_ok looked).trans ?_
  simp only [Script.bind, unresolved, found]
  rfl

/-- In each of these ways, the template is rendered with variables of its own, and nothing else is
done. -/
theorem Includes.run_eq (h : Includes e visit p given m s) :
    m.run s = (within given (visit p)).run s := by
  cases h with
  | statement t found evaluated =>
    rw [Stmt.render, run_bind_ok evaluated, run_bind_ok (run_target found s)]
  | directive t span found => exact run_follow_visit found s
  | localized t run resolver arguments named first found =>
    rename_i d args name view
    have performed : (Step.perform e t d).run s = (.ok (.visit view given), s) := by
      rw [Step.perform, run_named, run_bind_ok arguments, Step.run_locatedAt, run,
        run_localized resolver named first]
      rfl
    rw [Stmt.render, run_bind_ok performed]
    exact run_follow_visit found s

end

/-- A template that is given variables of its own does the same wherever it stands: if two states
differ only in the variables and loops around it, it ends in both in the same way, with the same
texts, response, open blocks and calls to the store, or stops for the same reason. When it has
ended, the variables and loops around it are what they were before. -/
theorem Engine.run_includes_unscoped {e : Engine} {limit n : Nat} {p : Template} {given : Value}
    {m₁ m₂ : Render Unit} {s₁ s₂ : RenderState}
    (h₁ : Includes e (Template.renderAt e limit n) p given m₁ s₁)
    (h₂ : Includes e (Template.renderAt e limit n) p given m₂ s₂)
    (same : s₁.unscoped = s₂.unscoped) :
    (m₁.run s₁).1 = (m₂.run s₂).1 ∧
      (m₁.run s₁).2.unscoped = (m₂.run s₂).2.unscoped ∧
      ((m₁.run s₁).1 = .ok () →
        (m₁.run s₁).2.layers = s₁.layers ∧ (m₁.run s₁).2.frames = s₁.frames ∧
          (m₂.run s₂).2.layers = s₂.layers ∧ (m₂.run s₂).2.frames = s₂.frames) := by
  -- by itself, the template begins in the same state on both sides
  have inside : s₁.inside given = s₂.inside given := by
    show s₁.unscoped.inside given = s₂.unscoped.inside given
    rw [same]
  rw [h₁.run_eq, h₂.run_eq, run_within s₁ given (isolated_renderAt e limit n p _ _),
    run_within s₂ given (isolated_renderAt e limit n p _ _), inside]
  rcases (p.renderAt e limit n).run (s₂.inside given) with ⟨stop | ⟨⟩, s'⟩
  · exact ⟨rfl, rfl, nofun⟩
  · exact ⟨rfl, rfl, fun _ => ⟨rfl, rfl, rfl, rfl⟩⟩

/-- A template that writes the variable `x`. -/
def Template.writingX : Template where
  name := some "p"
  source := "x"
  body := [.output (.variable ⟨"x", ⟨0, 1⟩⟩ []) ⟨0, 1⟩]

/-- Neither a variable of the data nor one that is bound, nor a loop around it, is seen by a
template that is given another value for the name. -/
theorem Engine.run_includes_unscoped_writingX :
    let e : Engine := { Engine.new .standard with templates := [("p", .writingX)] }
    let given : Value := .map [("x", .text "inner")]
    let m₁ := Stmt.render e (Template.renderAt e 2 1) .writingX
      (.include ⟨"p", ⟨0, 0⟩⟩ (some (.literal given ⟨0, 0⟩)))
    let m₂ := Stmt.follow e (Template.renderAt e 2 1) .writingX ⟨0, 0⟩ (.visit "p" given)
    let s₁ := (Job.ofData .none).initial (.map [("x", .text "outer")])
    let s₂ : RenderState :=
      { s₁ with
        layers := .loop ⟨[(⟨0, 1⟩, .text "round")], []⟩ :: s₁.layers
        frames := [[("x", .text "bound")]] }
    Includes e (Template.renderAt e 2 1) .writingX given m₁ s₁ ∧
      Includes e (Template.renderAt e 2 1) .writingX given m₂ s₂ ∧
      s₁.unscoped = s₂.unscoped ∧
      (m₁.run s₁).2.output.text = "inner" ∧ (m₂.run s₂).2.output.text = "inner" ∧
      (m₂.run s₂).2.frames = s₂.frames := by
  intro e given m₁ m₂ s₁ s₂
  have h₁ : Includes e (Template.renderAt e 2 1) .writingX given m₁ s₁ :=
    .statement .writingX rfl rfl
  have h₂ : Includes e (Template.renderAt e 2 1) .writingX given m₂ s₂ :=
    .directive .writingX ⟨0, 0⟩ rfl
  have same := Engine.run_includes_unscoped h₁ h₂ rfl
  refine ⟨h₁, h₂, rfl, rfl, ?_, (same.2.2 rfl).2.2.2⟩
  exact (congrArg (fun s : RenderState => s.output.text) same.2.1).symm

end Stencil
