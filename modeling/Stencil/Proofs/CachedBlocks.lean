import Stencil.Proofs.Computation

/-!
# The markers of cached blocks

What the start and the end of a cached block do to a state, said for each of the ways they can go. A
block that is open when a body begins is there again when the body has ended.

- `Render.Silent`: a computation makes no call to the store.
- `Step.run_beginBlock_of_bypass`, `Step.run_beginBlock_of_consult`: the start of a block whose
  options have been read.
- `Step.run_endBlock_of_none`, `Step.calls_endBlock_of_some`: the end of a block.
- `Render.blocks_renderAll`, `Render.request_renderAll`: statements keep the open blocks and the
  request.
-/

namespace Stencil

/-! ## Computations without calls -/

namespace Render

variable {α β : Type} {m : Render α} {s : RenderState}

/-- A computation makes no call to the store, whether it stops or not. -/
def Silent (m : Render α) : Prop := ∀ s, (m.run s).2.calls = s.calls

theorem silent_pure (a : α) : Silent (pure a : Render α) := fun _ => rfl

theorem silent_throw (stop : Stop) : Silent (throw stop : Render α) := fun _ => rfl

theorem Silent.bind {k : α → Render β} (hm : Silent m) (hk : ∀ a, Silent (k a)) :
    Silent (m >>= k) := by
  intro s
  have first := hm s
  rcases h : m.run s with ⟨stop | a, s'⟩
  · rw [h] at first
    rw [run_bind_error h]
    exact first
  · rw [h] at first
    rw [run_bind_ok h, hk a s']
    exact first

theorem silent_offer (text : String) : Silent (offer text) := by
  intro s
  have calls : (s.after [.wrote text]).calls = s.calls := by simp
  rw [run_offer]
  split
  · exact calls
  · exact calls

theorem silent_write (text : String) : Silent (write text) := by
  refine (silent_offer text).bind fun accepted => ?_
  cases accepted with
  | true => exact silent_pure ()
  | false => exact silent_throw .outputFull

end Render

namespace Step

open Render

variable {e : Engine} {t : Template} {i : Invocation} {origin : Origin} {args : Args}
  {o : CacheOptions} {s s' : RenderState}

/-! ## Arguments -/

/-- The values of arguments are found without a change to the state. -/
theorem run_arguments (e : Engine) (t : Template) (args : DirectiveArgs) (s : RenderState) :
    (arguments e t args).run s =
      ((args.evaluate (s.scope e) t.source).mapError stopOf, s) := by
  show (get >>= fun s' : RenderState =>
    (pure (s'.scope e) : Render Scope) >>= fun sc => lift (args.evaluate sc t.source)).run s = _
  rw [run_get_bind, pure_bind]
  cases args.evaluate (s.scope e) t.source with
  | ok values => rfl
  | error f => rfl

/-- With its arguments known, a marker does what it does with them; only errors are changed. -/
theorem run_marker {α : Type} {m : Args → Render α}
    (h : i.args.evaluate (s.scope e) t.source = .ok args) :
    (named t.name (arguments e t i.args >>= fun args =>
        locatedAt t.source i.span (m args))).run s =
      ((((m args).run s).1.mapError (locateStop t.source i.span)).mapError (nameStop t.name),
        ((m args).run s).2) := by
  have found : (arguments e t i.args).run s = (.ok args, s) := by
    rw [run_arguments, h]
    rfl
  rw [run_named, run_bind_ok found, run_locatedAt]

/-- A marker that has been passed has done what it does. -/
theorem marker_eq_ok {α : Type} {m : Args → Render α} {a : α}
    (h : i.args.evaluate (s.scope e) t.source = .ok args)
    (passed : (named t.name (arguments e t i.args >>= fun args =>
        locatedAt t.source i.span (m args))).run s = (.ok a, s')) :
    (m args).run s = (.ok a, s') := by
  rw [run_marker h] at passed
  rcases done : (m args).run s with ⟨stop | b, s''⟩
  · rw [done] at passed
    cases passed
  · rw [done] at passed
    cases passed
    rfl

/-- A marker or a directive that has been passed has done what it does with some arguments. -/
theorem exists_arguments_of_ok {α : Type} {args : DirectiveArgs} {span : Span}
    {m : Args → Render α} {a : α}
    (passed : (named t.name (arguments e t args >>= fun args =>
        locatedAt t.source span (m args))).run s = (.ok a, s')) :
    ∃ args, (m args).run s = (.ok a, s') := by
  obtain ⟨values, s₀, found, done⟩ := bind_eq_ok (named_eq_ok passed)
  rw [run_arguments] at found
  obtain rfl : s = s₀ := congrArg Prod.snd found
  exact ⟨values, eq_ok_of_mapError (run_locatedAt t.source span _ s) done⟩

theorem run_startCached (h : i.args.evaluate (s.scope e) t.source = .ok args) :
    (startCached e t i).run s =
      ((((beginBlock e i.origin args).run s).1.mapError (locateStop t.source i.span)).mapError
        (nameStop t.name), ((beginBlock e i.origin args).run s).2) := run_marker h

theorem run_stopCached (h : i.args.evaluate (s.scope e) t.source = .ok args) :
    (stopCached e t i).run s =
      ((((endBlock e).run s).1.mapError (locateStop t.source i.span)).mapError (nameStop t.name),
        ((endBlock e).run s).2) := run_marker (m := fun _ => endBlock e) h

/-! ## The start of a block -/

/-- Options with a fault end the render before anything has happened. -/
theorem run_beginBlock_of_fault {f : Error} (h : CacheOptions.read args.values.head? = .error f) :
    (beginBlock e origin args).run s = (.error (.failed f), s) := by
  rw [beginBlock, h]
  rfl

/-- The block is opened without the store. -/
theorem run_beginBlock_of_bypass (h : CacheOptions.read args.values.head? = .ok o)
    (hb : ∀ st, e.store = some st → o.bypasses s.request = true) :
    (beginBlock e origin args).run s = bypass.run (s.after [.started origin o]) := by
  rw [beginBlock, h]
  cases hst : e.store with
  | none => rfl
  | some st =>
    have same : (s.after [.started origin o]).request = s.request := rfl
    simp only [mapError_ok, lift, pure_bind, record, run_modify_bind, run_get_bind, same,
      hb st hst, if_true]

/-- The store is asked for the text of the block. -/
theorem run_beginBlock_of_consult {st : CacheStore}
    (h : CacheOptions.read args.values.head? = .ok o) (hst : e.store = some st)
    (hb : o.bypasses s.request = false) :
    (beginBlock e origin args).run s =
      (consult st (.ofOptions origin o)).run (s.after [.started origin o]) := by
  have same : (s.after [.started origin o]).request = s.request := rfl
  rw [beginBlock, h]
  simp only [hst, mapError_ok, lift, pure_bind, record, run_modify_bind, run_get_bind, same,
    hb, Bool.false_eq_true, if_false]

/-- The first call is for the text of the block. -/
theorem calls_consult (st : CacheStore) (p : Pending) (s : RenderState) :
    ∃ more, ((consult st p).run s).2.calls = s.calls ++ .get p.key p.isGlobal :: more := by
  have asked := run_call (.get p.key p.isGlobal) (fun past => st.get past p.key p.isGlobal) s
  have calls : (s.after [.called (.get p.key p.isGlobal)]).calls =
      s.calls ++ [.get p.key p.isGlobal] := by simp
  cases answer : st.get s.calls p.key p.isGlobal with
  | error text =>
    rw [answer] at asked
    refine ⟨[], ?_⟩
    rw [consult, lookUp, run_bind_error asked]
    exact calls
  | ok found =>
    rw [answer] at asked
    rw [consult, lookUp, run_bind_ok asked]
    cases found with
    | some text =>
      have written := ((silent_write text).bind fun _ => silent_pure false)
        (s.after [.called (.get p.key p.isGlobal)])
      exact ⟨[], written.trans calls⟩
    | none =>
      -- the second call, whether the store fails at it or not
      have told := run_call (.start p.isGlobal) (fun past => st.start past p.isGlobal)
        (s.after [.called (.get p.key p.isGlobal)])
      have calls' : ((s.after [.called (.get p.key p.isGlobal)]).after
          [.called (.start p.isGlobal)]).calls =
          s.calls ++ [.get p.key p.isGlobal, .start p.isGlobal] := by simp
      refine ⟨[.start p.isGlobal], ?_⟩
      dsimp only
      cases answer' : st.start (s.after [.called (.get p.key p.isGlobal)]).calls p.isGlobal with
      | error text =>
        rw [answer'] at told
        rw [begin, run_bind_error told]
        exact calls'
      | ok _ =>
        rw [answer'] at told
        rw [begin, run_bind_ok told]
        exact calls'

/-- A block that is opened with the store will be kept as it was asked for. -/
theorem blocks_of_consult {st : CacheStore} {p : Pending} {opened : Bool}
    (h : (consult st p).run s = (.ok opened, s')) :
    s'.blocks = if opened then ⟨s.nextBlock, some p⟩ :: s.blocks else s.blocks := by
  obtain ⟨found, s₁, got, h⟩ := bind_eq_ok h
  have blocks : s₁.blocks = s.blocks := keeps_call structural_blocks _ _ _ _ _ got
  have next : s₁.nextBlock = s.nextBlock := keeps_call structural_nextBlock _ _ _ _ _ got
  cases found with
  | some text =>
    obtain ⟨_, s₂, written, h⟩ := bind_eq_ok h
    cases h
    rw [if_neg Bool.false_ne_true, ← blocks]
    exact (keeps_steps structural_blocks).write _ _ _ _ written
  | none =>
    obtain ⟨_, s₂, told, h⟩ := bind_eq_ok h
    cases h
    rw [if_pos rfl, ← blocks, ← next]
    show ⟨s₂.nextBlock, some p⟩ :: s₂.blocks = _
    rw [keeps_call structural_blocks _ _ _ _ _ told, keeps_call structural_nextBlock _ _ _ _ _ told]

/-- The start of a block opens one on top of those that are open, unless its body is left out. -/
theorem blocks_of_startCached {opened : Bool} (h : (startCached e t i).run s = (.ok opened, s')) :
    if opened then ∃ p, s'.blocks = ⟨s.nextBlock, p⟩ :: s.blocks else s'.blocks = s.blocks := by
  obtain ⟨args, h⟩ := exists_arguments_of_ok h
  cases hread : CacheOptions.read args.values.head? with
  | error f =>
    rw [run_beginBlock_of_fault hread] at h
    cases h
  | ok o =>
    cases hst : e.store with
    | none =>
      rw [run_beginBlock_of_bypass hread (by simp [hst])] at h
      cases h
      exact ⟨none, rfl⟩
    | some st =>
      cases hb : o.bypasses s.request with
      | true =>
        rw [run_beginBlock_of_bypass hread fun _ _ => hb] at h
        cases h
        exact ⟨none, rfl⟩
      | false =>
        rw [run_beginBlock_of_consult hread hst hb] at h
        have blocks := blocks_of_consult h
        cases opened with
        | true => exact ⟨_, blocks⟩
        | false => exact blocks

/-! ## The end of a block -/

/-- The text of a block of which nothing is to be kept is written, and that is all. -/
theorem run_endBlock_of_none (e : Engine) {id : Nat} {bs : List Block}
    (h : s.blocks = ⟨id, none⟩ :: bs) :
    (endBlock e).run s =
      (write (s.captures.head?.getD "")).run ((s.closed bs).after [.stopped]) := by
  have closed := run_closeBlock s
  rw [h] at closed
  rw [endBlock, run_bind_ok closed]

theorem calls_endBlock_of_none {id : Nat} {bs : List Block} (h : s.blocks = ⟨id, none⟩ :: bs) :
    ((endBlock e).run s).2.calls = s.calls := by
  have calls : ((s.closed bs).after [.stopped]).calls = s.calls := by
    rw [RenderState.calls_after, History.calls_cons_stopped, History.calls_nil, List.append_nil]
    rfl
  rw [run_endBlock_of_none e h]
  exact (silent_write _ _).trans calls

/-- The text of a block is kept as it was decided at its start. -/
theorem calls_endBlock_of_some {st : CacheStore} {id : Nat} {p : Pending} {bs : List Block}
    (hst : e.store = some st) (h : s.blocks = ⟨id, some p⟩ :: bs) :
    ((endBlock e).run s).2.calls = s.calls ++ [.put (p.entry (s.captures.head?.getD ""))] := by
  have closed := run_closeBlock s
  rw [h] at closed
  let s₁ := (s.closed bs).after [.stopped]
  let entry := p.entry (s.captures.head?.getD "")
  have calls : (s₁.after [.called (.put entry)]).calls = s.calls ++ [.put entry] := by
    simp only [s₁, RenderState.calls_after, History.calls_cons_stopped, History.calls_nil,
      List.append_nil, History.calls_cons_called]
    rfl
  have kept := run_call (.put entry) (fun past => st.put past entry) s₁
  rw [endBlock, run_bind_ok closed]
  simp only [hst, keep]
  cases answer : st.put s₁.calls entry with
  | error text =>
    rw [answer] at kept
    rw [run_bind_error kept]
    exact calls
  | ok _ =>
    rw [answer] at kept
    rw [run_bind_ok kept]
    exact (silent_write _ _).trans calls

/-- The end of a block closes the innermost one. -/
theorem blocks_of_stopCached (h : (stopCached e t i).run s = (.ok (), s')) :
    ∃ b, s.blocks = b :: s'.blocks := by
  obtain ⟨-, h⟩ := exists_arguments_of_ok (m := fun _ => endBlock e) h
  obtain ⟨⟨pending, text⟩, s₁, hclosed, h⟩ := bind_eq_ok h
  -- what is kept and written when the block has been closed leaves the others open
  have behind : s'.blocks = s₁.blocks := by
    dsimp only at h
    split at h
    · obtain ⟨_, s₂, hkept, h⟩ := bind_eq_ok h
      rw [← keeps_call structural_blocks _ _ _ _ _ hkept]
      exact (keeps_steps structural_blocks).write _ _ _ _ h
    · exact (keeps_steps structural_blocks).write _ _ _ _ h
  rw [run_closeBlock] at hclosed
  cases hs : s.blocks with
  | nil =>
    rw [hs] at hclosed
    cases hclosed
  | cons b bs =>
    rw [hs] at hclosed
    cases hclosed
    exact ⟨b, congrArg (b :: ·) behind.symm⟩

end Step

/-! ## Bodies -/

namespace Render

/-- A block in which some body is rendered is closed again when the body has ended. -/
theorem keeps_blocks_cached (e : Engine) (t : Template) (start stop : Invocation)
    {m : Render Unit} (hm : Keeps RenderState.blocks m) :
    Keeps RenderState.blocks (Step.cached e t start stop m) := by
  intro s a s' h
  obtain ⟨opened, s₁, started, h⟩ := bind_eq_ok h
  have first := Step.blocks_of_startCached started
  cases opened with
  | false =>
    cases h
    exact first
  | true =>
    obtain ⟨p, first⟩ := first
    obtain ⟨_, s₂, body, stopped⟩ := bind_eq_ok h
    obtain ⟨b, last⟩ := Step.blocks_of_stopCached stopped
    have kept : s₂.blocks = s₁.blocks := hm _ _ _ body
    rw [last, first] at kept
    exact (List.cons.inj kept).2

/-- Rendering keeps the open blocks. -/
theorem blocks_renders (e : Engine) :
    RenderCongruence e e.store e.store fun m _ => Keeps RenderState.blocks m where
  toStepCongruence := keeps_steps structural_blocks
  halt := keeps_throw _
  enterLoop _ := keeps_modify fun _ => rfl
  enterRound _ _ := keeps_modify fun _ => rfl
  leaveLoop := keeps_modify fun _ => rfl
  enter _ := keeps_modify fun _ => rfl
  leave := keeps_modify fun _ => rfl
  cached t start stop _ _ hm := keeps_blocks_cached e t start stop hm

/-- Rendering keeps the request. -/
theorem request_renders (e : Engine) :
    RenderCongruence e e.store e.store fun m _ => Keeps RenderState.request m where
  toStepCongruence := keeps_steps unblocked_request.structural
  halt := keeps_throw _
  enterLoop _ := keeps_modify fun _ => rfl
  enterRound _ _ := keeps_modify fun _ => rfl
  leaveLoop := keeps_modify fun _ => rfl
  enter _ := keeps_modify fun _ => rfl
  leave := keeps_modify fun _ => rfl
  cached t start stop _ n hm := (keeps_blocks unblocked_request).cached (n := n) e t start stop hm

/-- What the parts of statements keep is kept by the statements of a template, whatever directives
do. -/
theorem keeps_renderAll {γ : Type} {f : RenderState → γ} (hf : Structural f) {e : Engine}
    (h : RenderCongruence e e.store e.store fun m _ => Keeps f m) (limit n : Nat) (t : Template)
    (body : List Stmt) : Keeps f (Stmt.renderAll e (Template.renderAt e limit n) t body) := by
  have tree : TreeCongruence e e.store e.store (fun _ => True) fun m _ => Keeps f m :=
    h.tree_of_perform fun t d _ => Step.keeps_perform hf e t d
  have visits : ∀ name u, e.template? name = some u →
      Keeps f (Template.renderAt e limit n u) :=
    fun _ u _ => tree.renderAt (fun _ _ _ _ _ => trivial) limit n u fun _ _ => trivial
  exact @TreeCongruence.renderAll _ e e.store e.store _ tree _ (Template.renderAt e limit n) visits
    t body fun _ _ => trivial

/-- Statements leave the blocks open that were open before. -/
theorem blocks_renderAll (e : Engine) (limit n : Nat) (t : Template) (body : List Stmt) :
    Keeps RenderState.blocks (Stmt.renderAll e (Template.renderAt e limit n) t body) :=
  keeps_renderAll structural_blocks (blocks_renders e) limit n t body

/-- The request is the same throughout a render. -/
theorem request_renderAll (e : Engine) (limit n : Nat) (t : Template) (body : List Stmt) :
    Keeps RenderState.request (Stmt.renderAll e (Template.renderAt e limit n) t body) :=
  keeps_renderAll unblocked_request.structural (request_renders e) limit n t body

end Render

end Stencil
