import Stencil.Program.Machine
import Stencil.Proofs.Brackets
import Stencil.Proofs.Computation

/-!
# The steps of the machine

What a step of the machine does to the stacks of a render: the layers of variables, the frames, the
captures and the open blocks. Most steps leave all of them alone; what the others do is said once
here, also for a step that stops.

- `Skeleton`: the stacks of a render, without the texts and values in them.
- `Render.Preserves`: a computation leaves the skeleton alone, whether it stops or not.
- `Machine.Transition`: what a step does to the activations and the skeleton.
- `Machine.Abandoned`: what a step that stops may have done to the skeleton.
- `Machine.ends_step`: every step does one of these.
-/

namespace Stencil

/-- The stacks of a render: the heights of those whose items do not matter, and the others. -/
structure Skeleton where
  layers : List Layer
  frames : Nat
  captures : Nat
  blocks : List Block
  nextBlock : Nat

namespace Skeleton

/-- The skeleton in a template with variables of its own. -/
def enter (given : Value) (k : Skeleton) : Skeleton :=
  { k with layers := .variables given k.frames :: .boundary :: k.layers, frames := k.frames + 1 }

/-- The skeleton when such a template has been left. -/
def leave (k : Skeleton) : Skeleton :=
  { k with layers := k.layers.drop 2, frames := k.frames - 1 }

/-- The skeleton with another layer for the innermost loop, or without it. -/
def withLoop (loop : List Layer) (k : Skeleton) : Skeleton :=
  { k with layers := loop ++ k.layers.drop 1 }

/-- The skeleton in a loop before its first round. -/
def enterLoop (rounds : List Round) (k : Skeleton) : Skeleton :=
  { k with layers := .loop ⟨[], rounds⟩ :: k.layers }

/-- The skeleton in another cached block. -/
def openBlock (pending : Option Pending) (k : Skeleton) : Skeleton :=
  { k with
    blocks := ⟨k.nextBlock, pending⟩ :: k.blocks
    nextBlock := k.nextBlock + 1
    captures := k.captures + 1 }

/-- The skeleton when the innermost block has been closed, given the others. -/
def closeBlock (others : List Block) (k : Skeleton) : Skeleton :=
  { k with blocks := others, captures := k.captures - 1 }

end Skeleton

/-- The stacks of a state. -/
def RenderState.skeleton (s : RenderState) : Skeleton :=
  ⟨s.layers, s.frames.length, s.captures.length, s.blocks, s.nextBlock⟩

@[simp] theorem RenderState.skeleton_after (s : RenderState) (w : List Event) :
    (s.after w).skeleton = s.skeleton := rfl

theorem RenderState.skeleton_closed (s : RenderState) (others : List Block) :
    (s.closed others).skeleton = s.skeleton.closeBlock others := by
  simp [skeleton, closed, Skeleton.closeBlock]

/-! ## Computations that leave the skeleton alone -/

namespace Render

variable {α β : Type}

/-- A computation leaves the skeleton alone, whether it stops or not. There is always a frame in
which variables can be bound. -/
def Preserves (m : Render α) : Prop :=
  ∀ s, 0 < s.skeleton.frames → (m.run s).2.skeleton = s.skeleton

theorem Preserves.bind {m : Render α} {k : α → Render β} (hm : Preserves m)
    (hk : ∀ a, Preserves (k a)) : Preserves (m >>= k) := by
  intro s hs
  have first := hm s hs
  rcases h : m.run s with ⟨stop | a, s'⟩
  · rw [h] at first
    rw [run_bind_error h]
    exact first
  · rw [h] at first
    rw [run_bind_ok h, hk a s' (first ▸ hs)]
    exact first

theorem preserves_pure (a : α) : Preserves (pure a : Render α) := fun _ _ => rfl

theorem preserves_throw (stop : Stop) : Preserves (throw stop : Render α) := fun _ _ => rfl

theorem preserves_get : Preserves get := fun _ _ => rfl

theorem preserves_modify {g : RenderState → RenderState} (hg : ∀ s, (g s).skeleton = s.skeleton) :
    Preserves (modify g : Render PUnit) := fun s _ => hg s

theorem preserves_results : ResultCongruence fun m _ => Preserves m where
  pure := preserves_pure
  throw _ := preserves_throw _
  bind := Preserves.bind

theorem preserves_record (event : Event) : Preserves (record event) := fun _ _ => rfl

theorem preserves_bindVariable (name : String) (value : Value) :
    Preserves (bindVariable name value) := by
  intro s hs
  have frames : (RenderState.modifyLast (Dict.insert name value) s.frames).length =
      s.frames.length := RenderState.length_modifyLast _ (List.length_pos_iff.1 hs)
  exact congrArg (fun n => { s.skeleton with frames := n }) frames

theorem preserves_offer (text : String) : Preserves (offer text) := by
  intro s _
  rw [run_offer]
  split
  · next c cs captures => simp [RenderState.skeleton, captures, RenderState.after]
  · rfl

theorem preserves_call (c : StoreCall) (ask : List StoreCall → Except String α) :
    Preserves (call c ask) := by
  intro s _
  rw [run_call]
  rfl

theorem preserves_ask (store : Option CacheStore) (c : StoreCall) : Preserves (ask store c) := by
  cases store with
  | none => exact preserves_pure _
  | some st => exact preserves_get.bind fun _ => (preserves_record _).bind fun _ => preserves_pure _

/-- The steps of a render leave the skeleton alone. -/
theorem preserves_steps : StepCongruence fun m _ => Preserves m where
  toResultCongruence := preserves_results
  named name hm := fun s hs => by
    rw [run_named]
    exact hm s hs
  locatedAt source span hm := fun s hs => by
    rw [Step.run_locatedAt]
    exact hm s hs
  evaluate e _ _ := preserves_results.reading e (preserves_get.bind fun _ => preserves_pure _) _
  arguments e _ _ := preserves_results.reading e (preserves_get.bind fun _ => preserves_pure _) _
  view _ _ := preserves_get.bind fun _ => preserves_pure _
  write text := preserves_results.write_of_offer (preserves_offer text)
  offer := preserves_offer
  bindVariable := preserves_bindVariable
  respond _ := preserves_modify fun _ => rfl
  setLimit _ _ := preserves_modify fun _ => by
    split
    · rfl
    · rfl

/-! ## Computations that change the skeleton -/

/-- From a skeleton, a computation leads to skeletons of one kind, or stops with one of another. -/
def Leads (m : Render α) (k : Skeleton) (good : α → Skeleton → Prop) (bad : Skeleton → Prop) :
    Prop :=
  ∀ s : RenderState, s.skeleton = k →
    Ends m s (fun a s' => good a s'.skeleton) (fun _ s' => bad s'.skeleton)

section

variable {m : Render α} {f : α → Render β} {k : Skeleton} {good : α → Skeleton → Prop}
  {good' : β → Skeleton → Prop} {bad : Skeleton → Prop}

theorem Leads.imp {good' : α → Skeleton → Prop} {bad' : Skeleton → Prop} (h : Leads m k good bad)
    (hgood : ∀ a k', good a k' → good' a k') (hbad : ∀ k', bad k' → bad' k') :
    Leads m k good' bad' :=
  fun s hs => (h s hs).imp (fun a _ h => hgood a _ h) fun _ _ h => hbad _ h

theorem Leads.bind (hm : Leads m k good bad) (hf : ∀ a k', good a k' → Leads (f a) k' good' bad) :
    Leads (m >>= f) k good' bad :=
  fun s hs => (hm s hs).bind fun a s' h => hf a s'.skeleton h s' rfl

theorem Leads.named (name : Option String) (h : Leads m k good bad) :
    Leads (named name m) k good bad :=
  fun s hs => (h s hs).named fun _ _ h => h

theorem Leads.locatedAt (source : String) (span : Span) (h : Leads m k good bad) :
    Leads (Step.locatedAt source span m) k good bad :=
  fun s hs => (h s hs).locatedAt fun _ _ h => h

theorem Leads.pure {a : α} (h : good a k) : Leads (pure a : Render α) k good bad := by
  rintro s rfl
  exact h

theorem Leads.throw (stop : Stop) (h : bad k) : Leads (throw stop : Render α) k good bad := by
  rintro s rfl
  exact h

theorem leads_modify {g : RenderState → RenderState} (change : Skeleton → Skeleton)
    (hg : ∀ s, (g s).skeleton = change s.skeleton) :
    Leads (modify g : Render PUnit) k (fun _ k' => k' = change k) bad := by
  rintro s rfl
  exact hg s

theorem Preserves.leads (h : Preserves m) (hk : 0 < k.frames) :
    Leads m k (fun _ k' => k' = k) (fun k' => k' = k) := by
  rintro s rfl
  have same := h s hk
  unfold Ends
  split
  · next run =>
    rw [run] at same
    exact same
  · next run =>
    rw [run] at same
    exact same

/-- What is done after a computation that leaves the skeleton alone starts from the same one. -/
theorem Preserves.leads_bind (h : Preserves m) (hk : 0 < k.frames) (hbad : bad k)
    (hf : ∀ a, Leads (f a) k good' bad) : Leads (m >>= f) k good' bad := by
  intro s hs
  refine (h.leads hk s hs).seq ?_ ?_
  · rintro stop s' rfl
    exact hbad
  · intro a s' hs'
    exact hf a s' hs'

end

end Render

/-! ## Loops and cached blocks -/

namespace Step

open Render

variable (e : Engine) (t : Template) {k : Skeleton}

/-- Whatever a directive does, it leaves the skeleton alone. -/
theorem preserves_perform (d : Directive) : Preserves (perform e t d) :=
  preserves_steps.perform e (a := e.store) (b := e.store) (fun c _ => preserves_ask e.store c) t
    fun args => (d.run args).callsOnly_any

/-- A loop is entered before its first round. -/
theorem leads_rounds (hk : 0 < k.frames) (vars : LoopVars) (x : Expr) :
    Leads (rounds e t vars x) k (fun rs k' => k' = k.enterLoop rs) (fun k' => k' = k) := by
  refine Leads.named t.name ((preserves_steps.evaluate e t.source x).leads_bind hk rfl fun v => ?_)
  refine (preserves_steps.lift _).leads_bind hk rfl fun rs => ?_
  exact (leads_modify (Skeleton.enterLoop rs) fun _ => rfl).bind fun _ _ h => .pure h

/-- What the start of a cached block comes to: the block is open if its body is to be rendered. -/
def Started (k : Skeleton) (opened : Bool) (k' : Skeleton) : Prop :=
  (opened = true ∧ ∃ p, k' = k.openBlock p) ∨ (opened = false ∧ k' = k)

theorem leads_openBlock (pending : Option Pending) :
    Leads (openBlock pending >>= fun _ => pure true) k (Started k) (fun k' => k' = k) := by
  refine (leads_modify (Skeleton.openBlock pending) fun _ => rfl).bind ?_
  rintro _ _ rfl
  exact .pure (.inl ⟨rfl, pending, rfl⟩)

theorem leads_consult (hk : 0 < k.frames) (store : CacheStore) (p : Pending) :
    Leads (consult store p) k (Started k) (fun k' => k' = k) := by
  refine (preserves_call _ _).leads_bind hk rfl fun found => ?_
  cases found with
  | some text =>
    exact (preserves_steps.write text).leads_bind hk rfl fun _ => .pure (.inr ⟨rfl, rfl⟩)
  | none => exact (preserves_call _ _).leads_bind hk rfl fun _ => leads_openBlock (some p)

theorem leads_beginBlock (hk : 0 < k.frames) (origin : Origin) (args : Args) :
    Leads (beginBlock e origin args) k (Started k) (fun k' => k' = k) := by
  refine (preserves_steps.lift _).leads_bind hk rfl fun o => ?_
  refine (preserves_record _).leads_bind hk rfl fun _ => ?_
  split
  · exact leads_openBlock none
  · refine preserves_get.leads_bind hk rfl fun s => ?_
    split
    · exact leads_openBlock none
    · exact leads_consult hk _ _

/-- A cached block is opened if its body is to be rendered. -/
theorem leads_startCached (hk : 0 < k.frames) (i : Invocation) :
    Leads (startCached e t i) k (Started k) (fun k' => k' = k) := by
  refine Leads.named t.name
    ((preserves_steps.arguments e t i.args).leads_bind hk rfl fun args => ?_)
  exact Leads.locatedAt t.source i.span (leads_beginBlock e hk i.origin args)

/-- The innermost block is closed. -/
def Stopped (k : Skeleton) (k' : Skeleton) : Prop :=
  ∃ b bs, k.blocks = b :: bs ∧ k' = k.closeBlock bs

theorem leads_closeBlock :
    Leads closeBlock k (fun _ k' => Stopped k k') (fun k' => k' = k) := by
  rintro s rfl
  rw [Ends, run_closeBlock]
  cases h : s.blocks with
  | nil => rfl
  | cons b bs => exact ⟨b, bs, h, s.skeleton_closed bs⟩

theorem leads_endBlock (hk : 0 < k.frames) :
    Leads (endBlock e) k (fun _ k' => Stopped k k') (fun k' => k' = k ∨ Stopped k k') := by
  refine (leads_closeBlock.imp (fun _ _ h => h) fun _ h => .inl h).bind ?_
  rintro ⟨pending, body⟩ _ ⟨b, bs, hb, rfl⟩
  have closed : Stopped k (k.closeBlock bs) := ⟨b, bs, hb, rfl⟩
  have hk' : 0 < (k.closeBlock bs).frames := hk
  -- the text is kept and written when the block has been closed
  refine (Preserves.leads ?_ hk').imp ?_ ?_
  · dsimp only
    split
    · exact (preserves_call _ _).bind fun _ => preserves_steps.write body
    · exact preserves_steps.write body
  · rintro _ _ rfl
    exact closed
  · rintro _ rfl
    exact .inr closed

/-- A cached block is closed, unless its arguments fail. -/
theorem leads_stopCached (hk : 0 < k.frames) (i : Invocation) :
    Leads (stopCached e t i) k (fun _ k' => Stopped k k') (fun k' => k' = k ∨ Stopped k k') := by
  refine Leads.named t.name
    ((preserves_steps.arguments e t i.args).leads_bind hk (.inl rfl) fun args => ?_)
  exact Leads.locatedAt t.source i.span (leads_endBlock e hk)

end Step

/-! ## Steps of the machine -/

namespace Machine

open Render

variable (e : Engine) (limit : Nat)

/-- What a step may do: where the machine goes on, and with which stacks. Loops and cached blocks
are open there as the step leaves them. -/
inductive Transition (a : Activation) (rest : List Activation) (k : Skeleton) :
    List Activation → Skeleton → Prop
  /-- The step changes none of the stacks. -/
  | pass (p : Nat) (hp : p ≤ a.code.length)
      (same : a.template.openAt p = a.template.openAt a.position) :
      Transition a rest k (a.goTo p :: rest) k
  | enterLoop (vars : LoopVars) (x : Expr) (rounds : List Round)
      (hp : a.next? = some (.loop vars x))
      (opened : a.template.openAt (a.position + 1) =
        .loop (a.position + 1) :: a.template.openAt a.position) :
      Transition a rest k (a.advance :: rest) (k.enterLoop rounds)
  | enterRound (target : Nat) (l : Loop) (hp : a.next? = some (.round target))
      (opened : a.template.openAt a.position = .loop a.position :: a.template.openAt target)
      (same : a.template.openAt (a.position + 1) = a.template.openAt a.position) :
      Transition a rest k (a.advance :: rest) (k.withLoop [.loop l])
  | leaveLoop (target : Nat) (hp : target ≤ a.code.length)
      (closed : a.template.openAt a.position = .loop a.position :: a.template.openAt target) :
      Transition a rest k (a.goTo target :: rest) (k.withLoop [])
  | openBlock (pending : Option Pending) (hp : a.position + 1 ≤ a.code.length)
      (opened : a.template.openAt (a.position + 1) =
        .cached :: a.template.openAt a.position) :
      Transition a rest k (a.advance :: rest) (k.openBlock pending)
  | closeBlock (b : Block) (bs : List Block) (hp : a.position + 1 ≤ a.code.length)
      (closed : a.template.openAt a.position = .cached :: a.template.openAt (a.position + 1))
      (hb : k.blocks = b :: bs) :
      Transition a rest k (a.advance :: rest) (k.closeBlock bs)
  /-- Another template becomes active, with variables of its own or without. -/
  | visit (u : Template) (code : List Instr) (hu : u.program? = some code)
      (hp : a.position + 1 ≤ a.code.length)
      (same : a.template.openAt (a.position + 1) = a.template.openAt a.position) :
      Transition a rest k (⟨u, code, 0, false⟩ :: a.advance :: rest) k
  | visitWithin (u : Template) (code : List Instr) (given : Value) (hu : u.program? = some code)
      (hp : a.position + 1 ≤ a.code.length)
      (same : a.template.openAt (a.position + 1) = a.template.openAt a.position) :
      Transition a rest k (⟨u, code, 0, true⟩ :: a.advance :: rest) (k.enter given)
  /-- The program has come to its end. -/
  | finish (hp : a.next? = none) :
      Transition a rest k rest (if a.isScoped then k.leave else k)

/-- What a step that stops may have done before. -/
inductive Abandoned (k : Skeleton) : Skeleton → Prop
  | same : Abandoned k k
  | entered (given : Value) : Abandoned k (k.enter given)
  | closed (b : Block) (bs : List Block) (hb : k.blocks = b :: bs) : Abandoned k (k.closeBlock bs)

section

variable {k k' : Skeleton} {a : Activation} {rest : List Activation}

/-- A template becomes active, unless too many are. -/
theorem leads_activate (u : Template) (isScoped : Bool) (stack : List Activation)
    {bad : Skeleton → Prop} (hbad : bad k) :
    Leads (activate limit u isScoped stack) k
      (fun stack' k' => ∃ code, u.program? = some code ∧
        stack' = ⟨u, code, 0, isScoped⟩ :: stack ∧ k' = k) bad := by
  unfold activate
  split
  · exact .throw _ hbad
  unfold place
  split
  · next code hu => exact .pure ⟨code, hu, rfl, rfl⟩
  · exact .throw _ hbad

/-- Another template becomes active and is given variables of its own. -/
theorem leads_enter_activate (hp : a.position + 1 ≤ a.code.length)
    (same : a.template.openAt (a.position + 1) = a.template.openAt a.position) (u : Template)
    (given : Value) :
    Leads (do enter given; activate limit u true (a.advance :: rest)) k (Transition a rest k)
      (Abandoned k) := by
  refine (leads_modify (Skeleton.enter given) fun s => ?_).bind ?_
  · simp [RenderState.skeleton, Skeleton.enter]
  rintro ⟨⟩ _ rfl
  refine (leads_activate limit u true _ (.entered given)).imp ?_ fun _ h => h
  rintro _ _ ⟨code, hu, rfl, rfl⟩
  exact .visitWithin u code given hu hp same

/-- Whatever a directive says, the machine goes on behind it. -/
theorem leads_follow (hk : 0 < k.frames) (hp : a.position + 1 ≤ a.code.length)
    (same : a.template.openAt (a.position + 1) = a.template.openAt a.position) (span : Span) :
    ∀ flow, Leads (follow e limit a.template span flow (a.advance :: rest)) k (Transition a rest k)
      (Abandoned k)
  | .next => .pure (.pass _ hp same)
  | .skip => .pure (.pass _ hp same)
  | .halt => .throw _ .same
  | .visit _ given =>
    (preserves_steps.target e _ _ _ _).leads_bind hk .same fun u =>
      leads_enter_activate limit hp same u given

/-- A step that leaves the stacks alone goes on at a place where the same is open. -/
theorem leads_pass {α : Type} {m : Render α} (hm : Preserves m) (hk : 0 < k.frames)
    (p : α → Nat) (hp : ∀ x, p x ≤ a.code.length ∧
      a.template.openAt (p x) = a.template.openAt a.position) :
    Leads (m >>= fun x => pure (a.goTo (p x) :: rest)) k (Transition a rest k) (Abandoned k) :=
  hm.leads_bind hk .same fun x => .pure (.pass _ (hp x).1 (hp x).2)

/-- An instruction does one of the things that a step may do. -/
theorem leads_execute (hk : 0 < k.frames) (hp : a.position + 1 ≤ a.code.length) :
    ∀ {i : Instr}, a.next? = some i → i.Fits a.template.openAt a.code.length a.position →
      Leads (execute e limit a rest i) k (Transition a rest k) (Abandoned k)
  | .raw _, _, fits => leads_pass (preserves_steps.raw _ _) hk _ fun _ => ⟨hp, fits⟩
  | .print _, _, fits => leads_pass (preserves_steps.print e _ _) hk _ fun _ => ⟨hp, fits⟩
  | .pipe _ _ _, _, fits => leads_pass (preserves_steps.pipe e _ _ _ _) hk _ fun _ => ⟨hp, fits⟩
  | .include _ none, _, fits => by
    refine (preserves_steps.target e _ _ _ _).leads_bind hk .same fun u => ?_
    refine (leads_activate limit u false _ .same).imp ?_ fun _ h => h
    rintro _ _ ⟨code, hu, rfl, rfl⟩
    exact .visit u code hu hp fits
  | .include _ (some _), _, fits => by
    refine (preserves_steps.given e _ _).leads_bind hk .same fun given => ?_
    refine (preserves_steps.target e _ _ _ _).leads_bind hk .same fun u => ?_
    exact leads_enter_activate limit hp fits u given
  | .jump _, _, fits => .pure (.pass _ fits.1 fits.2)
  | .branch _ _ _, _, ⟨htarget, jumped, passed⟩ => by
    refine (preserves_steps.test e _ _).leads_bind hk .same fun b => .pure ?_
    split
    · exact .pass _ hp passed
    · exact .pass _ htarget jumped
  | .loop vars x, hi, fits => by
    refine ((Step.leads_rounds e _ hk vars x).imp (fun _ _ h => h) ?_).bind ?_
    · rintro _ rfl
      exact .same
    · rintro rounds _ rfl
      exact .pure (.enterLoop vars x rounds hi fits)
  | .round target, hi, ⟨htarget, opened, same⟩ => by
    refine preserves_get.leads_bind hk .same fun s => ?_
    split
    · refine (leads_modify (Skeleton.withLoop []) fun _ => rfl).bind ?_
      rintro ⟨⟩ _ rfl
      exact .pure (.leaveLoop target htarget opened)
    · next r rs _ =>
      refine (leads_modify (Skeleton.withLoop [.loop ⟨r, rs⟩]) fun _ => rfl).bind ?_
      rintro ⟨⟩ _ rfl
      exact .pure (.enterRound target _ hi opened same)
  | .directive d, _, fits =>
    (Step.preserves_perform e _ d).leads_bind hk .same fun flow =>
      leads_follow e limit hk hp fits d.span flow
  | .start d _, _, ⟨htarget, skipped, same⟩ => by
    refine (Step.preserves_perform e _ d).leads_bind hk .same fun flow => ?_
    cases flow with
    | skip => exact .pure (.pass _ htarget skipped)
    | next => exact leads_follow e limit hk hp same d.span _
    | halt => exact leads_follow e limit hk hp same d.span _
    | visit _ _ => exact leads_follow e limit hk hp same d.span _
  | .stop d, _, fits =>
    (Step.preserves_perform e _ d).leads_bind hk .same fun flow =>
      leads_follow e limit hk hp fits d.span flow
  | .startCached i _, _, ⟨htarget, skipped, opened⟩ => by
    refine ((Step.leads_startCached e _ hk i).imp (fun _ _ h => h) ?_).bind ?_
    · rintro _ rfl
      exact .same
    · rintro _ _ (⟨rfl, pending, rfl⟩ | ⟨rfl, rfl⟩)
      · exact .pure (.openBlock pending hp opened)
      · exact .pure (.pass _ htarget skipped)
  | .stopCached i, _, fits => by
    refine ((Step.leads_stopCached e _ hk i).imp (fun _ _ h => h) ?_).bind ?_
    · rintro _ (rfl | ⟨b, bs, hb, rfl⟩)
      · exact .same
      · exact .closed b bs hb
    · rintro _ _ ⟨b, bs, hb, rfl⟩
      exact .pure (.closeBlock b bs hp fits hb)

/-- The end of an activation takes the variables of its own with it. -/
theorem leads_finish (isScoped : Bool) :
    Leads (finish isScoped rest) k
      (fun stack k' => stack = rest ∧ k' = if isScoped then k.leave else k) (Abandoned k) := by
  cases isScoped with
  | false => exact .pure ⟨rfl, rfl⟩
  | true =>
    refine (leads_modify Skeleton.leave fun s => ?_).bind ?_
    · simp [RenderState.skeleton, Skeleton.leave]
    · rintro ⟨⟩ _ rfl
      exact .pure ⟨rfl, rfl⟩

/-- A step of the machine is a transition, or stops with the stacks as they were or nearly so. -/
theorem leads_step (hk : 0 < k.frames) (ha : a.template.program? = some a.code) :
    Leads (step e limit (a :: rest)) k (Transition a rest k) (Abandoned k) := by
  rw [step]
  cases hi : a.next? with
  | none =>
    refine (leads_finish a.isScoped).imp ?_ fun _ h => h
    rintro _ _ ⟨rfl, rfl⟩
    exact .finish hi
  | some i =>
    have hp : a.position < a.code.length := (List.getElem?_eq_some_iff.1 hi).1
    exact leads_execute e limit hk hp hi (a.template.fits ha hi)

end

end Machine

end Stencil
