import Stencil.Program.Machine
import Stencil.Proofs.Computation
import Stencil.Proofs.Layout

/-!
# Programs do what statements say

The machine runs a flat program with an explicit stack of templates, while a template is rendered
by recursion on its statements. Both come to the same end.

- `Machine.Agrees`: with enough steps, the machine does what a computation does.
- `Machine.Enacts`: between two instructions, the machine does what a computation does.
- `Machine.enacts_render`: the instructions of a statement do what the statement does.
- `Machine.visits_renderAt`: a template in place is rendered as its activation is run.
- `Engine.runProgram?_eq_render`: the outcome of a program is that of the statements.
-/

namespace Stencil

namespace Machine

open Render Program

variable (e : Engine) (limit : Nat)

/-- Some steps of the machine, when it goes on as `next` says, do what `m` does, and leave no
activation behind. -/
def Agrees (next : Render (List Activation)) (m : Render Unit) (s : RenderState) : Prop :=
  ∃ n, (next >>= run e limit n).run s = (m >>= fun _ => pure []).run s

variable {e limit} {α : Type} {a : Activation} {rest : List Activation} {m : Render Unit}
  {s : RenderState}

/-! ## Single steps -/

theorem agrees_nil : Agrees e limit (pure []) (pure ()) s := ⟨0, rfl⟩

theorem agrees_throw (stop : Stop) :
    Agrees e limit (throw stop) ((throw stop : Render Unit) >>= fun _ => m) s := ⟨0, rfl⟩

/-- What both sides do first need not be looked at. -/
theorem Agrees.bind {x : Render α} {next : α → Render (List Activation)} {k : α → Render Unit}
    (h : ∀ v s', x.run s = (.ok v, s') → Agrees e limit (next v) (k v) s') :
    Agrees e limit (x >>= next) (x >>= k) s := by
  -- both sides stop if `x` does, and no step of the machine is needed for that
  rcases hx : x.run s with ⟨stop | v, s'⟩
  · refine ⟨0, ?_⟩
    rw [bind_assoc, bind_assoc, run_bind_error hx, run_bind_error hx]
  · obtain ⟨n, hn⟩ := h v s' hx
    refine ⟨n, ?_⟩
    rw [bind_assoc, bind_assoc, run_bind_ok hx, run_bind_ok hx, hn]

/-- The machine may look at the state. -/
theorem Agrees.get {next : RenderState → Render (List Activation)}
    (h : Agrees e limit (next s) m s) : Agrees e limit (get >>= next) m s := by
  obtain ⟨n, hn⟩ := h
  refine ⟨n, ?_⟩
  rw [bind_assoc, run_get_bind, hn]

theorem Agrees.step (h : Agrees e limit (step e limit (a :: rest)) m s) :
    Agrees e limit (pure (a :: rest)) m s := by
  obtain ⟨n, hn⟩ := h
  exact ⟨n + 1, hn⟩

theorem Agrees.execute {i : Instr} (hi : a.next? = some i)
    (h : Agrees e limit (execute e limit a rest i) m s) :
    Agrees e limit (pure (a :: rest)) m s := by
  refine Agrees.step ?_
  rw [Machine.step, hi]
  exact h

theorem Agrees.finish (ha : a.next? = none)
    (h : Agrees e limit (finish a.isScoped rest) m s) : Agrees e limit (pure (a :: rest)) m s := by
  refine Agrees.step ?_
  rw [Machine.step, ha]
  exact h

/-! ## Statements -/

variable (e limit) in
/-- On top of `depth` activations, a template that is made active does what `visit` does, and then
what is to be done when it has ended. -/
def Visits (depth : Nat) (visit : Template → Render Unit) : Prop :=
  ∀ (u : Template) (isScoped : Bool) (stack : List Activation) (m : Render Unit) (s : RenderState),
    stack.length = depth →
    (∀ s', s'.layers = s.layers → Agrees e limit (Machine.finish isScoped stack) m s') →
    Agrees e limit (activate limit u isScoped stack) (visit u >>= fun _ => m) s

variable {visit : Template → Render Unit}

/-- A template with variables of its own is entered and left. -/
theorem agrees_within (hv : Visits e limit (rest.length + 1) visit) {u : Template} {given : Value}
    (hm : ∀ s', s'.layers = s.layers → Agrees e limit (pure (a :: rest)) m s') :
    Agrees e limit (enter given >>= fun _ => activate limit u true (a :: rest))
      (within given (visit u) >>= fun _ => m) s := by
  -- the layers of the caller come back when the template's own are left
  simp only [within, bind_assoc]
  refine Agrees.bind fun _ s₁ h₁ => hv u true (a :: rest) _ s₁ rfl fun s₂ h₂ => ?_
  refine Agrees.bind fun _ s₃ h₃ => hm s₃ ?_
  cases h₁
  cases h₃
  simp [h₂]

/-- A directive is followed in the same way. -/
theorem agrees_follow (hv : Visits e limit (rest.length + 1) visit) {t : Template} {span : Span}
    {flow : Flow} (hm : ∀ s', s'.layers = s.layers → Agrees e limit (pure (a :: rest)) m s') :
    Agrees e limit (follow e limit t span flow (a :: rest))
      (Stmt.follow e visit t span flow >>= fun _ => m) s := by
  cases flow with
  | next => exact hm s rfl
  | skip => exact hm s rfl
  | halt => exact agrees_throw _
  | visit name given =>
    simp only [follow, Stmt.follow, bind_assoc]
    refine Agrees.bind fun u s₁ h₁ => agrees_within hv fun s₂ h₂ => hm s₂ ?_
    rw [h₂, keeps_layers.target e _ _ _ _ _ _ _ h₁]

variable (e limit) in
/-- Between two instructions of an activation, the machine does what `body` does. The layers of
variables are those from before when it has come to the second one. -/
def Enacts (a : Activation) (rest : List Activation) (start stop : Nat) (body : Render Unit) :
    Prop :=
  ∀ (m : Render Unit) (s : RenderState),
    (∀ s', s'.layers = s.layers → Agrees e limit (pure (a.goTo stop :: rest)) m s') →
    Agrees e limit (pure (a.goTo start :: rest)) (body >>= fun _ => m) s

section

variable {start middle behind stop : Nat} {x y body : Render Unit}

theorem enacts_pure : Enacts e limit a rest start start (pure ()) := by
  intro m s hm
  rw [pure_bind]
  exact hm s rfl

theorem Enacts.bind (hx : Enacts e limit a rest start middle x)
    (hy : Enacts e limit a rest middle stop y) :
    Enacts e limit a rest start stop (x >>= fun _ => y) := by
  intro m s hm
  rw [bind_assoc]
  exact hx _ s fun s₁ h₁ => hy m s₁ fun s₂ h₂ => hm s₂ (h₂.trans h₁)

/-- A jump comes to its target. -/
theorem Enacts.jump (hx : Enacts e limit a rest start middle x)
    (hjump : a.code[middle]? = some (.jump stop)) : Enacts e limit a rest start stop x :=
  fun m s hm => hx m s fun s' h => Agrees.execute (a := a.goTo middle) hjump (hm s' h)

/-- An instruction that goes on with the next one. -/
theorem enacts_step {i : Instr} (hi : a.code[start]? = some i)
    (done : execute e limit (a.goTo start) rest i =
      (x >>= fun _ => pure (a.goTo (start + 1) :: rest)))
    (kept : Keeps RenderState.layers x) : Enacts e limit a rest start (start + 1) x := by
  intro m s hm
  refine Agrees.execute (a := a.goTo start) hi ?_
  rw [done]
  exact Agrees.bind fun _ s' h => hm s' (kept _ _ _ h)

/-- An instruction that performs a directive and goes on as it says. -/
theorem enacts_perform (hv : Visits e limit (rest.length + 1) visit) {i : Instr} {d : Directive}
    (hi : a.code[start]? = some i)
    (done : execute e limit (a.goTo start) rest i =
      (Step.perform e a.template d >>= fun flow =>
        follow e limit a.template d.span flow (a.goTo (start + 1) :: rest))) :
    Enacts e limit a rest start (start + 1)
      (Step.perform e a.template d >>= Stmt.follow e visit a.template d.span) := by
  intro m s hm
  refine Agrees.execute (a := a.goTo start) hi ?_
  rw [done, bind_assoc]
  refine Agrees.bind fun flow s₁ h₁ => agrees_follow hv fun s₂ h₂ => hm s₂ ?_
  rw [h₂, Step.layers_perform e _ _ _ _ _ h₁]

/-- Both branches of a condition come to the same place. -/
theorem enacts_branch {negated : Bool} {cond : Expr}
    (hbranch : a.code[start]? = some (.branch negated cond behind))
    (hthen : Enacts e limit a rest (start + 1) stop x)
    (helse : Enacts e limit a rest behind stop y) :
    Enacts e limit a rest start stop
      (Step.test e a.template cond >>= fun b => if b != negated then x else y) := by
  intro m s hm
  refine Agrees.execute (a := a.goTo start) hbranch ?_
  rw [bind_assoc]
  refine Agrees.bind fun b s₁ h₁ => ?_
  have kept : s₁.layers = s.layers := keeps_layers.test _ _ _ _ _ _ h₁
  by_cases taken : b != negated
  · simp only [taken, if_true]
    exact hthen m s₁ fun s' h => hm s' (h.trans kept)
  · simp only [taken, Bool.false_eq_true, if_false]
    exact helse m s₁ fun s' h => hm s' (h.trans kept)

/-- A loop is run round by round. Behind its last round, the instruction that begins a round leaves
the loop and goes behind it. -/
theorem agrees_eachRound {outer : List Layer} (hround : a.code[start]? = some (.round stop))
    (hbody : Enacts e limit a rest (start + 1) start body)
    (hm : ∀ s', s'.layers = outer → Agrees e limit (pure (a.goTo stop :: rest)) m s') :
    ∀ (rounds : List Round) (current : Round) (s : RenderState),
      s.layers = .loop ⟨current, rounds⟩ :: outer →
      Agrees e limit (pure (a.goTo start :: rest)) (eachRound body rounds >>= fun _ => m) s
  | [], _, s, hs => by
    -- no round is left, so the loop is left
    refine Agrees.execute (a := a.goTo start) hround (Agrees.get ?_)
    have left : roundsLeft s.layers = [] := by rw [hs]; rfl
    rw [left, eachRound]
    refine Agrees.bind fun _ s' h => hm s' ?_
    cases h
    simp [hs]
  | r :: rs, _, s, hs => by
    -- another round: its body, and then the rest of the rounds from the same instruction
    refine Agrees.execute (a := a.goTo start) hround (Agrees.get ?_)
    have left : roundsLeft s.layers = r :: rs := by rw [hs]; rfl
    rw [left, eachRound, bind_assoc]
    refine Agrees.bind fun _ s₁ h₁ => ?_
    cases h₁
    rw [bind_assoc]
    refine hbody _ _ fun s₂ h₂ => agrees_eachRound hround hbody hm rs r s₂ ?_
    simp [h₂, hs]

theorem enacts_loop {vars : LoopVars} {iterable : Expr}
    (hloop : a.code[start]? = some (.loop vars iterable))
    (hround : a.code[start + 1]? = some (.round stop))
    (hbody : Enacts e limit a rest (start + 2) (start + 1) body) :
    Enacts e limit a rest start stop
      (Step.rounds e a.template vars iterable >>= eachRound body) := by
  intro m s hm
  refine Agrees.execute (a := a.goTo start) hloop ?_
  rw [bind_assoc]
  exact Agrees.bind fun rounds s₁ h₁ =>
    agrees_eachRound hround hbody hm rounds [] s₁ (Step.layers_of_rounds e _ h₁)

/-- A block between two directives. A start that does not skip the block is followed before it. -/
theorem enacts_block (hv : Visits e limit (rest.length + 1) visit) {first last : Directive}
    {stmts : List Stmt} (hfirst : a.code[start]? = some (.start first (middle + 1)))
    (hbody : Enacts e limit a rest (start + 1) middle (Stmt.renderAll e visit a.template stmts))
    (hlast : a.code[middle]? = some (.stop last)) :
    Enacts e limit a rest start (middle + 1)
      (Stmt.render e visit a.template (.block first stmts last)) := by
  intro m s hm
  have inside := hbody.bind (enacts_perform hv hlast rfl)
  refine Agrees.execute (a := a.goTo start) hfirst ?_
  rw [Stmt.render, bind_assoc]
  refine Agrees.bind fun flow s₁ h₁ => ?_
  have behind : ∀ s', s'.layers = s₁.layers →
      Agrees e limit (pure (a.goTo (middle + 1) :: rest)) m s' :=
    fun s' h => hm s' (h.trans (Step.layers_perform _ _ _ _ _ _ h₁))
  have followed (flow : Flow) :
      Agrees e limit (follow e limit a.template first.span flow (a.goTo (start + 1) :: rest))
        (Stmt.follow e visit a.template first.span flow >>= fun _ =>
          (Stmt.renderAll e visit a.template stmts >>= fun _ =>
            Step.perform e a.template last >>= Stmt.follow e visit a.template last.span) >>=
          fun _ => m) s₁ :=
    agrees_follow hv fun s₂ h₂ => inside m s₂ fun s₃ h₃ => behind s₃ (h₃.trans h₂)
  cases flow with
  | skip => exact behind s₁ rfl
  | next =>
    rw [bind_assoc]
    exact followed .next
  | halt =>
    rw [bind_assoc]
    exact followed .halt
  | visit name given =>
    rw [bind_assoc]
    exact followed (.visit name given)

/-- A cached block. Its body is left out if the text of the block has been found. -/
theorem enacts_cached {first last : Invocation}
    (hfirst : a.code[start]? = some (.startCached first (middle + 1)))
    (hbody : Enacts e limit a rest (start + 1) middle body)
    (hlast : a.code[middle]? = some (.stopCached last)) :
    Enacts e limit a rest start (middle + 1) (Step.cached e a.template first last body) := by
  intro m s hm
  have inside := hbody.bind (enacts_step hlast rfl (Step.layers_stopCached e a.template last))
  refine Agrees.execute (a := a.goTo start) hfirst ?_
  rw [Step.cached, bind_assoc]
  refine Agrees.bind fun opened s₁ h₁ => ?_
  have behind : ∀ s', s'.layers = s₁.layers →
      Agrees e limit (pure (a.goTo (middle + 1) :: rest)) m s' :=
    fun s' h => hm s' (h.trans (Step.layers_startCached _ _ _ _ _ _ h₁))
  cases opened with
  | false => exact behind s₁ rfl
  | true => exact inside m s₁ behind

end

theorem execute_output (x : Expr) (span : Span) :
    execute e limit a rest (.output x span) =
      (Step.output e a.template x span >>= fun _ => pure (a.advance :: rest)) := by
  cases x with
  | filter receiver name args span => cases args <;> rfl
  | _ => rfl

theorem enacts_include (hv : Visits e limit (rest.length + 1) visit) {start : Nat} {name : Ident} :
    ∀ {globals : Option Expr}, a.code[start]? = some (.include name globals) →
      Enacts e limit a rest start (start + 1)
        (Stmt.render e visit a.template (.include name globals))
  | none, hi, m, s, hm => by
    refine Agrees.execute (a := a.goTo start) hi ?_
    rw [Stmt.render, bind_assoc]
    refine Agrees.bind fun u s₁ h₁ => hv u false _ m s₁ rfl fun s₂ h₂ => hm s₂ ?_
    rw [h₂, keeps_layers.target e _ _ _ _ _ _ _ h₁]
  | some x, hi, m, s, hm => by
    refine Agrees.execute (a := a.goTo start) hi ?_
    rw [Stmt.render, bind_assoc]
    refine Agrees.bind fun given s₁ h₁ => ?_
    rw [bind_assoc]
    refine Agrees.bind fun u s₂ h₂ => agrees_within hv fun s₃ h₃ => hm s₃ ?_
    rw [h₃, keeps_layers.target e _ _ _ _ _ _ _ h₂, keeps_layers.given e _ _ _ _ _ h₁]

mutual

/-- The instructions of a statement do what the statement does. -/
theorem enacts_render (hv : Visits e limit (rest.length + 1) visit) :
    ∀ (stmt : Stmt) (start : Nat), Holds a.code start (stmt.layout start) →
      Enacts e limit a rest start (start + (stmt.layout start).length)
        (stmt.render e visit a.template)
  | .raw _, _, hc => enacts_step hc.head rfl (keeps_layers.raw _ _)
  | .output x span, _, hc =>
    enacts_step hc.head (execute_output x span) (keeps_layers.output _ _ _ _)
  | .include _ _, _, hc => enacts_include hv hc.head
  | .ifElse negated cond thenBody none, start, hc => by
    rw [Stmt.layout] at hc
    rw [Stmt.end_layout_if, Stmt.render, Stmt.renderElse]
    exact enacts_branch hc.head (enacts_renderAll hv thenBody (start + 1) hc.tail) enacts_pure
  | .ifElse negated cond thenBody (some elseBody), start, hc => by
    rw [Stmt.layout] at hc
    rw [Stmt.end_layout_ifElse, Stmt.render, Stmt.renderElse]
    -- behind the first branch is a jump over the second one
    have taken := (enacts_renderAll hv thenBody (start + 1) hc.tail.left).jump hc.tail.right.head
    exact enacts_branch hc.head taken (enacts_renderAll hv elseBody _ hc.tail.right.tail)
  | .forLoop vars iterable body, start, hc => by
    rw [Stmt.layout] at hc
    rw [Stmt.end_layout_forLoop, Stmt.render]
    -- behind the body is a jump back to the next round
    have round := (enacts_renderAll hv body (start + 2) hc.tail.tail.left).jump
      hc.tail.tail.right.head
    exact enacts_loop hc.head hc.tail.head round
  | .directive d, start, hc => by
    rw [Stmt.render]
    exact enacts_perform hv hc.head rfl
  | .block first body last, start, hc => by
    rw [Stmt.end_layout_block rfl]
    rw [Stmt.layout] at hc
    have inside := enacts_renderAll hv body (start + 1) hc.tail.left
    exact enacts_block hv hc.head inside hc.tail.right.head
  | .cached first body last, start, hc => by
    rw [Stmt.end_layout_block rfl, Stmt.render]
    rw [Stmt.layout] at hc
    have inside := enacts_renderAll hv body (start + 1) hc.tail.left
    exact enacts_cached hc.head inside hc.tail.right.head

/-- The instructions of some statements do what the statements do. -/
theorem enacts_renderAll (hv : Visits e limit (rest.length + 1) visit) :
    ∀ (stmts : List Stmt) (start : Nat), Holds a.code start (Stmt.layoutAll start stmts) →
      Enacts e limit a rest start (start + (Stmt.layoutAll start stmts).length)
        (Stmt.renderAll e visit a.template stmts)
  | [], _, _ => enacts_pure
  | stmt :: stmts, start, hc => by
    rw [Stmt.layoutAll] at hc ⊢
    rw [Stmt.renderAll, List.length_append, ← Nat.add_assoc]
    exact (enacts_render hv stmt start hc.left).bind (enacts_renderAll hv stmts _ hc.right)

end

/-! ## Templates -/

/-- An activation runs the statements of its template from the first instruction to the last, and
then ends. -/
theorem agrees_place {stack : List Activation} {u : Template} {isScoped : Bool}
    (hv : Visits e limit (stack.length + 1) visit)
    (hm : ∀ s', s'.layers = s.layers → Agrees e limit (Machine.finish isScoped stack) m s') :
    Agrees e limit (place u isScoped stack)
      (Stmt.renderAll e visit u u.body >>= fun _ => m) s := by
  rw [place, program?_eq]
  let a : Activation := ⟨u, Stmt.layoutAll 0 u.body, 0, isScoped⟩
  refine enacts_renderAll (a := a) hv u.body 0 List.prefix_rfl m s fun s' h' => ?_
  refine Agrees.finish (a := a.goTo _) ?_ (hm s' h')
  exact List.getElem?_eq_none (by simp [a, Activation.goTo])

/-- Templates in place are rendered as their activations are run. The templates that may still be
active and those that are add up to the limit, which always leaves room for one. -/
theorem visits_renderAt :
    ∀ n depth, depth + n = limit - 1 + 1 → 0 < depth →
      Visits e limit depth (Template.renderAt e limit n)
  | 0, depth, hn, hd => by
    intro u isScoped stack m s hs hm
    -- no template may be added: both sides report it
    rw [activate, if_pos (by omega)]
    exact agrees_throw _
  | n + 1, depth, hn, hd => by
    intro u isScoped stack m s hs hm
    rw [activate, if_neg (by omega), Template.renderAt]
    exact agrees_place (hs ▸ visits_renderAt n (depth + 1) (by omega) (by omega)) hm

/-- The machine comes to an end of a template, which is the one of its statements. -/
theorem exists_run_eq (e : Engine) (limit : Nat) (t : Template) (s : RenderState) :
    ∃ n, (place t false [] >>= run e limit n).run s =
      (t.renderAt e limit (limit - 1 + 1) >>= fun _ => pure []).run s := by
  have hv : Visits e limit 1 (Template.renderAt e limit (limit - 1)) :=
    visits_renderAt (limit - 1) 1 (by omega) Nat.one_pos
  have placed : Agrees e limit (place t false [])
      (Stmt.renderAll e (Template.renderAt e limit (limit - 1)) t t.body >>= fun _ => pure ()) s :=
    agrees_place hv fun s' _ => agrees_nil
  obtain ⟨n, hn⟩ := placed
  refine ⟨n, ?_⟩
  rw [hn, bind_assoc, Template.renderAt]
  rfl

/-! ## Enough steps -/

theorem run_succ_cons (n : Nat) :
    run e limit (n + 1) (a :: rest) = Machine.step e limit (a :: rest) >>= run e limit n := rfl

/-- A run that has come to its end stays as it is with more steps. -/
theorem run_of_le : ∀ {n k : Nat} {stack : List Activation} {s : RenderState}, n ≤ k →
    (result? ((run e limit n stack).run s).1).isSome →
    (run e limit k stack).run s = (run e limit n stack).run s
  | n, k, [], s, _, _ => by cases n <;> cases k <;> rfl
  | 0, _, _ :: _, _, _, h => by cases h
  | _ + 1, 0, _ :: _, _, hk, _ => by omega
  -- the first step is the same, and the rest by induction
  | n + 1, k + 1, a :: rest, s, hk, h => by
    rw [run_succ_cons] at h ⊢
    rw [run_succ_cons]
    rcases hs : (Machine.step e limit (a :: rest)).run s with ⟨stop | stack, s'⟩
    · rw [run_bind_error hs, run_bind_error hs]
    · rw [run_bind_ok hs] at h
      rw [run_bind_ok hs, run_bind_ok hs]
      exact run_of_le (by omega) h

/-- A computation behind which no activation is left. -/
def ending (m : Render Unit) : Render (List Activation) := m >>= fun _ => pure []

theorem result?_ending (m : Render Unit) (s : RenderState) :
    result? ((ending m).run s).1 = some (m.run s).1 ∧ ((ending m).run s).2 = (m.run s).2 := by
  rcases hm : m.run s with ⟨stop | ⟨⟩, s'⟩
  · rw [ending, run_bind_error hm]
    exact ⟨rfl, rfl⟩
  · rw [ending, run_bind_ok hm]
    exact ⟨rfl, rfl⟩

/-- With enough steps, the machine comes to the end of a template that its statements come to. -/
theorem exists_forall_run_eq (e : Engine) (limit : Nat) (t : Template) (s : RenderState) :
    ∃ n, ∀ k, n ≤ k →
      (place t false [] >>= run e limit k).run s =
        (ending (t.renderAt e limit (limit - 1 + 1))).run s := by
  obtain ⟨n, hn⟩ := exists_run_eq e limit t s
  have ended := (result?_ending (t.renderAt e limit (limit - 1 + 1)) s).1
  refine ⟨n, fun k hk => ?_⟩
  rw [ending, ← hn, place, program?_eq] at ended
  rw [ending, ← hn, place, program?_eq]
  exact run_of_le hk (Option.isSome_of_eq_some ended)

end Machine

/-- Running the program of a template has the same outcome as rendering its statements one by one:
the same response, text, and calls to the store, or the same error. -/
theorem Engine.runProgram?_eq_render (e : Engine) (t : Template) (job : Job) :
    ∃ n, ∀ k, n ≤ k → e.runProgram? t job k = some (e.render t job) := by
  unfold runProgram? render run
  cases job.data with
  | error f =>
    refine ⟨0, fun _ _ => ?_⟩
    have accepts : (job.initial .none).output.accepts = true := Output.accepts_empty job.room
    rw [Outcome.ofRun, Outcome.failure_of_accepts accepts]
    rfl
  | ok data =>
    obtain ⟨n, hn⟩ := Machine.exists_forall_run_eq e (e.depthLimit job) t (job.initial data)
    refine ⟨n, fun k hk => ?_⟩
    obtain ⟨result, state⟩ := Machine.result?_ending
      (t.renderAt e (e.depthLimit job) (e.depthLimit job - 1 + 1)) (job.initial data)
    dsimp only
    rw [hn k hk]
    -- what is left only reads the result and the state of both runs
    revert result state
    rcases (Machine.ending (t.renderAt e (e.depthLimit job) (e.depthLimit job - 1 + 1))).run
      (job.initial data) with ⟨r, s⟩
    rcases (t.renderAt e (e.depthLimit job) (e.depthLimit job - 1 + 1)).run
      (job.initial data) with ⟨r', s'⟩
    rintro result rfl
    exact congrArg (Option.map _) result

end Stencil
