import Stencil.Proofs.Quiet
import Stencil.Render

/-!
# Congruences

The steps of a render are made from a few operations on the state. What holds of these, and of a
computation when it holds of the parts that it is made from, holds of every step. If it also holds
of directives, loops, templates and cached blocks, it holds of a whole render. This is said of
relations between two computations that differ in the store that is asked; a property of one
computation is a relation in which the other one does not matter.

- `ResultCongruence`: a relation agrees with the ways to make one computation from others.
- `WriteCongruence`: it agrees with finding values and with writing texts.
- `StepCongruence`: it agrees with all operations that steps are made from.
- `TreeCongruence`: beside values and texts, it agrees with directives, loops, templates and cached
  blocks.
- `TreeCongruence.renderAt`: then it holds of the renders of a template.
- `LayerCongruence`: it agrees with the operations on layers of variables one by one.
- `BlockCongruence`: it agrees with the operations that the markers of cached blocks are made from.
- `BlockCongruence.cached`: then it agrees with cached blocks.
- `RenderCongruence`: beside steps and layers, it agrees with cached blocks.
- `RenderCongruence.renderAt`: then it holds of the renders of a template whose directives make no
  calls to the store by themselves.
-/

namespace Stencil

/-- A relation between computations agrees with the ways to make one computation from others. What
ends a render on purpose is set apart: only directives do that. -/
structure ResultCongruence (R : ∀ {α : Type}, Render α → Render α → Prop) : Prop where
  pure {α : Type} (a : α) : R (pure a) (pure a)
  throw {α : Type} {stop : Stop} (h : stop ≠ .halted) : R (α := α) (throw stop) (throw stop)
  bind {α β : Type} {m n : Render α} {k l : α → Render β} (hm : R m n)
    (hk : ∀ a, R (k a) (l a)) : R (m >>= k) (n >>= l)

/-- A relation between computations agrees with finding values and with writing texts. -/
structure WriteCongruence (R : ∀ {α : Type}, Render α → Render α → Prop) : Prop
    extends ResultCongruence R where
  named {α : Type} {m n : Render α} (name : Option String) (hm : R m n) :
    R (Render.named name m) (Render.named name n)
  evaluate (e : Engine) (source : String) (x : Expr) :
    R (Render.evaluate e source x) (Render.evaluate e source x)
  write (text : String) : R (Render.write text) (Render.write text)

/-- A relation between computations agrees with the operations that steps are made from. -/
structure StepCongruence (R : ∀ {α : Type}, Render α → Render α → Prop) : Prop
    extends WriteCongruence R where
  locatedAt {α : Type} {m n : Render α} (source : String) (span : Span) (hm : R m n) :
    R (Step.locatedAt source span m) (Step.locatedAt source span n)
  arguments (e : Engine) (t : Template) (args : DirectiveArgs) :
    R (Step.arguments e t args) (Step.arguments e t args)
  view (e : Engine) (origin : Origin) : R (Render.view e origin) (Render.view e origin)
  offer (text : String) : R (Render.offer text) (Render.offer text)
  bindVariable (name : String) (value : Value) :
    R (Render.bindVariable name value) (Render.bindVariable name value)
  respond (change : Response → Response) : R (Render.respond change) (Render.respond change)
  setLimit (query : String) (limit : Option Nat) :
    R (Render.setLimit query limit) (Render.setLimit query limit)

variable {R : ∀ {α : Type}, Render α → Render α → Prop}

namespace ResultCongruence

variable (h : ResultCongruence R)

include h

theorem lift {α : Type} : ∀ r : Except Failure α, R (Render.lift r) (Render.lift r)
  | .ok a => h.pure a
  | .error (.error _) => h.throw nofun
  | .error .broken => h.throw nofun

/-- What is worked out from the scope, for relations that agree with looking at the scope. -/
theorem reading {α : Type} (e : Engine) (hs : R (Render.scope e) (Render.scope e))
    (f : Scope → Except Failure α) :
    R (Render.scope e >>= fun s => Render.lift (f s))
      (Render.scope e >>= fun s => Render.lift (f s)) :=
  h.bind hs fun s => h.lift (f s)

/-- A text that is handed in has to be accepted. -/
theorem write_of_offer {text : String} (ho : R (Render.offer text) (Render.offer text)) :
    R (Render.write text) (Render.write text) := by
  refine h.bind ho fun accepted => ?_
  cases accepted with
  | true => exact h.pure ()
  | false => exact h.throw nofun

end ResultCongruence

/-! ## Steps -/

theorem Step.target_eq (e : Engine) (t : Template) (name : String) (fault : RenderFault)
    (span : Span) :
    Step.target e t name fault span =
      match e.template? name with
      | some u => pure u
      | none => throw (Render.nameStop t.name (.failed (.renderAt fault t.source span))) := by
  unfold Step.target
  cases e.template? name <;> rfl

namespace WriteCongruence

variable (h : WriteCongruence R)

include h

theorem fault {α : Type} (f : RenderFault) (source : String) (span : Span) :
    R (α := α) (Render.fault f source span) (Render.fault f source span) := h.throw nofun

theorem raw (t : Template) (span : Span) : R (Step.raw t span) (Step.raw t span) := by
  refine h.named t.name ?_
  cases Text.slice span t.source with
  | none => exact h.throw nofun
  | some text => exact h.write text

theorem format (t : Template) (f : Formatter) (v : Value) (span : Span) :
    R (Step.format t f v span) (Step.format t f v span) := by
  refine h.bind (h.write _) fun _ => ?_
  cases (f v).fault with
  | none => exact h.pure ()
  | some fault => exact h.fault fault t.source span

theorem print (e : Engine) (t : Template) (x : Expr) :
    R (Step.print e t x) (Step.print e t x) :=
  h.named t.name (h.bind (h.evaluate e t.source x) fun v => h.format t e.defaultFormatter v _)

theorem pipe (e : Engine) (t : Template) (receiver : Expr) (name : Ident) (span : Span) :
    R (Step.pipe e t receiver name span) (Step.pipe e t receiver name span) := by
  refine h.named t.name (h.bind (h.evaluate e t.source receiver) fun v => ?_)
  cases Dict.get? name.name e.functions with
  | none => exact h.fault _ _ _
  | some f =>
    cases f with
    | filter f => exact h.bind (h.lift _) fun w => h.format t _ w span
    | formatter f => exact h.format t f v name.span

theorem output (e : Engine) (t : Template) (x : Expr) (span : Span) :
    R (Step.output e t x span) (Step.output e t x span) := by
  unfold Step.output
  split
  · exact h.pipe _ _ _ _ _
  · exact h.print _ _ _

theorem test (e : Engine) (t : Template) (cond : Expr) :
    R (Step.test e t cond) (Step.test e t cond) := by
  refine h.named t.name (h.bind (h.evaluate e t.source cond) fun v => ?_)
  cases v with
  | bool b => exact h.pure b
  | _ => exact h.fault _ _ _

theorem target (e : Engine) (t : Template) (name : String) (fault : RenderFault) (span : Span) :
    R (Step.target e t name fault span) (Step.target e t name fault span) := by
  refine h.named t.name ?_
  cases e.template? name with
  | none => exact h.fault fault t.source span
  | some u => exact h.pure u

/-- What is done with a template that is found need only be known of the templates there are. -/
theorem target_bind {α : Type} (e : Engine) (t : Template) (name : String) (fault : RenderFault)
    (span : Span) {k l : Template → Render α}
    (hk : ∀ u, e.template? name = some u → R (k u) (l u)) :
    R (Step.target e t name fault span >>= k) (Step.target e t name fault span >>= l) := by
  rw [Step.target_eq]
  cases found : e.template? name with
  | none => exact h.throw nofun
  | some u => exact hk u found

theorem given (e : Engine) (t : Template) (x : Expr) :
    R (Step.given e t x) (Step.given e t x) := h.named t.name (h.evaluate e t.source x)

end WriteCongruence

namespace StepCongruence

variable (h : StepCongruence R)

include h

/-- A script may make the calls of which the relation holds. -/
theorem run {α : Type} {P : StoreCall → Prop} (e : Engine) {a b : Option CacheStore}
    (hask : ∀ c, P c → R (Render.ask a c) (Render.ask b c)) (origin : Origin) :
    ∀ {s : Script α}, s.CallsOnly P →
      R (s.run (e.withStore a) origin) (s.run (e.withStore b) origin)
  | .done v, _ => h.pure v
  | .fail f, _ => h.lift (.error f)
  | .full, _ => h.throw nofun
  | .look _, hs => h.bind (h.view e origin) fun v => run e hask origin (hs v)
  | .write text _, hs => h.bind (h.offer text) fun accepted => run e hask origin (hs accepted)
  | .assign name value next, hs =>
    h.bind (h.bindVariable name value) fun _ => run e hask origin (s := next) hs
  | .respond change next, hs =>
    h.bind (h.respond change) fun _ => run e hask origin (s := next) hs
  | .limit query l next, hs =>
    h.bind (h.setLimit query l) fun _ => run e hask origin (s := next) hs
  | .ask c _, hs => h.bind (hask c hs.1) fun answer => run e hask origin (hs.2 answer)

theorem perform {P : StoreCall → Prop} (e : Engine) {a b : Option CacheStore}
    (hask : ∀ c, P c → R (Render.ask a c) (Render.ask b c)) (t : Template) {d : Directive}
    (hd : ∀ args, (d.run args).CallsOnly P) :
    R (Step.perform (e.withStore a) t d) (Step.perform (e.withStore b) t d) :=
  h.named t.name (h.bind (h.arguments e t d.args) fun args =>
    h.locatedAt t.source d.span (h.run e hask d.origin (hd args)))

end StepCongruence

/-! ## Trees -/

/-- A relation between computations agrees with all that statements are made from when one store is
asked or another, if their directives are as `Q` says. -/
structure TreeCongruence (e : Engine) (a b : Option CacheStore) (Q : Directive → Prop)
    (R : ∀ {α : Type}, Render α → Render α → Prop) : Prop extends WriteCongruence R where
  halt {α : Type} : R (α := α) (MonadExcept.throw Stop.halted) (MonadExcept.throw Stop.halted)
  perform (t : Template) {d : Directive} (hd : Q d) :
    R (Step.perform (e.withStore a) t d) (Step.perform (e.withStore b) t d)
  loop (t : Template) (vars : LoopVars) (x : Expr) {m n : Render Unit} (hm : R m n) :
    R (Step.rounds e t vars x >>= Render.eachRound m)
      (Step.rounds e t vars x >>= Render.eachRound n)
  within (given : Value) {m n : Render Unit} (hm : R m n) :
    R (Render.within given m) (Render.within given n)
  cached (t : Template) (start stop : Invocation) {m n : Render Unit} (hm : R m n) :
    R (Step.cached (e.withStore a) t start stop m) (Step.cached (e.withStore b) t start stop n)

namespace TreeCongruence

variable {e : Engine} {a b : Option CacheStore} {Q : Directive → Prop}
  (h : TreeCongruence e a b Q R)
  {visit visit' : Template → Render Unit}

include h

theorem follow (hvisit : ∀ name u, e.template? name = some u → R (visit u) (visit' u))
    (t : Template) (span : Span) :
    ∀ flow, R (Stmt.follow (e.withStore a) visit t span flow)
      (Stmt.follow (e.withStore b) visit' t span flow)
  | .next => h.pure ()
  | .skip => h.pure ()
  | .halt => h.halt
  | .visit _ given =>
    h.target_bind e t _ _ span fun u found => h.within given (hvisit _ u found)

mutual

theorem render (hvisit : ∀ name u, e.template? name = some u → R (visit u) (visit' u))
    (t : Template) :
    ∀ (stmt : Stmt), (∀ d ∈ stmt.directives, Q d) →
      R (stmt.render (e.withStore a) visit t) (stmt.render (e.withStore b) visit' t)
  | .raw span, _ => h.raw t span
  | .output x span, _ => h.output e t x span
  | .include _ none, _ => h.target_bind e t _ _ _ (hvisit _)
  | .include _ (some x), _ =>
    h.bind (h.given e t x) fun given => h.target_bind e t _ _ _ fun u found =>
      h.within given (hvisit _ u found)
  | .ifElse negated cond thenBody elseBody, hd => by
    rw [Stmt.directives, List.forall_mem_append] at hd
    rw [Stmt.render, Stmt.render]
    refine h.bind (h.test e t cond) fun c => ?_
    -- both sides test the same value, so they take the same branch
    by_cases taken : c != negated
    · simp only [taken, if_true]
      exact renderAll hvisit t thenBody hd.1
    · simp only [taken, Bool.false_eq_true, if_false]
      exact renderElse hvisit t elseBody hd.2
  | .forLoop vars x body, hd => by
    rw [Stmt.render, Stmt.render]
    exact h.loop t vars x (renderAll hvisit t body hd)
  | .directive d, hd => by
    rw [Stmt.render, Stmt.render]
    exact h.bind (h.perform t (hd d (List.mem_singleton_self d))) fun flow =>
      h.follow hvisit t d.span flow
  | .block start body stop, hd => by
    rw [Stmt.directives, List.forall_mem_cons, List.forall_mem_cons] at hd
    obtain ⟨hstart, hstop, hbody⟩ := hd
    rw [Stmt.render, Stmt.render]
    refine h.bind (h.perform t hstart) fun flow => ?_
    -- a start that skips leaves out the body and the end, all others go on there
    have behind : R
        (do
          Stmt.renderAll (e.withStore a) visit t body
          let flow ← Step.perform (e.withStore a) t stop
          Stmt.follow (e.withStore a) visit t stop.span flow)
        (do
          Stmt.renderAll (e.withStore b) visit' t body
          let flow ← Step.perform (e.withStore b) t stop
          Stmt.follow (e.withStore b) visit' t stop.span flow) :=
      h.bind (renderAll hvisit t body hbody) fun _ => h.bind (h.perform t hstop) fun flow =>
        h.follow hvisit t stop.span flow
    cases flow with
    | skip => exact h.pure ()
    | next => exact h.bind (h.follow hvisit t start.span _) fun _ => behind
    | halt => exact h.bind (h.follow hvisit t start.span _) fun _ => behind
    | visit name given => exact h.bind (h.follow hvisit t start.span _) fun _ => behind
  | .cached start body stop, hd => by
    rw [Stmt.render, Stmt.render]
    exact h.cached t start stop (renderAll hvisit t body hd)

theorem renderAll (hvisit : ∀ name u, e.template? name = some u → R (visit u) (visit' u))
    (t : Template) :
    ∀ (l : List Stmt), (∀ d ∈ Stmt.allDirectives l, Q d) →
      R (Stmt.renderAll (e.withStore a) visit t l) (Stmt.renderAll (e.withStore b) visit' t l)
  | [], _ => h.pure ()
  | stmt :: stmts, hd => by
    rw [Stmt.allDirectives, List.forall_mem_append] at hd
    rw [Stmt.renderAll, Stmt.renderAll]
    exact h.bind (render hvisit t stmt hd.1) fun _ => renderAll hvisit t stmts hd.2

theorem renderElse (hvisit : ∀ name u, e.template? name = some u → R (visit u) (visit' u))
    (t : Template) :
    ∀ (stmts : Option (List Stmt)), (∀ d ∈ Stmt.elseDirectives stmts, Q d) →
      R (Stmt.renderElse (e.withStore a) visit t stmts)
        (Stmt.renderElse (e.withStore b) visit' t stmts)
  | none, _ => h.pure ()
  | some stmts, hd => by
    rw [Stmt.renderElse, Stmt.renderElse]
    exact renderAll hvisit t stmts hd

end

/-- The relation holds of the renders of a template. -/
theorem renderAt (he : ∀ name u, e.template? name = some u → ∀ d ∈ u.directives, Q d)
    (limit : Nat) :
    ∀ (n : Nat) (t : Template), (∀ d ∈ t.directives, Q d) →
      R (t.renderAt (e.withStore a) limit n) (t.renderAt (e.withStore b) limit n)
  | 0, _, _ => h.throw nofun
  | n + 1, t, hd =>
    h.renderAll (fun name u found => renderAt he limit n u (he name u found)) t t.body hd

end TreeCongruence

/-! ## Layers -/

/-- A relation between computations agrees with the operations on layers of variables. -/
structure LayerCongruence (R : ∀ {α : Type}, Render α → Render α → Prop) : Prop
    extends WriteCongruence R where
  enterLoop (rounds : List Round) : R (Render.enterLoop rounds) (Render.enterLoop rounds)
  enterRound (round : Round) (rest : List Round) :
    R (Render.enterRound round rest) (Render.enterRound round rest)
  leaveLoop : R Render.leaveLoop Render.leaveLoop
  enter (given : Value) : R (Render.enter given) (Render.enter given)
  leave : R Render.leave Render.leave

namespace LayerCongruence

variable (h : LayerCongruence R)

include h

theorem rounds (e : Engine) (t : Template) (vars : LoopVars) (x : Expr) :
    R (Step.rounds e t vars x) (Step.rounds e t vars x) :=
  h.named t.name (h.bind (h.evaluate e t.source x) fun _ =>
    h.bind (h.lift _) fun rs => h.bind (h.enterLoop rs) fun _ => h.pure rs)

theorem eachRound {m n : Render Unit} (hm : R m n) :
    ∀ rounds, R (Render.eachRound m rounds) (Render.eachRound n rounds)
  | [] => h.leaveLoop
  | r :: rs => h.bind (h.enterRound r rs) fun _ => h.bind hm fun _ => eachRound hm rs

theorem loop (e : Engine) (t : Template) (vars : LoopVars) (x : Expr) {m n : Render Unit}
    (hm : R m n) :
    R (Step.rounds e t vars x >>= Render.eachRound m)
      (Step.rounds e t vars x >>= Render.eachRound n) :=
  h.bind (h.rounds e t vars x) fun rounds => h.eachRound hm rounds

theorem within (given : Value) {m n : Render Unit} (hm : R m n) :
    R (Render.within given m) (Render.within given n) :=
  h.bind (h.enter given) fun _ => h.bind hm fun _ => h.leave

end LayerCongruence

/-! ## Cached blocks -/

/-- A relation between computations agrees with the operations that the markers of cached blocks are
made from. Of the state they look at the request only. -/
structure BlockCongruence (R : ∀ {α : Type}, Render α → Render α → Prop) : Prop
    extends WriteCongruence R where
  locatedAt {α : Type} {m n : Render α} (source : String) (span : Span) (hm : R m n) :
    R (Step.locatedAt source span m) (Step.locatedAt source span n)
  arguments (e : Engine) (t : Template) (args : DirectiveArgs) :
    R (Step.arguments e t args) (Step.arguments e t args)
  record (event : Event) : R (Render.record event) (Render.record event)
  call {α : Type} (c : StoreCall) (ask : List StoreCall → Except String α) :
    R (Render.call c ask) (Render.call c ask)
  request {α : Type} {k : Request → Render α} (hk : ∀ r, R (k r) (k r)) :
    R (get >>= fun s => k s.request) (get >>= fun s => k s.request)
  openBlock (pending : Option Pending) : R (Render.openBlock pending) (Render.openBlock pending)
  closeBlock : R Render.closeBlock Render.closeBlock

namespace BlockCongruence

variable (h : BlockCongruence R)

include h

theorem bypass : R Step.bypass Step.bypass := h.bind (h.openBlock none) fun _ => h.pure true

theorem consult (store : CacheStore) (p : Pending) :
    R (Step.consult store p) (Step.consult store p) := by
  refine h.bind (h.call _ _) fun found => ?_
  cases found with
  | some text => exact h.bind (h.write text) fun _ => h.pure false
  | none => exact h.bind (h.call _ _) fun _ => h.bind (h.openBlock _) fun _ => h.pure true

theorem beginBlock (e : Engine) (origin : Origin) (args : Args) :
    R (Step.beginBlock e origin args) (Step.beginBlock e origin args) := by
  refine h.bind (h.lift _) fun o => h.bind (h.record _) fun _ => ?_
  cases e.store with
  | none => exact h.bypass
  | some store =>
    refine h.request (k := fun r =>
      if o.bypasses r then Step.bypass else Step.consult store (.ofOptions origin o)) fun r => ?_
    split
    · exact h.bypass
    · exact h.consult store _

theorem endBlock (e : Engine) : R (Step.endBlock e) (Step.endBlock e) := by
  refine h.bind h.closeBlock fun p => ?_
  dsimp only
  split
  · exact h.bind (h.call _ _) fun _ => h.write _
  · exact h.write _

theorem startCached (e : Engine) (t : Template) (i : Invocation) :
    R (Step.startCached e t i) (Step.startCached e t i) :=
  h.named t.name (h.bind (h.arguments e t i.args) fun args =>
    h.locatedAt t.source i.span (h.beginBlock e i.origin args))

theorem stopCached (e : Engine) (t : Template) (i : Invocation) :
    R (Step.stopCached e t i) (Step.stopCached e t i) :=
  h.named t.name (h.bind (h.arguments e t i.args) fun _ =>
    h.locatedAt t.source i.span (h.endBlock e))

theorem cached (e : Engine) (t : Template) (start stop : Invocation) {m n : Render Unit}
    (hm : R m n) : R (Step.cached e t start stop m) (Step.cached e t start stop n) := by
  refine h.bind (h.startCached e t start) fun opened => ?_
  cases opened with
  | false => exact h.pure ()
  | true => exact h.bind hm fun _ => h.stopCached e t stop

end BlockCongruence

/-! ## Renders -/

/-- A relation between computations agrees with the operations that renders are made from when one
store is asked or another. -/
structure RenderCongruence (e : Engine) (a b : Option CacheStore)
    (R : ∀ {α : Type}, Render α → Render α → Prop) : Prop
    extends StepCongruence R, LayerCongruence R where
  halt {α : Type} : R (α := α) (MonadExcept.throw Stop.halted) (MonadExcept.throw Stop.halted)
  cached (t : Template) (start stop : Invocation) {m n : Render Unit} (hm : R m n) :
    R (Step.cached (e.withStore a) t start stop m) (Step.cached (e.withStore b) t start stop n)

namespace RenderCongruence

variable {e : Engine} {a b : Option CacheStore} (h : RenderCongruence e a b R)

include h

/-- The relation agrees with all that statements are made from if it does so with directives. -/
theorem tree_of_perform {Q : Directive → Prop}
    (hperform : ∀ (t : Template) {d : Directive}, Q d →
      R (Step.perform (e.withStore a) t d) (Step.perform (e.withStore b) t d)) :
    TreeCongruence e a b Q R where
  toWriteCongruence := h.toWriteCongruence
  halt := h.halt
  perform t _ hd := hperform t hd
  loop t vars x _ _ hm := h.toLayerCongruence.loop e t vars x hm
  within given _ _ hm := h.toLayerCongruence.within given hm
  cached t start stop _ _ hm := h.cached t start stop hm

/-- Without calls of their own, directives do the same whatever store is asked. -/
theorem tree : TreeCongruence e a b Directive.Quiet R :=
  h.tree_of_perform fun t _ hd => h.toStepCongruence.perform e (fun _ => False.elim) t hd

/-- The relation holds of the renders of a template. -/
theorem renderAt (he : e.Quiet) (limit n : Nat) {t : Template} (quiet : t.Quiet) :
    R (t.renderAt (e.withStore a) limit n) (t.renderAt (e.withStore b) limit n) :=
  h.tree.renderAt (fun name u found => Template.quiet_iff.1 (he.templates name u found)) limit n t
    (Template.quiet_iff.1 quiet)

end RenderCongruence

end Stencil
