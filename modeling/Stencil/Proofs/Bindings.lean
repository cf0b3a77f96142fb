import Stencil.Proofs.Redirects

/-!
# What directives bind

The names that a directive binds get into the last frame, and nothing else in a render changes a
frame: templates with variables of their own put another one behind it and take it away again.

- `Script.bindings`, `Machine.Passage.bindings`: the names with their values that a script and a
  step bind, the first of them first.
- `RenderState.boundAll`: some frames when names have been bound.
- `RenderState.lasting`: what directives change, and templates with variables of their own.
- `Machine.Reframes`: another frame may have come, or the last one gone.
- `Machine.Moves.reframes_of_none`, `Machine.Moves.reframes_of_directive`: what a step does to the
  frames, with or without a directive.
- `Machine.Moves.frames`: a step binds its names in the last frame.
-/

namespace Stencil

open Render

/-! ## Frames -/

namespace Dict

variable {α : Type} {key : String} {d d' : Dict α}

theorem get?_append : get? key (d ++ d') = (get? key d).or (get? key d') := by
  induction d with
  | nil => rfl
  | cons e d ih =>
    obtain ⟨k, v⟩ := e
    rw [List.cons_append, get?_cons, get?_cons, ih]
    split
    · rfl
    · rfl

/-- Of the values that are put under a key the last one is found, and one from before if there is
none. -/
theorem get?_foldl_insert (key : String) (entries : List (String × α)) (d : Dict α) :
    get? key (entries.foldl (fun d e => insert e.1 e.2 d) d) =
      (get? key entries.reverse).or (get? key d) := by
  induction entries generalizing d with
  | nil => rfl
  | cons e entries ih =>
    rw [List.foldl_cons, ih, get?_insert, List.reverse_cons, get?_append, Option.or_assoc]
    congr 1
    rw [get?_cons]
    split
    · rfl
    · rfl

end Dict

namespace RenderState

/-- Some frames when names have been bound in the last one, the first of them first. -/
def boundAll (bindings : List (String × Value)) (frames : List Frame) : List Frame :=
  bindings.foldl (fun frames b => modifyLast (Dict.insert b.1 b.2) frames) frames

theorem boundAll_append (bindings : List (String × Value)) (outer : List Frame) (f : Frame) :
    boundAll bindings (outer ++ [f]) =
      outer ++ [bindings.foldl (fun f b => Dict.insert b.1 b.2 f) f] := by
  induction bindings generalizing f with
  | nil => rfl
  | cons b bindings ih =>
    rw [boundAll, List.foldl_cons, modifyLast_append _ _ (List.cons_ne_nil _ _)]
    exact ih _

/-- Names are bound in the last of some frames. -/
theorem boundAll_eq (bindings : List (String × Value)) {frames : List Frame} (h : frames ≠ []) :
    boundAll bindings frames = frames.dropLast ++
      [bindings.foldl (fun f b => Dict.insert b.1 b.2 f) (frames.getLast h)] := by
  calc boundAll bindings frames
      = boundAll bindings (frames.dropLast ++ [frames.getLast h]) := by
        rw [List.dropLast_concat_getLast h]
    _ = _ := boundAll_append bindings _ _

theorem length_boundAll (bindings : List (String × Value)) {frames : List Frame}
    (h : frames ≠ []) : (boundAll bindings frames).length = frames.length := by
  rw [boundAll_eq bindings h, List.length_append, List.length_dropLast, List.length_singleton]
  have pos : 0 < frames.length := List.length_pos_iff.2 h
  omega

end RenderState

/-! ## Scripts -/

namespace Script

variable {α : Type} {e : Engine} {origin : Origin}

/-- What a script binds from a state on, until it ends or fails, the first binding first. -/
def bindings (e : Engine) (origin : Origin) : Script α → RenderState → List (String × Value)
  | .done _, _ => []
  | .fail _, _ => []
  | .full, _ => []
  | .look next, s => (next (s.view e origin)).bindings e origin s
  | .write text next, s =>
    match (offer text).run s with
    | (.ok accepted, s') => (next accepted).bindings e origin s'
    | (.error _, _) => []
  | .assign name value next, s =>
    (name, value) :: next.bindings e origin ((bindVariable name value).run s).2
  | .respond change next, s => next.bindings e origin ((Render.respond change).run s).2
  | .limit query l next, s => next.bindings e origin ((setLimit query l).run s).2
  | .ask call next, s =>
    match (Render.ask e.store call).run s with
    | (.ok answer, s') => (next answer).bindings e origin s'
    | (.error _, _) => []

/-- A script that comes to its end has bound what it binds in the last frame. -/
theorem frames_of_run {a : α} {st' : RenderState} : ∀ {s : Script α} {st : RenderState},
    (s.run e origin).run st = (.ok a, st') →
      st'.frames = RenderState.boundAll (s.bindings e origin st) st.frames
  | .done _, _, run => by
    cases run
    rfl
  | .fail _, _, run => by cases run
  | .full, _, run => by cases run
  | .look next, _, run => frames_of_run (s := next _) run
  | .write text next, st, run => by
    obtain ⟨accepted, st₁, offered, run⟩ := bind_eq_ok run
    have kept : st₁.frames = st.frames := by
      rw [run_offer] at offered
      split at offered
      · cases offered
        rfl
      · cases offered
        rfl
    rw [bindings, offered, ← kept]
    exact frames_of_run run
  | .assign name value next, st, run => by
    obtain ⟨_, st₁, bound, run⟩ := bind_eq_ok run
    cases bound
    exact frames_of_run (s := next) run
  | .respond change next, st, run => by
    obtain ⟨_, st₁, responded, run⟩ := bind_eq_ok run
    cases responded
    exact frames_of_run (s := next) run
  | .limit query l next, st, run => by
    obtain ⟨change, limited⟩ := exists_run_setLimit query l
    obtain ⟨_, st₁, set, run⟩ := bind_eq_ok run
    cases (limited st).symm.trans set
    rw [bindings, limited]
    exact frames_of_run (s := next) run
  | .ask c next, st, run => by
    obtain ⟨answer, w, asked⟩ := exists_run_ask e.store c st
    obtain ⟨answer', st₁, asked', run⟩ := bind_eq_ok run
    cases asked.symm.trans asked'
    rw [bindings, asked]
    exact frames_of_run run

end Script

/-! ## Steps -/

namespace Step

/-- What a directive binds when it is run. -/
def bindings (e : Engine) (t : Template) (d : Directive) (s : RenderState) :
    List (String × Value) :=
  match d.args.evaluate (s.scope e) t.source with
  | .ok args => (d.run args).bindings e d.origin s
  | .error _ => []

variable {e : Engine} {t : Template} {d : Directive} {s s' : RenderState} {flow : Flow}

/-- A directive that has been passed has run its script with the values of its arguments. -/
theorem perform_eq_ok (h : (perform e t d).run s = (.ok flow, s')) :
    ∃ args, d.args.evaluate (s.scope e) t.source = .ok args ∧
      ((d.run args).run e d.origin).run s = (.ok flow, s') := by
  cases evaluated : d.args.evaluate (s.scope e) t.source with
  | ok args =>
    exact ⟨args, rfl, marker_eq_ok (m := fun args => (d.run args).run e d.origin) evaluated h⟩
  | error f =>
    obtain ⟨values, s₀, found, -⟩ := bind_eq_ok (named_eq_ok h)
    rw [run_arguments, evaluated] at found
    cases found

/-- A directive whose script comes to its end is passed. -/
theorem run_perform {args : Args} (evaluated : d.args.evaluate (s.scope e) t.source = .ok args)
    (run : ((d.run args).run e d.origin).run s = (.ok flow, s')) :
    (perform e t d).run s = (.ok flow, s') := by
  have marked := run_marker (m := fun args => (d.run args).run e d.origin) evaluated
  rw [run] at marked
  exact marked

theorem frames_of_perform (h : (perform e t d).run s = (.ok flow, s')) :
    s'.frames = RenderState.boundAll (bindings e t d s) s.frames := by
  obtain ⟨args, evaluated, run⟩ := perform_eq_ok h
  rw [bindings, evaluated]
  exact Script.frames_of_run run

end Step

/-! ## What only directives change -/

/-- What only directives change, and templates with variables of their own; the request is never
changed. -/
def RenderState.lasting (s : RenderState) : List Frame × Dict Query × Request :=
  (s.frames, s.queries, s.request)

namespace Render

theorem keeps_lasting_record (event : Event) : Keeps RenderState.lasting (record event) :=
  keeps_modify fun _ => rfl

theorem keeps_lasting_offer (text : String) : Keeps RenderState.lasting (offer text) := by
  intro s a s' h
  rw [run_offer] at h
  split at h
  · cases h
    rfl
  · cases h
    rfl

theorem keeps_lasting_call {α : Type} (c : StoreCall) (ask : List StoreCall → Except String α) :
    Keeps RenderState.lasting (call c ask) := by
  intro s a s' h
  rw [run_call] at h
  have state : s.after [.called c] = s' := congrArg Prod.snd h
  rw [← state]
  rfl

/-- Finding values and writing texts changes neither the frames nor the queries. -/
theorem keeps_lasting_writes : WriteCongruence fun m _ => Keeps RenderState.lasting m where
  toResultCongruence := keeps_results _
  named := Keeps.named
  evaluate e _ _ := (keeps_results _).reading e (keeps_get.bind fun _ => keeps_pure _) _
  write text := (keeps_results _).write_of_offer (keeps_lasting_offer text)

/-! ### Loops and cached blocks -/

theorem keeps_lasting_enterLoop (rounds : List Round) :
    Keeps RenderState.lasting (enterLoop rounds) :=
  keeps_modify fun _ => rfl

theorem keeps_lasting_enterRound (round : Round) (rest : List Round) :
    Keeps RenderState.lasting (enterRound round rest) :=
  keeps_modify fun _ => rfl

theorem keeps_lasting_leaveLoop : Keeps RenderState.lasting leaveLoop :=
  keeps_modify fun _ => rfl

theorem keeps_lasting_rounds (e : Engine) (t : Template) (vars : LoopVars) (x : Expr) :
    Keeps RenderState.lasting (Step.rounds e t vars x) :=
  Keeps.named _ ((keeps_lasting_writes.evaluate _ _ _).bind fun _ =>
    (keeps_lasting_writes.lift _).bind fun _ =>
      (keeps_lasting_enterLoop _).bind fun _ => keeps_pure _)

theorem keeps_lasting_closeBlock : Keeps RenderState.lasting closeBlock := by
  intro s a s' h
  rw [run_closeBlock] at h
  split at h
  · cases h
  · cases h
    rfl

/-- Nor do the markers of cached blocks. -/
theorem keeps_lasting_blocks : BlockCongruence fun m _ => Keeps RenderState.lasting m where
  toWriteCongruence := keeps_lasting_writes
  locatedAt := Keeps.locatedAt
  arguments e _ _ := (keeps_results _).reading e (keeps_get.bind fun _ => keeps_pure _) _
  record := keeps_lasting_record
  call := keeps_lasting_call
  request hk := keeps_get.bind fun s => hk s.request
  openBlock _ := keeps_modify fun _ => rfl
  closeBlock := keeps_lasting_closeBlock

theorem keeps_activate {γ : Type} {f : RenderState → γ} (limit : Nat) (u : Template)
    (isScoped : Bool) (stack : List Activation) :
    Keeps f (Machine.activate limit u isScoped stack) := by
  unfold Machine.activate
  split
  · exact keeps_throw _
  unfold Machine.place
  split
  · exact keeps_pure _
  · exact keeps_throw _

end Render

/-! ## Steps of the machine -/

namespace Machine

open Render

variable {e : Engine} {limit : Nat} {c c' : Config} {a : Activation}
  {rest stack stack' : List Activation} {s s₁ s' : RenderState} {i : Instr} {d : Directive}

/-- An instruction changes neither the frames nor the queries, unless it runs a directive or enters
a template with variables of its own. -/
theorem keeps_lasting_execute (e : Engine) (limit : Nat) (a : Activation)
    (rest : List Activation) : ∀ {i : Instr}, i.directive? = none →
      (∀ name x, i ≠ .include name (some x)) →
        Keeps RenderState.lasting (execute e limit a rest i)
  | .raw _, _, _ => (keeps_lasting_writes.raw _ _).bind fun _ => keeps_pure _
  | .print _, _, _ => (keeps_lasting_writes.print e _ _).bind fun _ => keeps_pure _
  | .pipe _ _ _, _, _ => (keeps_lasting_writes.pipe e _ _ _ _).bind fun _ => keeps_pure _
  | .include _ none, _, _ =>
    (keeps_lasting_writes.target e _ _ _ _).bind fun _ => keeps_activate limit _ _ _
  | .include name (some x), _, h => absurd rfl (h name x)
  | .jump _, _, _ => keeps_pure _
  | .branch _ _ _, _, _ => (keeps_lasting_writes.test e _ _).bind fun _ => keeps_pure _
  | .loop _ _, _, _ => (keeps_lasting_rounds e _ _ _).bind fun _ => keeps_pure _
  | .round _, _, _ => by
    refine keeps_get.bind fun s => ?_
    split
    · exact keeps_lasting_leaveLoop.bind fun _ => keeps_pure _
    · exact (keeps_lasting_enterRound _ _).bind fun _ => keeps_pure _
  | .startCached _ _, _, _ =>
    (keeps_lasting_blocks.startCached e _ _).bind fun _ => keeps_pure _
  | .stopCached _, _, _ => (keeps_lasting_blocks.stopCached e _ _).bind fun _ => keeps_pure _

/-- Another frame may have come behind some, or the last one gone. -/
inductive Reframed (frames : List Frame) : List Frame → Prop
  | same : Reframed frames frames
  | entered : Reframed frames (frames ++ [[]])
  | left : Reframed frames frames.dropLast

/-- What a step does to the frames and the queries, but for its directive: templates with variables
of their own have a frame of their own as long as they are active. -/
structure Reframes (s s' : RenderState) : Prop where
  frames : Reframed s.frames s'.frames
  queries : s'.queries = s.queries
  request : s'.request = s.request

theorem reframes_of_lasting (h : s'.lasting = s.lasting) : Reframes s s' := by
  simp only [RenderState.lasting, Prod.mk.injEq] at h
  obtain ⟨frames, queries, request⟩ := h
  exact ⟨frames ▸ .same, queries, request⟩

theorem Reframes.of_lasting (h : Reframes s₁ s') (same : s₁.lasting = s.lasting) :
    Reframes s s' := by
  simp only [RenderState.lasting, Prod.mk.injEq] at same
  obtain ⟨frames, queries, request⟩ := same
  exact ⟨frames ▸ h.frames, h.queries.trans queries, h.request.trans request⟩

theorem reframes_of_enter {u : Template} {given : Value}
    (h : (do enter given; activate limit u true stack : Render _).run s = (.ok stack', s')) :
    Reframes s s' := by
  obtain ⟨_, s₁, entered, h⟩ := bind_eq_ok h
  cases entered
  have kept := keeps_activate (f := RenderState.lasting) limit u true stack _ _ _ h
  simp only [RenderState.lasting, Prod.mk.injEq] at kept
  obtain ⟨frames, queries, request⟩ := kept
  exact ⟨frames ▸ .entered, queries, request⟩

/-- However a directive lets the render go on, the frames change only for another template. -/
theorem reframes_of_follow {t : Template} {span : Span} {flow : Flow}
    (h : (follow e limit t span flow stack).run s = (.ok stack', s')) : Reframes s s' := by
  cases flow with
  | next =>
    cases h
    exact reframes_of_lasting rfl
  | skip =>
    cases h
    exact reframes_of_lasting rfl
  | halt => cases h
  | visit name given =>
    obtain ⟨u, s₁, found, h⟩ := bind_eq_ok h
    exact (reframes_of_enter h).of_lasting (keeps_lasting_writes.target _ _ _ _ _ _ _ _ found)

theorem reframes_of_finish {isScoped : Bool}
    (h : (finish isScoped rest).run s = (.ok stack', s')) : Reframes s s' := by
  cases isScoped with
  | true =>
    cases h
    exact ⟨.left, rfl, rfl⟩
  | false =>
    cases h
    exact reframes_of_lasting rfl

theorem reframes_of_execute (directive : i.directive? = none)
    (h : (execute e limit a rest i).run s = (.ok stack', s')) : Reframes s s' := by
  by_cases enters : ∃ name x, i = .include name (some x)
  · obtain ⟨name, x, rfl⟩ := enters
    obtain ⟨given, s₁, evaluated, h⟩ := bind_eq_ok h
    obtain ⟨u, s₂, found, h⟩ := bind_eq_ok h
    refine (reframes_of_enter h).of_lasting ?_
    rw [keeps_lasting_writes.target _ _ _ _ _ _ _ _ found,
      keeps_lasting_writes.given _ _ _ _ _ _ evaluated]
  · have kept : Keeps RenderState.lasting (execute e limit a rest i) := by
      refine keeps_lasting_execute e limit a rest directive ?_
      rintro name x rfl
      exact enters ⟨name, x, rfl⟩
    exact reframes_of_lasting (kept _ _ _ h)

/-- A step without a directive changes the frames only for templates. -/
theorem Moves.reframes_of_none (move : Moves e limit c c')
    (none : c.next?.bind Instr.directive? = none) : Reframes c.state c'.state := by
  cases hstack : c.stack with
  | nil => exact absurd hstack move.1
  | cons a rest =>
    rcases move.executes hstack with ⟨-, run⟩ | ⟨i, next, run⟩
    · exact reframes_of_finish run
    · rw [Config.next?_of_stack hstack next] at none
      exact reframes_of_execute none run

/-- A step with a directive runs it, and then changes the frames only for templates. -/
theorem Moves.reframes_of_directive (move : Moves e limit c c') (hstack : c.stack = a :: rest)
    (next : a.next?.bind Instr.directive? = some d) :
    ∃ flow s, (Step.perform e a.template d).run c.state = (.ok flow, s) ∧
      Reframes s c'.state := by
  obtain ⟨i, hi, directive⟩ := Option.bind_eq_some_iff.1 next
  rcases move.executes hstack with ⟨none, -⟩ | ⟨j, hj, run⟩
  · cases none.symm.trans hi
  cases hj.symm.trans hi
  obtain ⟨behind, executed, follows⟩ := execute_eq_bind e limit a rest directive
  rw [executed] at run
  obtain ⟨flow, s, performed, run⟩ := bind_eq_ok run
  refine ⟨flow, s, performed, ?_⟩
  rcases follows flow with followed | ⟨-, stack, skipped⟩
  · rw [followed] at run
    exact reframes_of_follow run
  · rw [skipped] at run
    cases run
    exact reframes_of_lasting rfl

/-- If a directive lets the render go on with what follows, a step passes it. -/
theorem exists_moves_of_perform (hstack : c.stack = a :: rest)
    (next : a.next?.bind Instr.directive? = some d)
    (performed : (Step.perform e a.template d).run c.state = (.ok .next, s)) :
    Moves e limit c ⟨a.advance :: rest, s⟩ := by
  obtain ⟨i, hi, directive⟩ := Option.bind_eq_some_iff.1 next
  obtain ⟨behind, executed, follows⟩ := execute_eq_bind e limit a rest directive
  have followed : behind .next = follow e limit a.template d.span .next (a.advance :: rest) := by
    rcases follows .next with followed | ⟨skips, -⟩
    · exact followed
    · cases skips
  have active : c.stack ≠ [] := hstack ▸ List.cons_ne_nil a rest
  refine ⟨active, ?_⟩
  rw [hstack, step, hi]
  show (execute e limit a rest i).run c.state = _
  rw [executed, run_bind_ok performed, followed]
  rfl

/-! ## Bindings -/

/-- The names with their values that a step binds, the first of them first. -/
def Passage.bindings (e : Engine) (p : Passage) : List (String × Value) :=
  match p.before.stack.head?, p.before.next?.bind Instr.directive? with
  | some a, some d => Step.bindings e a.template d p.before.state
  | _, _ => []

theorem Passage.bindings_of_directive {p : Passage} (stack : p.before.stack = a :: rest)
    (next : a.next?.bind Instr.directive? = some d) :
    p.bindings e = Step.bindings e a.template d p.before.state := by
  have directive : p.before.next?.bind Instr.directive? = some d := by
    rw [Config.next?, stack]
    exact next
  rw [bindings, directive, stack]
  rfl

/-- Steps that run no directive bind nothing. -/
theorem Passage.bindings_of_none {p : Passage}
    (none : p.before.next?.bind Instr.directive? = none) : p.bindings e = [] := by
  rw [bindings, none]
  split
  · next found => cases found
  · rfl

/-- A step binds its names in the last frame. Then another frame may come behind it, or this one may
go. -/
theorem Moves.frames (move : Moves e limit c c') :
    Reframed (RenderState.boundAll ((Passage.mk c c').bindings e) c.state.frames)
      c'.state.frames := by
  cases directive : c.next?.bind Instr.directive? with
  | none =>
    rw [Passage.bindings_of_none (p := ⟨c, c'⟩) directive]
    exact (move.reframes_of_none directive).frames
  | some d =>
    cases hstack : c.stack with
    | nil => exact absurd hstack move.1
    | cons a rest =>
      rw [Config.next?, hstack] at directive
      obtain ⟨flow, s, performed, reframes⟩ := move.reframes_of_directive hstack directive
      rw [Passage.bindings_of_directive (p := ⟨c, c'⟩) hstack directive,
        ← Step.frames_of_perform performed]
      exact reframes.frames

/-- No step changes the request. -/
theorem Moves.request (move : Moves e limit c c') : c'.state.request = c.state.request := by
  cases directive : c.next?.bind Instr.directive? with
  | none => exact (move.reframes_of_none directive).request
  | some d =>
    cases hstack : c.stack with
    | nil => exact absurd hstack move.1
    | cons a rest =>
      rw [Config.next?, hstack] at directive
      obtain ⟨flow, s, performed, reframes⟩ := move.reframes_of_directive hstack directive
      have kept := Step.keeps_perform unblocked_request.structural e a.template d _ _ _ performed
      exact reframes.request.trans kept

end Machine

end Stencil
