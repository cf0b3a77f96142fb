import Stencil.Proofs.ErrorPlaces
import Stencil.Proofs.OutputGrowth

/-!
# The include depth

The limit on the templates that are active at once decides nothing but where a render is cut off.
With a greater limit the machine takes the same steps, and goes on where it would have been cut off.

- `Machine.Cut`: what a step comes to with a limit and with a greater one.
- `Machine.cuts_step`: the steps with two limits are related so.
- `Machine.Path.mono`: a path is one with every greater limit.
- `Machine.exists_tooDeep`: where more templates are active than a limit allows, a run with this
  limit has been cut off before.
- `Engine.CutOff`: a render is stopped where too many templates would be active.
- `Engine.render_withDepth`: what a limit means for a render.
-/

namespace Stencil

namespace Machine

open Render Step Program

variable {e : Engine} {d d' height : Nat} {α : Type}

/-! ## Steps -/

/-- What a step comes to with a limit and with a greater one when `height` templates are active. It
is the same, and as many templates are active as the limit allows, unless there were more before. Or
the first one is cut off, and then there are more than the limit allows behind the second one, if
that has room for them. -/
inductive Cut (d d' height : Nat) :
    Except Stop (List Activation) × RenderState → Except Stop (List Activation) × RenderState → Prop
  | goesOn {stack : List Activation} {s : RenderState} (least : stack.length ≤ max height d) :
      Cut d d' height (.ok stack, s) (.ok stack, s)
  | stops {stop : Stop} {s : RenderState} : Cut d d' height (.error stop, s) (.error stop, s)
  | tooDeep {s : RenderState} {r : Except Stop (List Activation) × RenderState}
      (deeper : height < d' → ∃ stack s', r = (.ok stack, s') ∧ d < stack.length) :
      Cut d d' height (.error (.failed (.ofCause (.includeDepth d))), s) r

/-- Two computations are related so in every state. -/
def Cuts (d d' height : Nat) (m n : Render (List Activation)) : Prop :=
  ∀ s, Cut d d' height (m.run s) (n.run s)

theorem cuts_pure {stack : List Activation} (least : stack.length ≤ max height d) :
    Cuts d d' height (pure stack) (pure stack) := fun _ => .goesOn least

theorem cuts_throw (stop : Stop) : Cuts d d' height (throw stop) (throw stop) := fun _ => .stops

theorem Cuts.after (m : Render α) {k l : α → Render (List Activation)}
    (h : ∀ a, Cuts d d' height (k a) (l a)) : Cuts d d' height (m >>= k) (m >>= l) := by
  intro s
  rcases hm : m.run s with ⟨stop | a, s'⟩
  · rw [run_bind_error hm, run_bind_error hm]
    exact .stops
  · rw [run_bind_ok hm, run_bind_ok hm]
    exact h a s'

theorem cuts_activate (h : d ≤ d') (u : Template) (isScoped : Bool) (stack : List Activation) :
    Cuts d d' stack.length (activate d u isScoped stack) (activate d' u isScoped stack) := by
  have placed : place u isScoped stack =
      pure (⟨u, Stmt.layoutAll 0 u.body, 0, isScoped⟩ :: stack) := by
    rw [place, program?_eq]
  intro s
  by_cases full : d ≤ stack.length
  · rw [activate, if_pos full]
    refine .tooDeep fun room => ⟨⟨u, Stmt.layoutAll 0 u.body, 0, isScoped⟩ :: stack, s, ?_, ?_⟩
    · rw [activate, if_neg (Nat.not_le.2 room), placed]
      rfl
    · exact Nat.lt_succ_of_le full
  · rw [activate, if_neg full, activate, if_neg (by omega), placed]
    refine .goesOn ?_
    rw [List.length_cons]
    omega

variable {a : Activation} {rest : List Activation}

theorem cuts_stay (b : Activation) :
    Cuts d d' (rest.length + 1) (pure (b :: rest)) (pure (b :: rest)) :=
  cuts_pure (Nat.le_max_left _ _)

theorem cuts_follow (h : d ≤ d') (t : Template) (span : Span) (flow : Flow) :
    Cuts d d' (rest.length + 1) (follow e d t span flow (a.advance :: rest))
      (follow e d' t span flow (a.advance :: rest)) := by
  cases flow with
  | next => exact cuts_stay _
  | skip => exact cuts_stay _
  | halt => exact cuts_throw _
  | visit name given =>
    exact .after _ fun u => .after _ fun _ => cuts_activate h u true (a.advance :: rest)

theorem cuts_execute (h : d ≤ d') (i : Instr) :
    Cuts d d' (rest.length + 1) (execute e d a rest i) (execute e d' a rest i) := by
  cases i with
  | raw span => exact .after _ fun _ => cuts_stay _
  | print x => exact .after _ fun _ => cuts_stay _
  | pipe receiver name span => exact .after _ fun _ => cuts_stay _
  | «include» name globals =>
    cases globals with
    | none => exact .after _ fun u => cuts_activate h u false (a.advance :: rest)
    | some x =>
      exact .after _ fun given => .after _ fun u => .after _ fun _ =>
        cuts_activate h u true (a.advance :: rest)
  | jump target => exact cuts_stay _
  | branch negated cond target => exact .after _ fun _ => cuts_stay _
  | loop vars iterable => exact .after _ fun _ => cuts_stay _
  | round target =>
    refine .after _ fun s => ?_
    cases roundsLeft s.layers with
    | nil => exact .after _ fun _ => cuts_stay _
    | cons r rs => exact .after _ fun _ => cuts_stay _
  | directive di => exact .after _ fun flow => cuts_follow h _ _ flow
  | start di target =>
    refine .after _ fun flow => ?_
    cases flow with
    | skip => exact cuts_stay _
    | _ => exact cuts_follow h _ _ _
  | stop di => exact .after _ fun flow => cuts_follow h _ _ flow
  | startCached inv target => exact .after _ fun _ => cuts_stay _
  | stopCached inv => exact .after _ fun _ => cuts_stay _

/-- A greater limit changes a step only where it is cut off. -/
theorem cuts_step (h : d ≤ d') (stack : List Activation) :
    Cuts d d' stack.length (step e d stack) (step e d' stack) := by
  cases stack with
  | nil => exact cuts_pure (Nat.zero_le _)
  | cons a rest =>
    rw [step, step]
    cases a.next? with
    | some i => exact cuts_execute h i
    | none =>
      have least : rest.length ≤ max (rest.length + 1) d := by omega
      dsimp only
      cases a.isScoped with
      | true => exact .after _ fun _ => cuts_pure least
      | false => exact cuts_pure least

/-! ## Runs -/

variable {c c' init : Config} {ps : List Passage}

theorem Moves.mono (h : d ≤ d') (move : Moves e d c c') : Moves e d' c c' := by
  obtain ⟨nonempty, run⟩ := move
  have cut := cuts_step (e := e) h c.stack c.state
  rw [run] at cut
  refine ⟨nonempty, ?_⟩
  generalize (step e d' c.stack).run c.state = r at cut
  cases cut
  rfl

/-- With a greater limit the machine goes where it goes with a smaller one. -/
theorem Reaches.mono (h : d ≤ d') (reached : Reaches e d init c) : Reaches e d' init c := by
  induction reached with
  | refl => exact .refl
  | tail _ move ih => exact ih.tail (move.mono h)

theorem Path.mono (h : d ≤ d') (path : Path e d init ps c) : Path e d' init ps c := by
  induction path with
  | nil => exact .nil
  | snoc _ move ih => exact .snoc ih (move.mono h)

/-- A step with a limit is one with a smaller limit that allows as many templates, or is cut off
there. -/
theorem Moves.cut (h : d ≤ d') (move : Moves e d' c c') :
    (Moves e d c c' ∧ c'.stack.length ≤ max c.stack.length d) ∨
      ∃ s, (step e d c.stack).run c.state =
        (.error (.failed (.ofCause (.includeDepth d))), s) := by
  obtain ⟨nonempty, run⟩ := move
  have cut := cuts_step (e := e) h c.stack c.state
  rw [run] at cut
  generalize hr : (step e d c.stack).run c.state = r at cut
  cases cut with
  | goesOn least => exact .inl ⟨⟨nonempty, hr⟩, least⟩
  | tooDeep => exact .inr ⟨_, rfl⟩

/-- Where the machine comes with any limit, no more templates are active than another one allows, or
a run with this other one has been cut off before. -/
theorem exists_tooDeep {limit : Nat} (reached : Reaches e limit init c)
    (least : init.stack.length ≤ d) :
    (Reaches e d init c ∧ c.stack.length ≤ d) ∨
      ∃ c₀ s, Reaches e d init c₀ ∧ (step e d c₀.stack).run c₀.state =
        (.error (.failed (.ofCause (.includeDepth d))), s) := by
  -- with a limit that is no smaller than either of them
  replace reached : Reaches e (max limit d) init c := reached.mono (Nat.le_max_left _ _)
  induction reached with
  | refl => exact .inl ⟨.refl, least⟩
  | @tail c c' _ move ih =>
    rcases ih with ⟨reached, least⟩ | stopped
    · rcases move.cut (Nat.le_max_right limit d) with ⟨moved, height⟩ | ⟨s, stopped⟩
      · exact .inl ⟨.tail reached moved, by omega⟩
      · exact .inr ⟨c, s, reached, stopped⟩
    · exact .inr stopped

/-- Where a step is cut off, a greater limit lets more templates be active. -/
theorem exists_deeper {s : RenderState} (h : d ≤ d') (room : c.stack.length < d')
    (stopped : (step e d c.stack).run c.state =
      (.error (.failed (.ofCause (.includeDepth d))), s))
    (unlimited : ∀ s', (step e d' c.stack).run c.state ≠
      (.error (.failed (.ofCause (.includeDepth d))), s')) :
    ∃ c', Moves e d' c c' ∧ d < c'.stack.length := by
  have cut := cuts_step (e := e) h c.stack c.state
  rw [stopped] at cut
  generalize hr : (step e d' c.stack).run c.state = r at cut unlimited
  cases cut with
  | stops => exact absurd rfl (unlimited _)
  | tooDeep deeper =>
    obtain ⟨stack, s', rfl, deep⟩ := deeper room
    refine ⟨⟨stack, s'⟩, ⟨?_, hr⟩, deep⟩
    intro empty
    rw [empty] at stopped
    cases stopped

end Machine

/-! ## Renders -/

/-- The same job with a limit of its own on the templates that are active at once. -/
def Job.withDepth (job : Job) (limit : Nat) : Job := { job with maxIncludeDepth := some limit }

/-- The error of a render says that too many templates would have been active. -/
def Outcome.AtLimit (o : Outcome) (limit : Nat) : Prop :=
  o.result = .error (.error (.ofCause (.includeDepth limit)))

namespace Engine

open Machine Render

/-- A render is stopped where too many templates would be active. This is its error unless the
output has refused a text before. -/
def CutOff (e : Engine) (t : Template) (job : Job) (limit : Nat) : Prop :=
  ∃ s, e.run t job = (.error (.failed (.ofCause (.includeDepth limit))), s)

variable {e : Engine} {t : Template} {job : Job}

/-- A render that fails for its depth has been stopped with this error. -/
theorem exists_run_of_includeDepth {err : Error} {limit : Nat}
    (failed : (e.render t job).result = .error (.error err))
    (cause : err.cause = .includeDepth limit) :
    ∃ s, e.run t job = (.error (.failed err), s) := by
  rcases exists_run_of_error failed with stopped | rfl
  · exact stopped
  · cases cause

theorem atLimit_iff_cutOff (unbounded : job.room = none) (limit : Nat) :
    (e.render t job).AtLimit limit ↔ e.CutOff t job limit := by
  constructor
  · intro failed
    exact exists_run_of_includeDepth failed rfl
  · rintro ⟨s, stopped⟩
    have room := e.room_run t job
    rw [stopped, unbounded] at room
    rw [Outcome.AtLimit, render, stopped, Outcome.ofRun,
      Outcome.failure_of_accepts (Output.accepts_of_room room)]

/-- With a greater limit a render that has not been cut off is the same. -/
theorem run_withDepth {d d' : Nat} (h : d ≤ d') (within : ¬ e.CutOff t (job.withDepth d) d) :
    e.run t (job.withDepth d') = e.run t (job.withDepth d) := by
  cases hdata : job.data with
  | error err =>
    have failed : ∀ limit, e.run t (job.withDepth limit) =
        (.error (.failed err), job.initial .none) := by
      intro limit
      unfold run
      rw [show (job.withDepth limit).data = .error err from hdata]
      rfl
    rw [failed, failed]
  | ok data =>
    have hdata' : ∀ limit, (job.withDepth limit).data = .ok data := fun _ => hdata
    rcases hrun : e.run t (job.withDepth d) with ⟨stop | ⟨⟩, s⟩
    · obtain ⟨ps, c, path, stopped⟩ := exists_path_of_error (hdata' d) hrun
      refine run_of_stop (hdata' d') (Path.mono h path) ?_
      change (step e d c.stack).run c.state = _ at stopped
      show (step e d' c.stack).run c.state = _
      have cut := cuts_step (e := e) h c.stack c.state
      rw [stopped] at cut
      generalize (step e d' c.stack).run c.state = r at cut
      cases cut with
      | stops => rfl
      | tooDeep => exact absurd ⟨s, hrun⟩ within
    · obtain ⟨ps, path⟩ := exists_path_of_ok (hdata' d) hrun
      exact run_of_done (hdata' d') (Path.mono h path) rfl

/-- A render is cut off where more templates would be active than its limit allows. -/
theorem cutOff_iff_reaches {d : Nat} {data : Value} (ht : t.IsCompiled) (he : e.Registered)
    (hdata : job.data = .ok data) (one : 1 ≤ d) :
    e.CutOff t (job.withDepth d) d ↔
      ∃ limit c, Reaches e limit (.start t job data) c ∧ d < c.stack.length := by
  have hdata' : (job.withDepth d).data = .ok data := hdata
  constructor
  · rintro ⟨s, stopped⟩
    obtain ⟨ps, c, path, stopped⟩ := exists_path_of_error hdata' stopped
    change Path e d (.start t job data) ps c at path
    change (step e d c.stack).run c.state = _ at stopped
    -- one more template than are active would be enough
    have h : d ≤ max d (c.stack.length + 1) := Nat.le_max_left _ _
    have room : c.stack.length < max d (c.stack.length + 1) := by omega
    obtain ⟨c', move, deep⟩ := exists_deeper h room stopped fun s' stopped' => by
      rcases (path.mono h).arises stopped' with ⟨full, -⟩ | ⟨a, inStack, body, arises⟩
      · omega
      · have compiled := he.isCompiled ht (path.template_of_mem a inStack)
        cases arises.excerpt_isSome (compiled.source_ne body)
    exact ⟨_, c', .tail (path.mono h).reaches move, deep⟩
  · rintro ⟨limit, c, reached, deep⟩
    rcases exists_tooDeep reached (d := d) one with ⟨-, within⟩ | ⟨c₀, s, reached, stopped⟩
    · omega
    · obtain ⟨ps, path⟩ := exists_path_of_reaches reached
      exact ⟨s, run_of_stop hdata' path stopped⟩

/-- A limit does nothing but cut off the renders that are too deep: with a greater one, a render
that has not been cut off is the same. A render is cut off exactly if it comes to where more
templates are active than the limit allows, with whatever limit it is continued. No other render
fails for its depth, unless a function or a directive does. With an output without bounds a render
is cut off exactly if its error says so. -/
theorem render_withDepth (job : Job) (ht : t.IsCompiled) (he : e.Registered) :
    (∀ d d', d ≤ d' → ¬ e.CutOff t (job.withDepth d) d →
      e.render t (job.withDepth d') = e.render t (job.withDepth d)) ∧
    (∀ data, job.data = .ok data → ∀ d, 1 ≤ d →
      (e.CutOff t (job.withDepth d) d ↔
        ∃ limit c, Reaches e limit (.start t job data) c ∧ d < c.stack.length) ∧
      ∀ err limit, (e.render t (job.withDepth d)).result = .error (.error err) →
        err.cause = .includeDepth limit →
        err = .ofCause (.includeDepth d) ∨
          ∃ origin, e.Hands t origin ∧ origin.cause = .includeDepth limit) ∧
    (job.room = none → ∀ d limit,
      (e.render t (job.withDepth d)).AtLimit limit ↔ e.CutOff t (job.withDepth d) limit) := by
  refine ⟨fun d d' h within => ?_, fun data hdata d one =>
    ⟨cutOff_iff_reaches ht he hdata one, fun err limit failed cause => ?_⟩,
    fun unbounded d limit => ?_⟩
  · have same := run_withDepth h within
    show Outcome.ofRun job.refusal _ = Outcome.ofRun job.refusal _
    rw [same]
  · have hdata' : (job.withDepth d).data = .ok data := hdata
    obtain ⟨s, stopped⟩ := exists_run_of_includeDepth failed cause
    rcases arises_of_run hdata' stopped with tooDeep | ⟨u, -, -, arises⟩
    · exact .inl tooDeep
    · exact .inr (arises.handed cause)
  · have unbounded' : (job.withDepth d).room = none := unbounded
    exact atLimit_iff_cutOff unbounded' limit

end Engine

/-- A template that includes another one. -/
def Template.enclosing : Template where
  name := some "enclosing"
  source := "\x7b% include \"small\" %\x7d"
  body := [.include ⟨"small", ⟨11, 18⟩⟩ none]

/-- An engine with the template that is included. -/
def Engine.enclosed : Engine :=
  { Engine.new .standard with templates := [("small", .small)] }

theorem Template.compile_enclosing (directives : Dict Definition) :
    compile ⟨.standard, directives⟩ (some "enclosing") enclosing.source = .ok enclosing := by
  have lexed : lex .standard enclosing.source =
      ⟨[⟨.opening .block, ⟨0, 2⟩, "\x7b%"⟩, ⟨.whitespace, ⟨2, 3⟩, " "⟩,
        ⟨.keyword, ⟨3, 10⟩, "include"⟩, ⟨.whitespace, ⟨10, 11⟩, " "⟩,
        ⟨.string, ⟨11, 18⟩, "\"small\""⟩, ⟨.whitespace, ⟨18, 19⟩, " "⟩,
        ⟨.closing .block, ⟨19, 21⟩, "%\x7d"⟩], none⟩ := rfl
  let r : Parse.Reader := ⟨⟨enclosing.source, none⟩, ⟨.standard, directives⟩, "enclosing"⟩
  have named : Literal.string enclosing.source "\"small\"" ⟨11, 18⟩ = .ok "small" := by
    have inner : Literal.inner? ("\"small\"" : String).toList =
      some ['s', 'm', 'a', 'l', 'l'] := rfl
    have plain : Literal.unescape 12 ['s', 'm', 'a', 'l', 'l'] =
      .ok ['s', 'm', 'a', 'l', 'l'] := rfl
    exact Literal.string_of_unescape inner plain
  have read : Parse.template ⟨.standard, directives⟩ (some "enclosing") enclosing.source =
      .ok enclosing.body := by
    rw [Parse.template, lexed]
    refine (Parse.statements_cons (r := r) (n := 4) (Parse.statement_include _ named)).trans ?_
    rfl
  rw [compile, read]
  rfl

namespace Engine

open Machine

theorem registered_enclosed : enclosed.Registered :=
  registered_of_forall (List.forall_mem_singleton.2 ⟨rfl, _, Template.compile_small [] _⟩)

/-- A template that includes another one needs a limit of two. -/
theorem render_withDepth_enclosing :
    let data : Value := .map [("y", .text "b")]
    let outcome (d : Nat) := enclosed.render .enclosing ((Job.ofData data).withDepth d)
    Template.enclosing.IsCompiled ∧ enclosed.Registered ∧ (outcome 1).AtLimit 1 ∧
      ¬ (outcome 2).AtLimit 2 ∧ (outcome 2).body = "b" ∧ outcome 7 = outcome 2 ∧
      ∃ limit c, Reaches enclosed limit (.start .enclosing (.ofData data) data) c ∧
        1 < c.stack.length := by
  intro data outcome
  have ht : Template.enclosing.IsCompiled := ⟨_, Template.compile_enclosing []⟩
  have one : (outcome 1).AtLimit 1 := rfl
  have two : ¬ (outcome 2).AtLimit 2 := nofun
  obtain ⟨same, cut, atLimit⟩ := render_withDepth (.ofData data) ht registered_enclosed
  have within := mt (atLimit rfl 2 2).2 two
  exact ⟨ht, registered_enclosed, one, two, by decide +kernel, same 2 7 (by decide) within,
    ((cut data rfl 1 (Nat.le_refl 1)).1).1 ((atLimit rfl 1 1).1 one)⟩

end Engine

end Stencil
