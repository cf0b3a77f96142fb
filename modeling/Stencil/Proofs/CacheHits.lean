import Stencil.Proofs.CachedBlocks
import Stencil.Proofs.Pairing
import Stencil.Proofs.Quiet
import Stencil.Store.Recording

/-!
# Blocks whose text is in the store

Where the store has the text of a block, the block comes down to writing this text. The machine goes
on behind the end of the block in the same step, whatever stands in between, and what has not been
opened at the start need not be closed at the end.

- `RenderState.withText`, `RenderState.takes`: a text is handed in, and whether it is accepted.
- `Step.Hits`: the store has the text of a block that begins.
- `Step.run_startCached_of_hits`: the start of such a block.
- `Stmt.run_cached_of_hits`: such a block, whatever its body is.
- `Program.holds_cached`: the instructions of the block that begins with an instruction.
- `Machine.step_of_hits`: such a block in a run.
-/

namespace Stencil

/-! ## Texts that are handed in -/

namespace RenderState

/-- The state when a text has been handed to the innermost capture, or else to the output. -/
def withText (s : RenderState) (text : String) : RenderState :=
  { s with
    captures := s.captures.modifyHead (· ++ text)
    output := if s.captures.isEmpty then s.output.append text else s.output }

/-- A text that is handed in is accepted: all captures take texts, and the output may do so. -/
def takes (s : RenderState) (text : String) : Bool :=
  !s.captures.isEmpty || s.output.takes text

variable (s : RenderState) (events : List Event) (text : String)

theorem withText_after : (s.after events).withText text = (s.withText text).after events := rfl

theorem takes_after : (s.after events).takes text = s.takes text := rfl

@[simp] theorem calls_withText : (s.withText text).calls = s.calls := rfl

end RenderState

namespace Render

/-- A text that is written is handed in, and this is all that happens. -/
theorem run_write (text : String) (s : RenderState) :
    (write text).run s = (if s.takes text then .ok () else .error .outputFull,
      (s.withText text).after [.wrote text]) := by
  have offered := run_offer text s
  obtain ⟨layers, frames, captures, blocks, next, request, response, queries, history, output⟩ := s
  cases captures with
  | cons c cs =>
    rw [write, run_bind_ok offered]
    rfl
  | nil =>
    rw [write, run_bind_ok offered, RenderState.takes]
    dsimp only [List.isEmpty_nil, Bool.not_true, Bool.false_or]
    cases output.takes text with
    | true => rfl
    | false => rfl

/-- What follows on a text that may not be accepted, if it changes nothing. -/
theorem run_bind_of_taken {α β : Type} {m : Render α} {f : α → Render β} {s s' : RenderState}
    {accepted : Bool} {a : α} {b : β}
    (ran : m.run s = (if accepted then .ok a else .error .outputFull, s'))
    (next : (f a).run s' = (.ok b, s')) :
    (m >>= f).run s = (if accepted then .ok b else .error .outputFull, s') := by
  cases accepted with
  | true => exact (run_bind_ok ran).trans next
  | false => exact run_bind_error ran

end Render

/-! ## The start of a block -/

namespace Step

open Render

variable {e : Engine} {t : Template} {i : Invocation} {s : RenderState} {o : CacheOptions}
  {text : String}

/-- The store has the text of a block that begins with some options. -/
structure Hits (e : Engine) (t : Template) (i : Invocation) (s : RenderState) (o : CacheOptions)
    (text : String) : Prop where
  /-- The options are what is said in the argument of the block. -/
  options : ∃ args, i.args.evaluate (s.scope e) t.source = .ok args ∧
    CacheOptions.read args.values.head? = .ok o
  /-- The store is not bypassed. -/
  consults : o.bypasses s.request = false
  /-- The store finds the text under the key of the block. -/
  found : ∃ st, e.store = some st ∧
    st.get s.calls (o.keyAt i.origin) o.isGlobal = .ok (some text)

/-- What is kept account of where the store has the text of a block. -/
def eventsOfHit (i : Invocation) (o : CacheOptions) (text : String) : List Event :=
  [.started i.origin o, .called (.get (o.keyAt i.origin) o.isGlobal), .wrote text]

theorem calls_eventsOfHit :
    History.calls (eventsOfHit i o text) = [.get (o.keyAt i.origin) o.isGlobal] := rfl

/-- At its start the text of the block is written, and nothing is opened. -/
theorem run_startCached_of_hits (hit : Hits e t i s o text) :
    (startCached e t i).run s = (if s.takes text then .ok false else .error .outputFull,
      (s.withText text).after (eventsOfHit i o text)) := by
  obtain ⟨⟨args, evaluated, read⟩, consults, st, hst, found⟩ := hit
  let began := s.after [.started i.origin o]
  let asked := s.after [.started i.origin o, .called (.get (o.keyAt i.origin) o.isGlobal)]
  have looked : (lookUp st (o.keyAt i.origin) o.isGlobal).run began = (.ok (some text), asked) := by
    refine (run_call_ok ?_).trans (congrArg _ (RenderState.after_after s _ _))
    rw [RenderState.calls_after]
    exact (List.append_nil s.calls).symm ▸ found
  have wrote : (write text).run asked = (if s.takes text then .ok () else .error .outputFull,
      (s.withText text).after (eventsOfHit i o text)) := by
    rw [run_write, RenderState.withText_after, RenderState.takes_after, RenderState.after_after]
    rfl
  have answered : (write text >>= fun _ => pure false : Render Bool).run asked =
      (if s.takes text then .ok false else .error .outputFull,
        (s.withText text).after (eventsOfHit i o text)) := run_bind_of_taken wrote rfl
  have consulted : (consult st (.ofOptions i.origin o)).run began =
      (write text >>= fun _ => pure false : Render Bool).run asked := run_bind_ok looked
  rw [run_startCached evaluated, run_beginBlock_of_consult read hst consults, consulted, answered]
  cases s.takes text with
  | true => rfl
  | false => rfl

end Step

/-- The block comes down to its text, whatever its body is. -/
theorem Stmt.run_cached_of_hits {e : Engine} {t : Template} {start : Invocation} {s : RenderState}
    {o : CacheOptions} {text : String} (hit : Step.Hits e t start s o text)
    (visit : Template → Render Unit) (body : List Stmt) (stop : Invocation) :
    (Stmt.render e visit t (.cached start body stop)).run s =
      (if s.takes text then .ok () else .error .outputFull,
        (s.withText text).after (Step.eventsOfHit start o text)) := by
  rw [Stmt.render, Step.cached]
  exact Render.run_bind_of_taken (Step.run_startCached_of_hits hit) rfl

/-! ## Runs -/

namespace Program

/-- The start of a cached block in a program has the body and the end of the block behind it, and it
may jump behind that end. -/
theorem holds_cached {t : Template} {code : List Instr} {position target : Nat} {i : Invocation}
    (program : t.program? = some code) (next : code[position]? = some (.startCached i target)) :
    ∃ body stop last,
      Holds code position ((Stmt.cached i body stop).layout position) ∧
      last + 1 = position + ((Stmt.cached i body stop).layout position).length ∧
      code[last]? = some (.stopCached stop) ∧ target = last + 1 := by
  obtain ⟨last, ⟨s, block, holds, size⟩, jumps⟩ := (nests_of_getElem? program next).start rfl
  cases s with
  | block first body stop => cases next.symm.trans holds.head
  | cached first body stop =>
    cases next.symm.trans holds.head
    have behind := Option.some.inj jumps
    refine ⟨body, stop, last, holds, size, ?_, behind⟩
    rw [← Nat.succ.inj behind]
    exact holds.tail.right.head
  | _ => cases block

end Program

open Machine Program

namespace Machine

open Render

/-- Where a run comes to the start of a block whose text is in the store, the block has a body and
an end in the program, and the next step writes the text and leads behind that end. Nothing else
happens: besides the text that is handed in and the account of it the state is what it was, and of
the store one text has been looked up. The same is done by the statement, whatever its body is. -/
theorem step_of_hits {e : Engine} {limit : Nat} {t : Template} {job : Job} {data : Value}
    {ps : List Passage} {c : Config} (path : Path e limit (.start t job data) ps c)
    {a : Activation} {rest : List Activation} (stack : c.stack = a :: rest) {i : Invocation}
    {target : Nat} (next : a.next? = some (.startCached i target)) {o : CacheOptions}
    {text : String} (hit : Step.Hits e a.template i c.state o text) :
    ∃ body stop last,
      Holds a.code a.position ((Stmt.cached i body stop).layout a.position) ∧
      last + 1 = a.position + ((Stmt.cached i body stop).layout a.position).length ∧
      a.code[last]? = some (.stopCached stop) ∧
      (step e limit c.stack).run c.state =
        (if c.state.takes text then .ok (a.goTo (last + 1) :: rest) else .error .outputFull,
          (c.state.withText text).after (Step.eventsOfHit i o text)) ∧
      ((step e limit c.stack).run c.state).2.calls =
        c.state.calls ++ [.get (o.keyAt i.origin) o.isGlobal] ∧
      ∀ visit body' stop',
        (Stmt.render e visit a.template (.cached i body' stop')).run c.state =
          (if c.state.takes text then .ok () else .error .outputFull,
            (c.state.withText text).after (Step.eventsOfHit i o text)) := by
  have programs := (marked_of_path path).programs
  rw [stack] at programs
  obtain ⟨body, stop, last, holds, size, ending, rfl⟩ :=
    holds_cached (List.forall_mem_cons.1 programs).1 next
  have stepped : (step e limit c.stack).run c.state =
      (if c.state.takes text then .ok (a.goTo (last + 1) :: rest) else .error .outputFull,
        (c.state.withText text).after (Step.eventsOfHit i o text)) := by
    rw [stack, step, next]
    show (Step.startCached e a.template i >>= fun opened =>
      (pure ((if opened then a.advance else a.goTo (last + 1)) :: rest) : Render _)).run _ = _
    exact run_bind_of_taken (Step.run_startCached_of_hits hit) rfl
  refine ⟨body, stop, last, holds, size, ending, stepped, ?_, Stmt.run_cached_of_hits hit⟩
  rw [stepped, RenderState.calls_after, RenderState.calls_withText, Step.calls_eventsOfHit]

end Machine

/-- A block around a loop with another block in it, and text behind it. -/
def Template.aroundLoop : Template where
  name := none
  source := "ab"
  body :=
    [.cachedAs "outer"
      [.forLoop (.item ⟨"a", ⟨0, 1⟩⟩) (.literal (.list [.int 1, .int 2]) ⟨0, 1⟩)
        [.cachedAs "inner" [.raw ⟨0, 1⟩]]],
      .raw ⟨1, 2⟩]

/-- The text of the outer block is empty, and the store is not asked for the inner one. -/
theorem Machine.step_of_hits_enclosing :
    let e : Engine :=
      { Engine.new .standard with
        store := some (RecordingStore.cache ⟨[("outer", false, "")], false, false, false⟩) }
    let c := Config.start .aroundLoop (.ofData .none) .none
    let a : Activation := ⟨.aroundLoop, Stmt.layoutAll 0 Template.aroundLoop.body, 0, false⟩
    c.stack = [a] ∧ (∃ i target o, a.next? = some (.startCached i target) ∧
      Step.Hits e .aroundLoop i c.state o "") ∧
      (∃ stop last, a.code[last]? = some (.stopCached stop) ∧ 0 < last ∧
        ((step e 8 c.stack).run c.state).1 = .ok [a.goTo (last + 1)]) ∧
      ((step e 8 c.stack).run c.state).2.calls = [.get "outer" false] := by
  intro e c a
  have next : ∃ i target, a.next? = some (.startCached i target) ∧
      ∃ o, Step.Hits e .aroundLoop i c.state o "" ∧ o.keyAt i.origin = "outer" ∧
        o.isGlobal = false :=
    ⟨_, _, rfl, _, ⟨⟨_, rfl, rfl⟩, rfl, _, rfl, rfl⟩, rfl, rfl⟩
  obtain ⟨i, target, next, o, hit, key, isGlobal⟩ := next
  obtain ⟨body, stop, last, -, size, ending, stepped, calls, -⟩ :=
    @Machine.step_of_hits e 8 _ _ _ _ c .nil a [] rfl i target next o "" hit
  refine ⟨rfl, ⟨i, target, o, next, hit⟩, ⟨stop, last, ending, ?_, ?_⟩, ?_⟩
  · simp only [Stmt.layout, List.length_cons, List.length_append] at size
    omega
  · rw [stepped]
    rfl
  · rw [calls, key, isGlobal]
    rfl

end Stencil
