import Stencil.Proofs.CachedBlocks
import Stencil.Proofs.Paths

/-!
# What steps write

A text that is handed in goes to the output if no capture is open, and to a capture otherwise. No
step does both, so that the output is made up from what some steps have written. Only directives
change the response, and only they and the ends of blocks have something kept in the store.

- `RenderState.Emits`: what has happened is in the history, and in the output if no capture is open.
- `Render.Emitting`, `Render.Reserved`: this holds of a computation; it leaves the response and the
  store alone.
- `LayerCongruence.execute`: what holds of the operations of a render holds of instructions.
- `Step.emits_startCached`, `Step.emits_stopCached`: the markers of cached blocks.
- `Machine.Passage.Deed`, `Machine.Moves.deed`: what a step of the machine does.
- `Machine.Path.history`, `Machine.Path.output`, `Machine.Path.response`: what some steps have done.
-/

namespace Stencil

open History

/-! ## Texts among events -/

/-- The texts that are handed in by some events, put together. -/
def History.written : List Event → String
  | [] => ""
  | .wrote text :: w => text ++ written w
  | .started _ _ :: w => written w
  | .stopped :: w => written w
  | .called _ :: w => written w

theorem History.written_append (v w : List Event) : written (v ++ w) = written v ++ written w := by
  induction v with
  | nil => exact String.empty_append.symm
  | cons event v ih =>
    cases event with
    | wrote text =>
      show text ++ written (v ++ w) = text ++ written v ++ written w
      rw [ih, String.append_assoc]
    | _ => exact ih

/-- Some events have been added to the history, and their texts to the output if no capture is open
at last. -/
structure RenderState.Emits (s : RenderState) (w : List Event) (s' : RenderState) : Prop where
  history : s'.history = s.history ++ w
  output : s'.output = if s'.captures = [] then s.output.append (written w) else s.output

namespace RenderState.Emits

variable {s s₁ s' : RenderState} {v w : List Event}

/-- Nothing has happened. -/
theorem nothing (history : s'.history = s.history) (output : s'.output = s.output) :
    s.Emits [] s' where
  history := by rw [history, List.append_nil]
  output := by
    rw [written, Output.append_empty, ite_self]
    exact output

theorem trans (h : s.Emits v s₁) (h' : s₁.Emits w s') (same : s'.captures = [] ↔ s₁.captures = []) :
    s.Emits (v ++ w) s' where
  history := by rw [h'.history, h.history, List.append_assoc]
  output := by
    rw [h'.output, h.output, written_append]
    by_cases captured : s'.captures = []
    · rw [if_pos captured, if_pos (same.1 captured), if_pos captured, Output.append_append]
    · rw [if_neg captured, if_neg fun h => captured (same.2 h), if_neg captured]

/-- Events without texts may come first. -/
theorem behind (unwritten : written v = "") (h : (s.after v).Emits w s') : s.Emits (v ++ w) s' where
  history := by rw [h.history, RenderState.after, List.append_assoc]
  output := by
    rw [h.output, written_append, unwritten, String.empty_append]
    rfl

/-- If the calls are as before, there are none among the events. -/
theorem calls_eq_nil (h : s.Emits w s') (same : s'.calls = s.calls) : History.calls w = [] := by
  rw [RenderState.calls, h.history, calls_append] at same
  exact List.append_right_eq_self.1 same

/-- The events are what has been added to the history. -/
theorem drop_history (h : s.Emits w s') : s'.history.drop s.history.length = w := by
  rw [h.history, List.drop_left]

end RenderState.Emits

/-! ## Computations -/

namespace Render

variable {α β : Type}

/-- The texts that a computation hands in go to the output or to a capture, all of them alike. -/
def Emitting (m : Render α) : Prop :=
  ∀ s, ((m.run s).2.captures = [] ↔ s.captures = []) ∧ ∃ w, s.Emits w (m.run s).2

/-- A computation keeps the response and makes no call to the store. -/
def Reserved (m : Render α) : Prop :=
  ∀ s, (m.run s).2.response = s.response ∧ (m.run s).2.calls = s.calls

theorem emitting_of_same {m : Render α} (h : ∀ s, (m.run s).2.captures = s.captures ∧
    (m.run s).2.history = s.history ∧ (m.run s).2.output = s.output) : Emitting m := by
  intro s
  obtain ⟨captures, history, output⟩ := h s
  exact ⟨by rw [captures], [], .nothing history output⟩

theorem Emitting.bind {m : Render α} {k : α → Render β} (hm : Emitting m)
    (hk : ∀ a, Emitting (k a)) : Emitting (m >>= k) := by
  intro s
  obtain ⟨same, w, first⟩ := hm s
  rcases h : m.run s with ⟨stop | a, s₁⟩
  · rw [h] at same first
    rw [run_bind_error h]
    exact ⟨same, w, first⟩
  · rw [h] at same first
    obtain ⟨same', v, second⟩ := hk a s₁
    rw [run_bind_ok h]
    exact ⟨same'.trans same, w ++ v, first.trans second same'⟩

theorem Reserved.bind {m : Render α} {k : α → Render β} (hm : Reserved m)
    (hk : ∀ a, Reserved (k a)) : Reserved (m >>= k) := by
  intro s
  obtain ⟨response, calls⟩ := hm s
  rcases h : m.run s with ⟨stop | a, s₁⟩
  · rw [h] at response calls
    rw [run_bind_error h]
    exact ⟨response, calls⟩
  · rw [h] at response calls
    obtain ⟨response', calls'⟩ := hk a s₁
    rw [run_bind_ok h]
    exact ⟨response'.trans response, calls'.trans calls⟩

theorem emitting_offer (text : String) : Emitting (offer text) := by
  intro s
  rw [run_offer]
  split
  · next c cs captures =>
    refine ⟨by simp [captures], [.wrote text], rfl, ?_⟩
    exact (if_neg (List.cons_ne_nil _ _)).symm
  · next captures =>
    refine ⟨Iff.rfl, [.wrote text], rfl, ?_⟩
    show s.output.append text = if s.captures = [] then s.output.append (text ++ "") else s.output
    rw [if_pos captures, String.append_empty]

theorem reserved_offer (text : String) : Reserved (offer text) := by
  intro s
  have calls : (s.after [.wrote text]).calls = s.calls := by simp
  rw [run_offer]
  split
  · exact ⟨rfl, calls⟩
  · exact ⟨rfl, calls⟩

theorem emitting_record {event : Event} (unwritten : written [event] = "") :
    Emitting (record event) := by
  refine fun s => ⟨Iff.rfl, [event], rfl, ?_⟩
  rw [unwritten, Output.append_empty, ite_self]
  rfl

theorem emitting_ask (store : Option CacheStore) (c : StoreCall) : Emitting (ask store c) := by
  cases store with
  | none => exact emitting_of_same fun _ => ⟨rfl, rfl, rfl⟩
  | some st =>
    have looked : Emitting get := emitting_of_same fun _ => ⟨rfl, rfl, rfl⟩
    exact looked.bind fun s => (emitting_record rfl).bind fun _ =>
      emitting_of_same fun _ => ⟨rfl, rfl, rfl⟩

theorem emitting_results : ResultCongruence fun m _ => Emitting m where
  pure _ := emitting_of_same fun _ => ⟨rfl, rfl, rfl⟩
  throw _ := emitting_of_same fun _ => ⟨rfl, rfl, rfl⟩
  bind := Emitting.bind

theorem reserved_results : ResultCongruence fun m _ => Reserved m where
  pure _ := fun _ => ⟨rfl, rfl⟩
  throw _ := fun _ => ⟨rfl, rfl⟩
  bind := Reserved.bind

/-- The steps of a render are emitting. -/
theorem emitting_steps : StepCongruence fun m _ => Emitting m where
  toResultCongruence := emitting_results
  named name hm := fun s => by
    rw [run_named]
    exact hm s
  locatedAt source span hm := fun s => by
    rw [Step.run_locatedAt]
    exact hm s
  evaluate e _ _ :=
    emitting_results.reading e (emitting_of_same fun _ => ⟨rfl, rfl, rfl⟩) _
  arguments e _ _ :=
    emitting_results.reading e (emitting_of_same fun _ => ⟨rfl, rfl, rfl⟩) _
  view _ _ := emitting_of_same fun _ => ⟨rfl, rfl, rfl⟩
  write text := emitting_results.write_of_offer (emitting_offer text)
  offer := emitting_offer
  bindVariable _ _ := emitting_of_same fun _ => ⟨rfl, rfl, rfl⟩
  respond _ := emitting_of_same fun _ => ⟨rfl, rfl, rfl⟩
  setLimit query limit := emitting_of_same fun s => by
    obtain ⟨change, h⟩ := exists_run_setLimit query limit
    rw [h]
    exact ⟨rfl, rfl, rfl⟩

theorem emitting_layers : LayerCongruence fun m _ => Emitting m where
  toWriteCongruence := emitting_steps.toWriteCongruence
  enterLoop _ := emitting_of_same fun _ => ⟨rfl, rfl, rfl⟩
  enterRound _ _ := emitting_of_same fun _ => ⟨rfl, rfl, rfl⟩
  leaveLoop := emitting_of_same fun _ => ⟨rfl, rfl, rfl⟩
  enter _ := emitting_of_same fun _ => ⟨rfl, rfl, rfl⟩
  leave := emitting_of_same fun _ => ⟨rfl, rfl, rfl⟩

/-- All that is rendered without directives is reserved, but for cached blocks. -/
theorem reserved_layers : LayerCongruence fun m _ => Reserved m where
  toResultCongruence := reserved_results
  named name hm := fun s => by
    rw [run_named]
    exact hm s
  evaluate e _ _ := reserved_results.reading e (fun _ => ⟨rfl, rfl⟩) _
  write text := reserved_results.write_of_offer (reserved_offer text)
  enterLoop _ := fun _ => ⟨rfl, rfl⟩
  enterRound _ _ := fun _ => ⟨rfl, rfl⟩
  leaveLoop := fun _ => ⟨rfl, rfl⟩
  enter _ := fun _ => ⟨rfl, rfl⟩
  leave := fun _ => ⟨rfl, rfl⟩

end Render

/-- Whatever a directive does, it is emitting. -/
theorem Step.emitting_perform (e : Engine) (t : Template) (d : Directive) :
    Render.Emitting (perform e t d) :=
  Render.emitting_steps.perform e (a := e.store) (b := e.store)
    (fun c _ => Render.emitting_ask e.store c) t fun args => (d.run args).callsOnly_any

/-! ## Cached blocks -/

namespace Step

open Render

variable {e : Engine} {t : Template} {i : Invocation} {s s' : RenderState}

theorem state_of_call {α : Type} {c : StoreCall} {ask : List StoreCall → Except String α} {a : α}
    (h : (call c ask).run s = (.ok a, s')) : s' = s.after [.called c] := by
  rw [run_call] at h
  exact (congrArg Prod.snd h).symm

/-- A text is written behind some events that have no texts. -/
theorem emits_write {v : List Event} {text : String} (unwritten : written v = "")
    (h : (write text).run (s.after v) = (.ok (), s')) :
    s'.response = s.response ∧ ∃ w, s.Emits (v ++ w) s' ∧ calls w = [] := by
  obtain ⟨-, w, emits⟩ := emitting_steps.write text (s.after v)
  obtain ⟨response, calls⟩ := reserved_layers.write text (s.after v)
  rw [h] at emits response calls
  exact ⟨response, w, emits.behind unwritten, emits.calls_eq_nil calls⟩

/-- A block that is opened captures what is written from now on. -/
theorem emits_openBlock {p : Option Pending} {v : List Event} {opened : Bool}
    (h : (openBlock p >>= fun _ => pure true).run (s.after v) = (.ok opened, s')) :
    s'.response = s.response ∧ s.Emits v s' := by
  cases h
  exact ⟨rfl, rfl, (if_neg (List.cons_ne_nil _ _)).symm⟩

/-- A block with the store writes what has been found in it, or nothing. -/
theorem emits_consult {st : CacheStore} {p : Pending} {v : List Event} {opened : Bool}
    (unwritten : written v = "") (h : (consult st p).run (s.after v) = (.ok opened, s')) :
    s'.response = s.response ∧ ∃ w, s.Emits (v ++ w) s' ∧ ∀ entry, .put entry ∉ calls w := by
  obtain ⟨found, s₁, got, h⟩ := bind_eq_ok h
  cases state_of_call got
  rw [RenderState.after_after] at h
  cases found with
  | some text =>
    obtain ⟨_, s₂, written', h⟩ := bind_eq_ok h
    cases h
    have unwritten' : written (v ++ [.called (.get p.key p.isGlobal)]) = "" := by
      rw [written_append, unwritten]
      rfl
    obtain ⟨response, w, emits, uncalled⟩ := emits_write unwritten' written'
    refine ⟨response, [.called (.get p.key p.isGlobal)] ++ w, ?_, ?_⟩
    · rw [← List.append_assoc]
      exact emits
    · simp [uncalled]
  | none =>
    obtain ⟨_, s₂, told, h⟩ := bind_eq_ok h
    cases state_of_call told
    rw [RenderState.after_after, List.append_assoc] at h
    obtain ⟨response, emits⟩ := emits_openBlock h
    exact ⟨response, _, emits, by simp⟩

/-- The start of a cached block writes what has been found in the store, or nothing. It has nothing
kept. -/
theorem emits_startCached {opened : Bool} (h : (startCached e t i).run s = (.ok opened, s')) :
    s'.response = s.response ∧ ∃ w, s.Emits w s' ∧ ∀ entry, .put entry ∉ calls w := by
  obtain ⟨args, h⟩ := exists_arguments_of_ok h
  cases hread : CacheOptions.read args.values.head? with
  | error f =>
    rw [run_beginBlock_of_fault hread] at h
    cases h
  | ok o =>
    have unkept : ∀ entry, .put entry ∉ calls [.started i.origin o] := by simp
    by_cases hb : ∀ st, e.store = some st → o.bypasses s.request = true
    · rw [run_beginBlock_of_bypass hread hb] at h
      obtain ⟨response, emits⟩ := emits_openBlock h
      exact ⟨response, _, emits, unkept⟩
    · simp only [Classical.not_forall] at hb
      obtain ⟨st, hst, hb⟩ := hb
      rw [run_beginBlock_of_consult hread hst (Bool.eq_false_iff.2 hb)] at h
      obtain ⟨response, w, emits, unkept'⟩ := emits_consult rfl h
      exact ⟨response, _, emits, fun entry => by simpa using unkept' entry⟩

/-- The end of a cached block writes the text that has been captured in it. What it has kept is this
text, as it was decided at the start of the block. -/
theorem emits_stopCached (h : (stopCached e t i).run s = (.ok (), s')) :
    s'.response = s.response ∧ ∃ b w, s.blocks = b :: s'.blocks ∧ s.Emits w s' ∧
      ∀ entry, .put entry ∈ calls w →
        ∃ p, b.pending = some p ∧ entry = p.entry (s.captures.head?.getD "") := by
  obtain ⟨b, blocks⟩ := blocks_of_stopCached h
  obtain ⟨-, h⟩ := exists_arguments_of_ok (m := fun _ => endBlock e) h
  obtain ⟨⟨pending, text⟩, s₁, hclosed, h⟩ := bind_eq_ok h
  rw [run_closeBlock, blocks] at hclosed
  cases hclosed
  -- the texts and events that come now are added to the same ones, whether the block is open or not
  have closed : ∀ {w : List Event}, (s.closed s'.blocks).Emits w s' → s.Emits w s' :=
    fun emits => ⟨emits.history, emits.output⟩
  dsimp only at h
  split at h
  · next p st pending store =>
    obtain ⟨_, s₂, kept, h⟩ := bind_eq_ok h
    cases state_of_call kept
    rw [RenderState.after_after] at h
    obtain ⟨response, w, emits, uncalled⟩ := emits_write rfl h
    refine ⟨response, b, _, blocks, closed emits, fun entry put => ⟨p, pending, ?_⟩⟩
    simpa [uncalled] using put
  · obtain ⟨response, w, emits, uncalled⟩ := emits_write rfl h
    refine ⟨response, b, _, blocks, closed emits, fun entry put => ?_⟩
    simp [uncalled] at put

end Step

/-! ## Instructions -/

namespace Instr

/-- The directive that an instruction runs. -/
def directive? : Instr → Option Directive
  | .directive d => some d
  | .start d _ => some d
  | .stop d => some d
  | _ => none

/-- The instruction begins or ends a cached block. -/
def isCached : Instr → Bool
  | .startCached _ _ => true
  | .stopCached _ => true
  | _ => false

end Instr

/-- An instruction that runs a directive goes on as the directive says. -/
theorem Machine.execute_eq_bind (e : Engine) (limit : Nat) (a : Activation)
    (rest : List Activation) {i : Instr} {d : Directive} (h : i.directive? = some d) :
    ∃ behind, execute e limit a rest i = Step.perform e a.template d >>= behind ∧
      ∀ flow, behind flow = follow e limit a.template d.span flow (a.advance :: rest) ∨
        flow = .skip ∧ ∃ stack, behind flow = pure stack := by
  cases i with
  | directive => exact Option.some.inj h ▸ ⟨_, rfl, fun _ => .inl rfl⟩
  | start _ target =>
    obtain rfl := Option.some.inj h
    refine ⟨_, rfl, fun flow => ?_⟩
    cases flow with
    | skip => exact .inr ⟨rfl, _, rfl⟩
    | _ => exact .inl rfl
  | stop => exact Option.some.inj h ▸ ⟨_, rfl, fun _ => .inl rfl⟩
  | _ => cases h

namespace LayerCongruence

variable {R : ∀ {α : Type}, Render α → Render α → Prop} (h : LayerCongruence R) (limit : Nat)

include h

theorem activate (u : Template) (isScoped : Bool) (stack : List Activation) :
    R (Machine.activate limit u isScoped stack) (Machine.activate limit u isScoped stack) := by
  unfold Machine.activate
  split
  · exact h.throw nofun
  unfold Machine.place
  split
  · exact h.pure _
  · exact h.throw nofun

theorem follow (e : Engine) (t : Template) (span : Span) (stack : List Activation) :
    ∀ flow, (flow = .halt → R (α := List Activation) (throw .halted) (throw .halted)) →
      R (Machine.follow e limit t span flow stack) (Machine.follow e limit t span flow stack)
  | .next, _ => h.pure _
  | .skip, _ => h.pure _
  | .halt, halt => halt rfl
  | .visit _ given, _ =>
    h.bind (h.target e t _ _ _) fun u => h.bind (h.enter given) fun _ => h.activate limit u true _

/-- What holds of the operations of a render holds of an instruction, unless this one runs a
directive or begins or ends a cached block. -/
theorem execute (e : Engine) (a : Activation) (rest : List Activation)
    (hget : R (get : Render RenderState) get) :
    ∀ {i : Instr}, i.directive? = none → i.isCached = false →
      R (Machine.execute e limit a rest i) (Machine.execute e limit a rest i)
  | .raw _, _, _ => h.bind (h.raw _ _) fun _ => h.pure _
  | .print _, _, _ => h.bind (h.print e _ _) fun _ => h.pure _
  | .pipe _ _ _, _, _ => h.bind (h.pipe e _ _ _ _) fun _ => h.pure _
  | .include _ none, _, _ => h.bind (h.target e _ _ _ _) fun u => h.activate limit u false _
  | .include _ (some _), _, _ =>
    h.bind (h.given e _ _) fun given => h.bind (h.target e _ _ _ _) fun u =>
      h.bind (h.enter given) fun _ => h.activate limit u true _
  | .jump _, _, _ => h.pure _
  | .branch _ _ _, _, _ => h.bind (h.test e _ _) fun _ => h.pure _
  | .loop _ _, _, _ => h.bind (h.rounds e _ _ _) fun _ => h.pure _
  | .round target, _, _ => by
    refine h.bind hget fun s => ?_
    split
    · exact h.bind h.leaveLoop fun _ => h.pure _
    · exact h.bind (h.enterRound _ _) fun _ => h.pure _

theorem finish (isScoped : Bool) (rest : List Activation) :
    R (Machine.finish isScoped rest) (Machine.finish isScoped rest) := by
  cases isScoped with
  | true => exact h.bind h.leave fun _ => h.pure _
  | false => exact h.pure _

end LayerCongruence

/-! ## Steps of the machine -/

namespace Machine

open Render

/-- The instruction that the machine runs next. -/
def Config.next? (c : Config) : Option Instr := c.stack.head?.bind Activation.next?

namespace Passage

variable (p : Passage)

/-- What has happened in a step. -/
def events : List Event := p.after.state.history.drop p.before.state.history.length

/-- The text that is written in a step outside of all captures. -/
def outside : String := if p.after.state.captures = [] then written p.events else ""

/-- A directive is run in a step. -/
def IsDirective : Prop := ∃ d, p.before.next?.bind Instr.directive? = some d

/-- A block is closed in a step, and an entry has the text that has been captured in it. -/
structure Closes (b : Block) (entry : CacheEntry) : Prop where
  stops : ∃ i, p.before.next? = some (.stopCached i)
  block : p.before.state.blocks = b :: p.after.state.blocks
  entry : ∃ pending, b.pending = some pending ∧
    entry = pending.entry (p.before.state.captures.head?.getD "")

/-- What a step does: the texts that it hands in go to the output if no capture is open, the
response is changed only by a directive, and an entry is kept only by one or by the end of a block.
-/
structure Deed : Prop where
  emits : p.before.state.Emits p.events p.after.state
  response : p.after.state.response = p.before.state.response ∨ p.IsDirective
  kept : ∀ entry, .put entry ∈ calls p.events → p.IsDirective ∨ ∃ b, p.Closes b entry

end Passage

variable {e : Engine} {limit : Nat} {c c' : Config}

theorem Passage.deed_of_emits {p : Passage} {w : List Event}
    (emits : p.before.state.Emits w p.after.state)
    (response : p.after.state.response = p.before.state.response ∨ p.IsDirective)
    (kept : ∀ entry, .put entry ∈ calls w → p.IsDirective ∨ ∃ b, p.Closes b entry) : p.Deed := by
  have events : p.events = w := emits.drop_history
  exact ⟨events ▸ emits, response, events ▸ kept⟩

/-- A directive may do all that a computation may do. -/
theorem Passage.deed_of_isDirective {α : Type} {m : Render α} {r : Except Stop α} {p : Passage}
    (emitting : Emitting m) (run : m.run p.before.state = (r, p.after.state)) (h : p.IsDirective) :
    p.Deed := by
  obtain ⟨-, w, emits⟩ := emitting p.before.state
  rw [run] at emits
  exact deed_of_emits emits (.inr h) fun _ _ => .inl h

theorem Passage.deed_of_reserved {α : Type} {m : Render α} {r : Except Stop α} {p : Passage}
    (emitting : Emitting m) (reserved : Reserved m)
    (run : m.run p.before.state = (r, p.after.state)) : p.Deed := by
  obtain ⟨-, w, emits⟩ := emitting p.before.state
  obtain ⟨response, calls⟩ := reserved p.before.state
  rw [run] at emits response calls
  refine deed_of_emits emits (.inl response) fun entry put => ?_
  rw [emits.calls_eq_nil calls] at put
  cases put

theorem Config.next?_of_stack {a : Activation} {rest : List Activation} {i : Instr}
    (hstack : c.stack = a :: rest) (next : a.next? = some i) : c.next? = some i := by
  rw [Config.next?, hstack]
  exact next

/-- Whatever directive it runs, an instruction is emitting. -/
theorem emitting_execute {a : Activation} {rest : List Activation} {i : Instr} {d : Directive}
    (directive : i.directive? = some d) : Emitting (execute e limit a rest i) := by
  obtain ⟨behind, executed, follows⟩ := execute_eq_bind e limit a rest directive
  rw [executed]
  refine (Step.emitting_perform e a.template d).bind fun flow => ?_
  rcases follows flow with followed | ⟨-, stack, skipped⟩
  · rw [followed]
    exact emitting_layers.follow limit e a.template d.span _ flow fun _ =>
      emitting_of_same fun _ => ⟨rfl, rfl, rfl⟩
  · rw [skipped]
    exact emitting_layers.pure stack

/-- An instruction that the machine has run does what a step does. -/
theorem deed_of_execute {a : Activation} {rest stack : List Activation} {s : RenderState}
    {i : Instr} (next : c.next? = some i)
    (run : (execute e limit a rest i).run c.state = (.ok stack, s)) :
    (Passage.mk c ⟨stack, s⟩).Deed := by
  cases directive : i.directive? with
  | some d =>
    refine Passage.deed_of_isDirective (emitting_execute directive) run ⟨d, ?_⟩
    show c.next?.bind Instr.directive? = some d
    rw [next]
    exact directive
  | none =>
    cases cached : i.isCached with
    | false =>
      have emitting : Emitting (execute e limit a rest i) :=
        emitting_layers.execute limit e a rest (emitting_of_same fun _ => ⟨rfl, rfl, rfl⟩)
          directive cached
      have reserved : Reserved (execute e limit a rest i) :=
        reserved_layers.execute limit e a rest (fun _ => ⟨rfl, rfl⟩) directive cached
      exact Passage.deed_of_reserved emitting reserved run
    | true =>
      cases i with
      | startCached i target =>
        obtain ⟨opened, s₁, started, run⟩ := bind_eq_ok run
        cases run
        obtain ⟨response, w, emits, unkept⟩ := Step.emits_startCached started
        exact Passage.deed_of_emits emits (.inl response) fun entry put => absurd put (unkept entry)
      | stopCached i =>
        obtain ⟨_, s₁, stopped, run⟩ := bind_eq_ok run
        cases run
        obtain ⟨response, b, w, blocks, emits, kept⟩ := Step.emits_stopCached stopped
        refine Passage.deed_of_emits emits (.inl response) fun entry put => .inr ⟨b, ?_⟩
        exact ⟨⟨i, next⟩, blocks, kept entry put⟩
      | _ => cases cached

/-- Every step does so. -/
theorem Moves.deed (move : Moves e limit c c') : (Passage.mk c c').Deed := by
  cases hstack : c.stack with
  | nil => exact absurd hstack move.1
  | cons a rest =>
    rcases move.executes hstack with ⟨-, run⟩ | ⟨i, next, run⟩
    · exact Passage.deed_of_reserved (emitting_layers.finish _ _) (reserved_layers.finish _ _) run
    · exact deed_of_execute (Config.next?_of_stack hstack next) run

/-- The texts that are written in some steps outside of all captures, put together. -/
def outside (ps : List Passage) : String := String.join (ps.map Passage.outside)

variable {ps : List Passage} {p : Passage}

theorem outside_snoc : outside (ps ++ [p]) = outside ps ++ p.outside := by
  rw [outside, List.map_append, String.join_append, List.map_singleton, String.join_cons,
    String.join_nil, String.append_empty]
  rfl

theorem Passage.Deed.history (deed : p.Deed) :
    p.after.state.history = p.before.state.history ++ p.events := deed.emits.history

/-- The output is added the text that is written outside of captures. -/
theorem Passage.Deed.output (deed : p.Deed) :
    p.after.state.output = p.before.state.output.append p.outside := by
  rw [deed.emits.output, Passage.outside]
  split
  · rfl
  · exact (Output.append_empty _).symm

/-- What is in the history behind a path has happened in its steps. -/
theorem Path.history (path : Path e limit c ps c') :
    c'.state.history = c.state.history ++ ps.flatMap Passage.events := by
  induction path with
  | nil => exact (List.append_nil _).symm
  | snoc _ move ih =>
    rw [move.deed.history, ih, List.flatMap_append, List.append_assoc, List.flatMap_singleton]

/-- What is in the output behind a path has been written in its steps outside of captures. -/
theorem Path.output (path : Path e limit c ps c') :
    c'.state.output = c.state.output.append (outside ps) := by
  induction path with
  | nil => exact (Output.append_empty _).symm
  | snoc _ move ih => rw [move.deed.output, ih, outside_snoc, Output.append_append]

/-- What holds of the response and is kept by directives holds at the end of a path. -/
theorem Path.response (path : Path e limit c ps c') {P : Response → Prop}
    (start : P c.state.response)
    (kept : ∀ p ∈ ps, p.IsDirective → P p.before.state.response → P p.after.state.response) :
    P c'.state.response := by
  induction path with
  | nil => exact start
  | snoc _ move ih =>
    have before := ih fun p hp => kept p (List.mem_append_left _ hp)
    rcases move.deed.response with same | directive
    · exact same ▸ before
    · exact kept _ (List.mem_append_right _ (List.mem_singleton_self _)) directive before

end Machine

end Stencil
