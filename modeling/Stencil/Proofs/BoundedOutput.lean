import Stencil.Proofs.OutputGrowth
import Stencil.Proofs.Provenance

/-!
# Outputs with bounds

A render to an output that has room for a number of bytes goes on as one to an output without bounds
until a text does not fit, and then fails. The output has taken as much of the text of the other one
as there is room for. This holds if directives end with an error when the output has refused a text.

- `Script.GivesUp`: a script ends with an error, whatever it still does.
- `Script.PassesOn`: after a text that was refused the script gives up.
- `RenderState.limit`: a state with an output that has bounds.
- `Tracks`: what comes of a computation with bounds and without them.
- `Bounded`: with bounds, a computation tracks itself without them.
- `bounded_tree`: statements are bounded if their directives pass refusals on.
- `Engine.render_limited`: what comes of a render with bounds.
-/

namespace Stencil

/-! ## Scripts -/

namespace Script

variable {α : Type}

/-- With an output that has refused a text, the script ends with the refusal or with an error of its
own. Of further texts the output accepts those without any character. -/
def GivesUp : Script α → Prop
  | .done _ => False
  | .fail f => f ≠ .broken
  | .full => True
  | .look next => ∀ v, (next v).GivesUp
  | .write text next => (next text.isEmpty).GivesUp
  | .assign _ _ next => next.GivesUp
  | .respond _ next => next.GivesUp
  | .limit _ _ next => next.GivesUp
  | .ask _ next => ∀ answer, (next answer).GivesUp

/-- The script ends with an error if it meets with a refusal of the output, and speaks of one only
then. -/
def PassesOn : Script α → Prop
  | .done _ => True
  | .fail _ => True
  | .full => False
  | .look next => ∀ v, (next v).PassesOn
  | .write _ next => (next true).PassesOn ∧ (next false).GivesUp
  | .assign _ _ next => next.PassesOn
  | .respond _ next => next.PassesOn
  | .limit _ _ next => next.PassesOn
  | .ask _ next => ∀ answer, (next answer).PassesOn

/-- The standard directives pass refusals on. -/
theorem closed_passesOn : Closed fun s => s.PassesOn where
  goOn _ := trivial
  redirect _ _ _ := trivial
  fail _ := trivial
  view h := h
  put _ _ h := ⟨h, trivial⟩
  set _ _ _ h := h
  setHeader _ _ _ h := h
  limit _ _ h := h

end Script

/-! ## Outputs -/

/-- An output that has refused a text stays one that has. -/
theorem Output.accepts_append {o : Output} (h : o.accepts = false) (text : String) :
    (o.append text).accepts = false := by
  have size : (o.text ++ text).utf8ByteSize = o.text.utf8ByteSize + text.utf8ByteSize :=
    String.utf8ByteSize_append
  cases hr : o.room with
  | none =>
    rw [accepts, hr] at h
    cases h
  | some n =>
    rw [accepts, hr, Option.all_some, decide_eq_false_iff_not] at h
    rw [accepts, room_append, hr, Option.all_some, decide_eq_false_iff_not, text_append, size]
    omega

/-- Of further texts it accepts those without any character. -/
theorem Output.takes_of_refused {o : Output} (h : o.accepts = false) (text : String) :
    o.takes text = text.isEmpty := by
  rw [takes, accepts_append h, Bool.false_or]

/-- The bytes of a text. -/
def Text.bytes (s : String) : List UInt8 := s.toUTF8.data.toList

namespace Text

theorem bytes_append (s t : String) : bytes (s ++ t) = bytes s ++ bytes t := by
  simp [bytes]

theorem length_bytes (s : String) : (bytes s).length = s.utf8ByteSize := by
  simp [bytes]

/-- The first bytes of a text do not depend on what is added to it. -/
theorem take_bytes_append {n : Nat} {s : String} (h : n ≤ s.utf8ByteSize) (t : String) :
    (bytes (s ++ t)).take n = (bytes s).take n := by
  rw [bytes_append, List.take_append_of_le_length]
  rw [length_bytes]
  exact h

end Text

open Render

/-- The state with an output that has room for a number of bytes. -/
def RenderState.limit (s : RenderState) (n : Nat) : RenderState :=
  { s with output := { s.output with room := some n } }

variable {α β : Type} {m : Render α} {n : Nat}

/-- The render stops because of an error, or because its output has refused a text. -/
def Stop.Fails : Stop → Prop
  | .failed _ => True
  | .outputFull => True
  | _ => False

theorem Stop.Fails.nameStop {stop : Stop} (h : stop.Fails) (name : Option String) :
    (Render.nameStop name stop).Fails := by
  cases stop with
  | failed e => trivial
  | outputFull => trivial
  | _ => exact h.elim

theorem Stop.Fails.locateStop {stop : Stop} (h : stop.Fails) (source : String) (span : Span) :
    (Step.locateStop source span stop).Fails := by
  cases stop with
  | failed e => trivial
  | outputFull => trivial
  | _ => exact h.elim

/-- From a state, a computation ends with an error, and only adds to the output. -/
def GivesUpFrom (m : Render α) (s : RenderState) : Prop :=
  ∃ (stop : Stop) (s' : RenderState) (more : String), m.run s = (.error stop, s') ∧ stop.Fails ∧
    s'.output = s.output.append more

theorem givesUpFrom_throw {stop : Stop} (h : stop.Fails) (s : RenderState) :
    GivesUpFrom (throw stop : Render α) s :=
  ⟨stop, s, "", rfl, h, (Output.append_empty _).symm⟩

/-- A computation behind which another one gives up. -/
theorem GivesUpFrom.behind {k : α → Render β} {a : α} {s s' : RenderState} (more : String)
    (hm : m.run s = (.ok a, s')) (grown : s'.output = s.output.append more)
    (h : GivesUpFrom (k a) s') : GivesUpFrom (m >>= k) s := by
  obtain ⟨stop, s'', more', ends, fails, added⟩ := h
  refine ⟨stop, s'', more ++ more', ?_, fails, ?_⟩
  · rw [run_bind_ok hm]
    exact ends
  · rw [added, grown, Output.append_append]

theorem GivesUpFrom.behind_unwritten {k : α → Render β} {a : α} {s s' : RenderState}
    (hm : m.run s = (.ok a, s')) (same : s'.output = s.output) (h : GivesUpFrom (k a) s') :
    GivesUpFrom (m >>= k) s := by
  refine GivesUpFrom.behind "" hm ?_ h
  rw [same, Output.append_empty]

/-! ## Bounds -/

/-- A computation has ended with an error over an output that has refused a text, of which it has
taken the first bytes. -/
structure CutOff (taken : List UInt8) (stop : Stop) (s : RenderState) : Prop where
  fails : stop.Fails
  refused : s.output.accepts = false
  taken : s.output.taken = taken

/-- What comes of a computation without bounds and with room for a number of bytes: the same if all
that is written fits; otherwise the second one fails, and has taken the first bytes. -/
inductive Tracks (n : Nat) (r l : Except Stop α × RenderState) : Prop
  | fits (room : r.2.output.text.utf8ByteSize ≤ n) (same : l = (r.1, r.2.limit n))
  | cut {stop : Stop} {s : RenderState} (exceeds : n < r.2.output.text.utf8ByteSize)
      (ends : l = (.error stop, s))
      (cutOff : CutOff ((Text.bytes r.2.output.text).take n) stop s)

/-- A computation with room for a number of bytes tracks the same without bounds, from where all
that has been written fits. -/
structure Bounded (n : Nat) (m : Render α) : Prop where
  grows : OnlyAdds m
  tracks : ∀ s, s.output.room = none → s.output.text.utf8ByteSize ≤ n →
    Tracks n (m.run s) (m.run (s.limit n))

/-- Where nothing is written, bounds make no difference. -/
theorem bounded_of_output (hout : ∀ s, (m.run s).2.output = s.output)
    (hsame : ∀ s, m.run (s.limit n) = ((m.run s).1, (m.run s).2.limit n)) : Bounded n m := by
  refine ⟨onlyAdds_of_output hout, fun s _ fits => .fits ?_ (hsame s)⟩
  rw [hout]
  exact fits

/-- What is added behind a text that does not fit makes no difference. -/
theorem Tracks.cut_append {r l : Except Stop α × RenderState} {stop : Stop} {s s' : RenderState}
    {more : String} (more' : String) (exceeds : n < s.output.text.utf8ByteSize)
    (grown : r.2.output = s.output.append more) (ends : l = (.error stop, s'))
    (cutOff : CutOff ((Text.bytes (s.output.text ++ more')).take n) stop s') : Tracks n r l := by
  have size : (s.output.text ++ more).utf8ByteSize =
      s.output.text.utf8ByteSize + more.utf8ByteSize := String.utf8ByteSize_append
  refine .cut ?_ ends ⟨cutOff.fails, cutOff.refused, ?_⟩
  · rw [grown, Output.text_append, size]
    omega
  · rw [cutOff.taken, grown, Output.text_append, Text.take_bytes_append (by omega),
      Text.take_bytes_append (by omega)]

theorem Bounded.bind {k : α → Render β} (hm : Bounded n m) (hk : ∀ a, Bounded n (k a)) :
    Bounded n (m >>= k) := by
  refine ⟨hm.grows.bind fun a => (hk a).grows, fun s hroom hfits => ?_⟩
  obtain ⟨more, grown⟩ := hm.grows s
  have first := hm.tracks s hroom hfits
  rcases h : m.run s with ⟨stop | a, s₁⟩
  · rw [run_bind_error h]
    rw [h] at first
    cases first with
    | fits room same => exact .fits room (run_bind_error same)
    | cut exceeds ends cutOff => exact .cut exceeds (run_bind_error ends) cutOff
  · rw [run_bind_ok h]
    rw [h] at first grown
    cases first with
    | fits room same =>
      have unbounded : s₁.output.room = none := by
        have grown : s₁.output = s.output.append more := grown
        rw [grown, Output.room_append, hroom]
      rw [run_bind_ok same]
      exact (hk a).tracks s₁ unbounded room
    | cut exceeds ends cutOff =>
      -- the first one goes on behind the text that did not fit
      obtain ⟨more', grown'⟩ := (hk a).grows s₁
      refine Tracks.cut_append "" exceeds grown' (run_bind_error ends) ?_
      rw [String.append_empty]
      exact cutOff

/-- Reasons to stop may be changed, but an error has to stay one. -/
theorem Bounded.mapError {m' : Render α} {g : Stop → Stop} (h : Bounded n m)
    (hm : ∀ s, m'.run s = ((m.run s).1.mapError g, (m.run s).2))
    (hg : ∀ stop : Stop, stop.Fails → (g stop).Fails) : Bounded n m' := by
  refine ⟨h.grows.mapError hm, fun s hroom hfits => ?_⟩
  rw [hm, hm]
  cases h.tracks s hroom hfits with
  | fits room same =>
    refine .fits room ?_
    rw [same]
  | @cut stop s' exceeds ends cutOff =>
    refine .cut exceeds ?_ ⟨hg stop cutOff.fails, cutOff.refused, cutOff.taken⟩
    rw [ends]
    rfl

theorem bounded_read {f : RenderState → α} (h : ∀ s : RenderState, f (s.limit n) = f s) :
    Bounded n (get >>= fun s => pure (f s) : Render α) := by
  refine bounded_of_output (fun _ => rfl) fun s => ?_
  show (Except.ok (f (s.limit n)), s.limit n) = _
  rw [h]
  rfl

/-- What is done with a part of the state that has nothing to do with the output. -/
theorem bounded_reading {f : RenderState → α} {k : α → Render β}
    (h : ∀ s : RenderState, f (s.limit n) = f s) (hk : ∀ a, Bounded n (k a)) :
    Bounded n (get >>= fun s => k (f s)) := (bounded_read h).bind hk

theorem bounded_modify {g : RenderState → RenderState}
    (hout : ∀ s, (g s).output = s.output) (h : ∀ s : RenderState, g (s.limit n) = (g s).limit n) :
    Bounded n (modify g : Render PUnit) :=
  bounded_of_output hout fun s => Prod.ext rfl (h s)

theorem bounded_results : ResultCongruence fun m _ => Bounded n m where
  pure _ := bounded_of_output (fun _ => rfl) fun _ => rfl
  throw _ := bounded_of_output (fun _ => rfl) fun _ => rfl
  bind := Bounded.bind

/-- A text that is handed in. Without bounds it is accepted; with bounds it is so if it fits. -/
theorem tracks_of_offer {k : Bool → Render α} {text : String} {s : RenderState}
    (hroom : s.output.room = none) (hfits : s.output.text.utf8ByteSize ≤ n)
    (accepted : Bounded n (k true))
    (refused : ∀ s' : RenderState, s'.captures = [] → s'.output.accepts = false →
      GivesUpFrom (k false) s') :
    Tracks n ((offer text >>= k).run s) ((offer text >>= k).run (s.limit n)) := by
  have plain := run_offer text s
  have bounded := run_offer text (s.limit n)
  have captures : (s.limit n).captures = s.captures := rfl
  rw [captures] at bounded
  cases hc : s.captures with
  | cons c cs =>
    rw [hc] at plain bounded
    rw [run_bind_ok plain, run_bind_ok bounded]
    exact accepted.tracks _ hroom hfits
  | nil =>
    rw [hc] at plain bounded
    have takes : s.output.takes text = true := by
      have accepts : (s.output.append text).accepts = true := Output.accepts_of_room hroom
      rw [Output.takes, accepts, Bool.true_or]
    have accepts : ((s.limit n).output.append text).accepts =
        decide ((s.output.text ++ text).utf8ByteSize ≤ n) := rfl
    rw [takes] at plain
    rw [Output.takes, accepts] at bounded
    rw [run_bind_ok plain, run_bind_ok bounded]
    by_cases fits : (s.output.text ++ text).utf8ByteSize ≤ n
    · rw [decide_eq_true fits, Bool.true_or]
      exact accepted.tracks _ hroom fits
    · have full : text.isEmpty = false := by
        refine Bool.eq_false_iff.2 fun empty => fits ?_
        rw [String.isEmpty_iff.1 empty, String.append_empty]
        exact hfits
      rw [decide_eq_false fits, full, Bool.false_or]
      -- one side goes on, and the other one gives up
      obtain ⟨more, grown⟩ :=
        accepted.grows { s.after [.wrote text] with output := s.output.append text }
      obtain ⟨stop, s'', more', ends, fails, taken⟩ := refused
        { (s.limit n).after [.wrote text] with output := (s.limit n).output.append text } hc
        (accepts.trans (decide_eq_false fits))
      refine Tracks.cut_append more' (Nat.lt_of_not_le fits) grown ends ⟨fails, ?_, ?_⟩
      · rw [taken]
        exact Output.accepts_append (accepts.trans (decide_eq_false fits)) more'
      · rw [taken]
        rfl

theorem bounded_write (text : String) : Bounded n (write text) := by
  refine ⟨onlyAdds_steps.write text, fun s hroom hfits => ?_⟩
  exact tracks_of_offer hroom hfits (bounded_results.pure ()) fun s' _ _ =>
    givesUpFrom_throw (show Stop.outputFull.Fails from trivial) s'

/-- The operations on values, texts and layers are bounded. -/
theorem bounded_layers : LayerCongruence fun m _ => Bounded n m where
  toResultCongruence := bounded_results
  named name hm := Bounded.mapError hm (run_named name _) fun _ fails => fails.nameStop name
  evaluate e _ _ := bounded_results.reading e (bounded_read fun _ => rfl) _
  write := bounded_write
  enterLoop _ := bounded_modify (fun _ => rfl) fun _ => rfl
  enterRound _ _ := bounded_modify (fun _ => rfl) fun _ => rfl
  leaveLoop := bounded_modify (fun _ => rfl) fun _ => rfl
  enter _ := bounded_modify (fun _ => rfl) fun _ => rfl
  leave := bounded_modify (fun _ => rfl) fun _ => rfl

theorem bounded_record (event : Event) : Bounded n (record event) :=
  bounded_modify (fun _ => rfl) fun _ => rfl

theorem bounded_call (c : StoreCall) (ask : List StoreCall → Except String α) :
    Bounded n (call c ask) := by
  refine bounded_of_output (fun s => ?_) fun s => ?_
  · rw [run_call]
    rfl
  · rw [run_call, run_call]
    rfl

theorem bounded_ask (store : Option CacheStore) (c : StoreCall) : Bounded n (ask store c) := by
  cases store with
  | none => exact bounded_results.pure none
  | some st => exact bounded_of_output (fun _ => rfl) fun _ => rfl

theorem bounded_setLimit (query : String) (limit : Option Nat) :
    Bounded n (setLimit query limit) := by
  obtain ⟨change, limited⟩ := exists_run_setLimit query limit
  refine bounded_of_output (fun s => ?_) fun s => ?_
  · rw [limited]
  · rw [limited, limited]
    rfl

theorem bounded_bindVariable (name : String) (value : Value) :
    Bounded n (bindVariable name value) := bounded_modify (fun _ => rfl) fun _ => rfl

theorem bounded_respond (change : Response → Response) : Bounded n (respond change) :=
  bounded_modify (fun _ => rfl) fun _ => rfl

theorem bounded_openBlock (pending : Option Pending) : Bounded n (openBlock pending) :=
  bounded_modify (fun _ => rfl) fun _ => rfl

theorem bounded_closeBlock : Bounded n closeBlock := by
  refine bounded_of_output (fun s => ?_) fun s => ?_
  · rw [run_closeBlock]
    split <;> rfl
  · have blocks : (s.limit n).blocks = s.blocks := rfl
    rw [run_closeBlock, run_closeBlock, blocks]
    split <;> rfl

/-! ## Directives -/

namespace Script

variable (e : Engine) (origin : Origin)

theorem onlyAdds_run (s : Script α) : OnlyAdds (s.run e origin) :=
  onlyAdds_steps.run e (a := e.store) (b := e.store) (fun c _ => onlyAdds_ask e.store c) origin
    s.callsOnly_any

/-- A script that gives up ends with an error, and has only added to the output. -/
theorem givesUpFrom_run : ∀ {s : Script α}, s.GivesUp → ∀ st : RenderState, st.captures = [] →
    st.output.accepts = false → GivesUpFrom (s.run e origin) st
  | .done _, h, _, _, _ => False.elim h
  | .fail (.error e), _, st, _, _ => givesUpFrom_throw (show (Stop.failed e).Fails from trivial) st
  | .fail .broken, h, _, _, _ => absurd rfl h
  | .full, _, st, _, _ => givesUpFrom_throw (show Stop.outputFull.Fails from trivial) st
  | .look next, h, st, hc, hf => by
    have seen : (Render.view e origin).run st = (.ok (st.view e origin), st) := rfl
    exact .behind_unwritten seen rfl (givesUpFrom_run (s := next _) (h _) st hc hf)
  | .write text next, h, st, hc, hf => by
    have offered := run_offer text st
    rw [hc, Output.takes_of_refused hf] at offered
    exact .behind text offered rfl (givesUpFrom_run (s := next text.isEmpty) h
      { st.after [.wrote text] with output := st.output.append text } hc
      (Output.accepts_append hf text))
  | .assign name value next, h, st, hc, hf =>
    .behind_unwritten (run_modify _ _) rfl (givesUpFrom_run (s := next) h _ hc hf)
  | .respond change next, h, st, hc, hf =>
    .behind_unwritten (run_modify _ _) rfl (givesUpFrom_run (s := next) h _ hc hf)
  | .limit query l next, h, st, hc, hf => by
    obtain ⟨change, limited⟩ := exists_run_setLimit query l
    exact .behind_unwritten (limited st) rfl (givesUpFrom_run (s := next) h _ hc hf)
  | .ask c next, h, st, hc, hf => by
    obtain ⟨answer, w, asked⟩ := exists_run_ask e.store c st
    exact .behind_unwritten asked rfl (givesUpFrom_run (s := next answer) (h answer) _ hc hf)

/-- A script that passes refusals on is bounded. -/
theorem bounded_run : ∀ {s : Script α}, s.PassesOn → Bounded n (s.run e origin)
  | .done a, _ => bounded_results.pure a
  | .fail f, _ => bounded_results.lift (.error f)
  | .full, h => False.elim h
  | .look _, h =>
    (bounded_read fun _ => rfl).bind fun v => bounded_run (h v)
  | .write text next, h => by
    have accepted := bounded_run (s := next true) h.1
    refine ⟨(onlyAdds_offer text).bind fun a => onlyAdds_run e origin (next a), ?_⟩
    exact fun s hroom hfits => tracks_of_offer hroom hfits accepted
      (givesUpFrom_run e origin (s := next false) h.2)
  | .assign name value next, h =>
    (bounded_bindVariable name value).bind fun _ => bounded_run (s := next) h
  | .respond change next, h =>
    (bounded_respond change).bind fun _ => bounded_run (s := next) h
  | .limit query l next, h =>
    (bounded_setLimit query l).bind fun _ => bounded_run (s := next) h
  | .ask c _, h => (bounded_ask e.store c).bind fun answer => bounded_run (h answer)

end Script

/-! ## Trees -/

/-- The markers of cached blocks are bounded. -/
theorem bounded_blocks : BlockCongruence fun m _ => Bounded n m where
  toWriteCongruence := bounded_layers.toWriteCongruence
  locatedAt source span hm := Bounded.mapError hm (Step.run_locatedAt source span _)
    fun _ fails => fails.locateStop source span
  arguments e _ _ := bounded_results.reading e (bounded_read fun _ => rfl) _
  record := bounded_record
  call := bounded_call
  request hk := bounded_reading (fun _ => rfl) hk
  openBlock := bounded_openBlock
  closeBlock := bounded_closeBlock

theorem Step.bounded_perform (e : Engine) (t : Template) {d : Directive}
    (hd : d.Makes Script.PassesOn) : Bounded n (perform e t d) := by
  have read : Bounded n (arguments e t d.args) := bounded_blocks.arguments e t d.args
  refine Bounded.mapError (read.bind fun args => ?_) (run_named _ _) fun _ fails =>
    fails.nameStop t.name
  exact Bounded.mapError (Script.bounded_run e d.origin (hd args)) (run_locatedAt _ _ _)
    fun _ fails => fails.locateStop t.source d.span

/-- Statements are bounded if their directives pass refusals on. -/
theorem bounded_tree (e : Engine) (n : Nat) :
    TreeCongruence e e.store e.store (Directive.Makes Script.PassesOn) fun m _ => Bounded n m where
  toWriteCongruence := bounded_layers.toWriteCongruence
  halt := bounded_of_output (fun _ => rfl) fun _ => rfl
  perform t _ hd := Step.bounded_perform e t hd
  loop t vars x _ m' hm := bounded_layers.loop (n := m') e t vars x hm
  within given _ m' hm := bounded_layers.within (n := m') given hm
  cached t start stop _ m hm := bounded_blocks.cached (n := m) e t start stop hm

/-! ## Renders -/

/-- The same with another number of bytes that the output has room for. -/
def Job.withRoom (job : Job) (room : Option Nat) : Job := { job with room }

/-- The result of a render says nothing about the bounds of an output that all texts fit into. -/
theorem Outcome.result_ofRun_limit (refusal : String) (ending : Except Stop Unit)
    {s : RenderState} (hroom : s.output.room = none) {n : Nat}
    (hfits : s.output.text.utf8ByteSize ≤ n) :
    (ofRun refusal (ending, s.limit n)).result = (ofRun refusal (ending, s)).result := by
  have accepts : (s.limit n).output.accepts = s.output.accepts :=
    (decide_eq_true hfits).trans (Output.accepts_of_room hroom).symm
  rcases ending with (_ | e | _ | _) | _
  case error.failed =>
    show Except.error (Failure.error (failure refusal (s.limit n).output e)) = _
    rw [failure, accepts]
    rfl
  all_goals rfl

/-- A render that fails over an output that has refused a text fails with the error of the
output. -/
theorem Outcome.result_ofRun_of_refused (refusal : String) {stop : Stop} (fails : stop.Fails)
    {s : RenderState} (refused : s.output.accepts = false) :
    (ofRun refusal (.error stop, s)).result = .error (.error (.ofCause (.io refusal))) := by
  cases stop with
  | failed e => rw [ofRun, failure, refused, if_neg Bool.false_ne_true]
  | outputFull => rfl
  | _ => exact fails.elim

/-- A letter of two bytes, and a block behind it. -/
def Template.accented : Template where
  name := none
  source := "aéb"
  body := [.raw ⟨0, 3⟩, .cachedAs "k" [.raw ⟨3, 4⟩]]

/-- An output says that it is full. -/
def Job.cramped : Job := { Job.ofData .none with refusal := "full" }

namespace Engine

variable {e : Engine} {t : Template}

/-- A render with bounds tracks the same without them. -/
theorem tracks_run (he : e.Makes Script.PassesOn) (ht : t.Makes Script.PassesOn) (job : Job)
    (n : Nat) :
    Tracks n (e.run t (job.withRoom none)) (e.run t (job.withRoom (some n))) := by
  simp only [Engine.run, Job.withRoom]
  cases job.data with
  | error f => exact .fits (Nat.zero_le n) rfl
  | ok data =>
    have bounded := (bounded_tree e n).renderAt he.templates (e.depthLimit job)
      (e.depthLimit job - 1 + 1) t ht
    exact bounded.tracks ((job.withRoom none).initial data) rfl (Nat.zero_le n)

/-- A render to an output with bounds comes to the same as one without them, whose text the output
has then taken, if all of this text fits. Otherwise it comes to the error of the output, which has
taken as many bytes of this text as it has room for. This holds if directives end with an error when
the output refuses a text. -/
theorem render_limited (he : e.Makes Script.PassesOn) (ht : t.Makes Script.PassesOn) (job : Job)
    (room : Option Nat) :
    ((∀ n, room = some n → (e.render t (job.withRoom none)).body.utf8ByteSize ≤ n) →
      (e.render t (job.withRoom room)).result = (e.render t (job.withRoom none)).result ∧
        (e.render t (job.withRoom room)).calls = (e.render t (job.withRoom none)).calls ∧
        (e.render t (job.withRoom room)).output.taken =
          Text.bytes (e.render t (job.withRoom none)).body) ∧
    ∀ n, room = some n → n < (e.render t (job.withRoom none)).body.utf8ByteSize →
      (e.render t (job.withRoom room)).result = .error (.error (.ofCause (.io job.refusal))) ∧
        (e.render t (job.withRoom room)).output.taken =
          (Text.bytes (e.render t (job.withRoom none)).body).take n := by
  have text : (e.render t (job.withRoom none)).body =
      (e.run t (job.withRoom none)).2.output.text := by
    rw [Outcome.body, render, Outcome.output_ofRun]
  rw [text]
  constructor
  · intro fits
    cases room with
    | none =>
      refine ⟨rfl, rfl, ?_⟩
      rw [render, Outcome.output_ofRun, Output.taken, room_run]
      rfl
    | some n =>
      cases tracks_run he ht job n with
      | cut exceeds => exact absurd (fits n rfl) (Nat.not_le_of_lt exceeds)
      | fits room same =>
        refine ⟨?_, ?_, ?_⟩
        · rw [render, same]
          exact Outcome.result_ofRun_limit _ _ (e.room_run t _) room
        · rw [render, render, same, Outcome.calls_ofRun, Outcome.calls_ofRun]
          rfl
        · rw [render, same, Outcome.output_ofRun]
          exact List.take_of_length_le (Nat.le_trans (Nat.le_of_eq (Text.length_bytes _)) room)
  · rintro n rfl exceeds
    cases tracks_run he ht job n with
    | fits room same => exact absurd room (Nat.not_le_of_lt exceeds)
    | cut exceeds ends cutOff =>
      refine ⟨?_, ?_⟩
      · rw [render, ends]
        exact Outcome.result_ofRun_of_refused _ cutOff.fails cutOff.refused
      · rw [render, Outcome.output_ofRun, ends]
        exact cutOff.taken

/-- With room for two bytes the letter is cut; with room for four the text of the block fits. -/
theorem render_limited_accented :
    (Engine.new .standard).Makes Script.PassesOn ∧ Template.accented.Makes Script.PassesOn ∧
      ((Engine.new .standard).render .accented (Job.cramped.withRoom (some 2))).result =
        .error (.error (.ofCause (.io "full"))) ∧
      ((Engine.new .standard).render .accented (Job.cramped.withRoom (some 2))).output.taken =
        [97, 195] ∧
      ((Engine.new .standard).render .accented (Job.cramped.withRoom (some 4))).result =
        .ok .empty ∧
      ((Engine.new .standard).render .accented (Job.cramped.withRoom (some 4))).output.taken =
        [97, 195, 169, 98] := by
  have engine : (Engine.new .standard).Makes Script.PassesOn :=
    makes_new Script.closed_passesOn .standard
  have template : Template.accented.Makes Script.PassesOn := nofun
  have whole : ((Engine.new .standard).render .accented (Job.cramped.withRoom none)).body =
      "aéb" := rfl
  obtain ⟨-, cut⟩ := render_limited engine template .cramped (some 2)
  obtain ⟨fits, -⟩ := render_limited engine template .cramped (some 4)
  rw [whole] at cut fits
  obtain ⟨refused, taken⟩ := cut 2 rfl (by decide)
  obtain ⟨same, -, taken'⟩ := fits (by rintro n ⟨⟩; decide)
  refine ⟨engine, template, refused, ?_, ?_, ?_⟩
  · rw [taken]
    decide
  · rw [same]
    rfl
  · rw [taken']
    decide

end Engine

end Stencil
