import Stencil.Proofs.History
import Stencil.Proofs.OutputGrowth

/-!
# The calls of a render

What a render does to the store follows from its history, and its history from its statements.

- `Grows`: a part of a render has come to its end, and its history is a word.
- `Broken`: a part of a render has stopped, and its history is cut.
- `Accounted`: one of them is the case for a computation from every state.
- `Step.accounted_cached`: a cached block around a body that is accounted for.
- `accounted_renders`: a whole render is accounted for.
- `Engine.calls_render`: the calls of a render are nested up to the place where it stops.
-/

namespace Stencil

open History

/-! ## Texts -/

namespace RenderState

/-- Where texts are handed to: the captures, the innermost first, and the output. -/
def texts (s : RenderState) : List String × Output := (s.captures, s.output)

/-- What becomes of them when a text is handed in. -/
def handed (text : String) : List String × Output → List String × Output
  | (c :: cs, o) => ((c ++ text) :: cs, o)
  | ([], o) => ([], o.append text)

theorem handed_empty : ∀ x, handed "" x = x
  | (c :: cs, o) => by simp [handed]
  | ([], o) => by simp [handed, Output.append]

theorem handed_handed (t u : String) : ∀ x, handed u (handed t x) = handed (t ++ u) x
  | (c :: cs, o) => by simp [handed, String.append_assoc]
  | ([], o) => by simp [handed, Output.append, String.append_assoc]

end RenderState

open RenderState

/-! ## Parts of renders -/

variable {e : Engine} {s s' s'' : RenderState} {α β : Type}

/-- A part of a render with a history and a text has come to its end. -/
structure Grown (e : Engine) (s : RenderState) (w : List Event) (t : String) (s' : RenderState) :
    Prop where
  word : Word e.store s.request s.calls w t
  history : s'.history = s.history ++ w
  request : s'.request = s.request
  blocks : s'.blocks = s.blocks
  texts : s'.texts = handed t s.texts

/-- A part of a render has come to its end, and its history is a word. -/
def Grows (e : Engine) (s s' : RenderState) : Prop := ∃ w t, Grown e s w t s'

/-- The start of a block whose body is going to be rendered. -/
structure Opened (e : Engine) (s : RenderState) (first : List Event) (p : Option Pending)
    (s' : RenderState) : Prop where
  opening : Opening e.store s.request s.calls first p
  history : s'.history = s.history ++ first
  request : s'.request = s.request
  blocks : ∃ id, s'.blocks = ⟨id, p⟩ :: s.blocks
  captures : s'.captures = "" :: s.captures
  output : s'.output = s.output

/-- A reason to stop that reports a failure of the store, if there is one. -/
def Reports (failure : Option String) (stop : Stop) : Prop :=
  ∀ text, failure = some text → ∃ err, stop = .failed err ∧ err.cause = .store text

/-- A part of a render has stopped, and its history is cut where blocks are open. -/
def Broken (e : Engine) (s : RenderState) (stop : Stop) (s' : RenderState) : Prop :=
  ∃ v opened failure, Cut e.store s.request s.calls v opened failure ∧
    s'.history = s.history ++ v ∧
    s'.blocks.map Block.pending = opened ++ s.blocks.map Block.pending ∧
    Reports failure stop

theorem calls_of_history {w : List Event} (h : s'.history = s.history ++ w) :
    s'.calls = s.calls ++ calls w := by
  rw [RenderState.calls, h, calls_append]
  rfl

theorem Grown.append {w v : List Event} {t u : String} (h : Grown e s w t s')
    (h' : Grown e s' v u s'') : Grown e s (w ++ v) (t ++ u) s'' where
  word := by
    refine h.word.append ?_
    rw [← calls_of_history h.history, ← h.request]
    exact h'.word
  history := by rw [h'.history, h.history, List.append_assoc]
  request := h'.request.trans h.request
  blocks := h'.blocks.trans h.blocks
  texts := by rw [h'.texts, h.texts, handed_handed]

theorem Grows.refl (h : s'.history = s.history) (hr : s'.request = s.request)
    (hb : s'.blocks = s.blocks) (ht : s'.texts = s.texts) : Grows e s s' := by
  refine ⟨[], "", .nil _, ?_, hr, hb, ?_⟩
  · rw [h, List.append_nil]
  · rw [ht, handed_empty]

theorem Grows.trans (h : Grows e s s') (h' : Grows e s' s'') : Grows e s s'' := by
  obtain ⟨w, t, h⟩ := h
  obtain ⟨v, u, h'⟩ := h'
  exact ⟨w ++ v, t ++ u, h.append h'⟩

/-- What has stopped in a part of a render has stopped in the render. -/
theorem Grows.broken {stop : Stop} (h : Grows e s s') (h' : Broken e s' stop s'') :
    Broken e s stop s'' := by
  obtain ⟨w, t, h⟩ := h
  obtain ⟨v, opened, failure, hv, hhistory, hblocks, hreports⟩ := h'
  refine ⟨w ++ v, opened, failure, .after h.word ?_, ?_, ?_, hreports⟩
  · rw [← calls_of_history h.history, ← h.request]
    exact hv
  · rw [hhistory, h.history, List.append_assoc]
  · rw [hblocks, h.blocks]

theorem Grows.stopped (stop : Stop) (h : Grows e s s') : Broken e s stop s' := by
  obtain ⟨w, t, h⟩ := h
  refine ⟨w, [], none, .short h.word, h.history, ?_, ?_⟩
  · rw [h.blocks]
    rfl
  · intro text ht
    cases ht

/-- Naming and locating errors do not change what they report. -/
theorem Broken.nameStop {stop : Stop} (name : Option String) (h : Broken e s stop s') :
    Broken e s (Render.nameStop name stop) s' := by
  obtain ⟨v, opened, failure, hv, hhistory, hblocks, hreports⟩ := h
  refine ⟨v, opened, failure, hv, hhistory, hblocks, fun text ht => ?_⟩
  obtain ⟨err, rfl, hcause⟩ := hreports text ht
  exact ⟨_, rfl, (err.cause_inTemplate name).trans hcause⟩

theorem Broken.locateStop {stop : Stop} (source : String) (span : Span)
    (h : Broken e s stop s') : Broken e s (Step.locateStop source span stop) s' := by
  obtain ⟨v, opened, failure, hv, hhistory, hblocks, hreports⟩ := h
  refine ⟨v, opened, failure, hv, hhistory, hblocks, fun text ht => ?_⟩
  obtain ⟨err, rfl, hcause⟩ := hreports text ht
  exact ⟨_, rfl, (err.cause_locate source span).trans hcause⟩

/-- What has stopped in the body of a block leaves the block open. -/
theorem Opened.broken {first : List Event} {p : Option Pending} {stop : Stop}
    (h : Opened e s first p s') (h' : Broken e s' stop s'') : Broken e s stop s'' := by
  obtain ⟨v, opened, failure, hv, hhistory, hblocks, hreports⟩ := h'
  obtain ⟨id, hid⟩ := h.blocks
  refine ⟨first ++ v, opened ++ [p], failure, ?_, ?_, ?_, hreports⟩
  · rw [calls_of_history h.history, h.request] at hv
    refine Cut.inside (w := []) (.nil _) ?_ ?_
    · rw [calls_nil, List.append_nil]
      exact h.opening
    · rw [calls_nil, List.append_nil]
      exact hv
  · rw [hhistory, h.history, List.append_assoc]
  · rw [hblocks, hid, List.append_assoc]
    rfl

/-! ## Computations -/

/-- A computation is accounted for from every state. -/
def Accounted (e : Engine) (m : Render α) : Prop :=
  ∀ s, Render.Ends m s (fun _ s' => Grows e s s') (Broken e s)

namespace Render

theorem accounted_pure (a : α) : Accounted e (pure a : Render α) :=
  fun _ => Grows.refl rfl rfl rfl rfl

theorem accounted_throw (stop : Stop) : Accounted e (throw stop : Render α) :=
  fun _ => (Grows.refl rfl rfl rfl rfl).stopped stop

theorem accounted_bind {m : Render α} {k : α → Render β} (hm : Accounted e m)
    (hk : ∀ a, Accounted e (k a)) : Accounted e (m >>= k) :=
  fun s => (hm s).bind fun a s' h =>
    (hk a s').imp (fun _ _ h' => h.trans h') (fun _ _ h' => h.broken h')

/-- Changes to the rest of the state are of no account. -/
theorem accounted_modify {f : RenderState → RenderState}
    (hf : ∀ s, (f s).history = s.history ∧ (f s).request = s.request ∧
      (f s).blocks = s.blocks ∧ (f s).texts = s.texts) :
    Accounted e (modify f : Render PUnit) :=
  fun s => Grows.refl (hf s).1 (hf s).2.1 (hf s).2.2.1 (hf s).2.2.2

/-- A text is handed in whether it is accepted or not. -/
theorem ends_offer (text : String) (s : RenderState) :
    Ends (offer text) s (fun _ => Grown e s [.wrote text] text) (fun _ _ => False) := by
  rw [Ends, run_offer]
  cases hc : s.captures with
  | cons c cs => exact ⟨.single text, rfl, rfl, rfl, by simp [RenderState.texts, handed, hc, after]⟩
  | nil => exact ⟨.single text, rfl, rfl, rfl, by simp [RenderState.texts, handed, hc, after]⟩

theorem ends_write (text : String) (s : RenderState) :
    Ends (write text) s (fun _ => Grown e s [.wrote text] text)
      (fun _ => Grown e s [.wrote text] text) := by
  refine (ends_offer (e := e) text s).seq (fun _ _ h => h.elim) fun accepted s' h => ?_
  cases accepted with
  | true => exact h
  | false => exact h

theorem accounted_offer (text : String) : Accounted e (offer text) := fun s =>
  (ends_offer text s).imp (fun _ _ h => ⟨_, _, h⟩) (fun _ _ h => h.elim)

theorem accounted_results (e : Engine) : ResultCongruence fun m _ => Accounted e m where
  pure := accounted_pure
  throw _ := accounted_throw _
  bind := accounted_bind

/-- The operations of a render are accounted for. -/
theorem accounted_steps (e : Engine) : StepCongruence fun m _ => Accounted e m where
  toResultCongruence := accounted_results e
  named name hm := fun s => (hm s).named fun _ _ h => h.nameStop name
  locatedAt source span hm := fun s => (hm s).locatedAt fun _ _ h => h.locateStop source span
  evaluate e' _ _ :=
    (accounted_results e).reading e' (fun _ => Ends.get (Grows.refl rfl rfl rfl rfl)) _
  arguments e' _ _ :=
    (accounted_results e).reading e' (fun _ => Ends.get (Grows.refl rfl rfl rfl rfl)) _
  view _ _ := fun _ => Ends.get (Grows.refl rfl rfl rfl rfl)
  write text := (accounted_results e).write_of_offer (accounted_offer text)
  offer := accounted_offer
  bindVariable _ _ := accounted_modify fun _ => ⟨rfl, rfl, rfl, rfl⟩
  respond _ := accounted_modify fun _ => ⟨rfl, rfl, rfl, rfl⟩
  setLimit _ _ := accounted_modify fun _ => by split <;> exact ⟨rfl, rfl, rfl, rfl⟩

/-! ## Calls -/

/-- A call is recorded, and a failure of the store is reported. -/
theorem ends_call (c : StoreCall) (ask : List StoreCall → Except String α) (s : RenderState) :
    Ends (call c ask) s
      (fun a s' => ask s.calls = .ok a ∧ s' = s.after [.called c])
      (fun stop s' => ∃ text, ask s.calls = .error text ∧
        stop = .failed (.ofCause (.store text)) ∧ s' = s.after [.called c]) := by
  rw [Ends, run_call]
  cases ask s.calls with
  | ok a => exact ⟨rfl, rfl⟩
  | error text => exact ⟨text, rfl, rfl, rfl⟩

/-- The innermost open block is closed, and its text is what has been captured. -/
theorem ends_closeBlock {b : Block} {bs : List Block} {text : String} {cs : List String}
    (hb : s.blocks = b :: bs) (hc : s.captures = text :: cs) :
    Ends closeBlock s
      (fun r s' => r = (b.pending, text) ∧
        s' = (s.closed bs).after [.stopped])
      (fun _ _ => False) := by
  rw [Ends, run_closeBlock, hb, hc]
  exact ⟨rfl, rfl⟩

end Render

/-! ## Cached blocks -/

theorem reports_store (text : String) :
    Reports (some text) (.failed (.ofCause (.store text))) :=
  fun _ h => ⟨_, rfl, congrArg Cause.store (Option.some.inj h)⟩

/-- The store has failed at the start of a block. -/
theorem broken_of_refused {v : List Event} {text : String}
    (hv : Refused e.store s.request s.calls v text) (hhistory : s'.history = s.history ++ v)
    (hblocks : s'.blocks = s.blocks) :
    Broken e s (.failed (.ofCause (.store text))) s' := by
  refine ⟨v, [], some text, Cut.refused (w := []) (.nil _) ?_, hhistory, ?_, reports_store text⟩
  · rw [calls_nil, List.append_nil]
    exact hv
  · rw [hblocks]
    rfl

/-- The store has failed at the end of a block. -/
theorem broken_of_lost {first body : List Event} {p : Pending} {b text : String}
    {st : CacheStore} (h : Opened e s first (some p) s') (h' : Grown e s' body b s'')
    (hst : e.store = some st)
    (hput : st.put (s.calls ++ calls first ++ calls body) (p.entry b) = .error text)
    {s₃ : RenderState} (hblocks : s₃.blocks = s.blocks)
    (hhistory : s₃.history = s''.history ++ [.stopped, .called (.put (p.entry b))]) :
    Broken e s (.failed (.ofCause (.store text))) s₃ := by
  refine ⟨first ++ body ++ [.stopped, .called (.put (p.entry b))], [], some text, ?_, ?_, ?_,
    reports_store text⟩
  · refine Cut.lost (w := []) (.nil _) ?_ ?_ hst ?_
    · rw [calls_nil, List.append_nil]
      exact h.opening
    · rw [calls_nil, List.append_nil, ← calls_of_history h.history, ← h.request]
      exact h'.word
    · rw [calls_nil, List.append_nil]
      exact hput
  · rw [hhistory, h'.history, h.history]
    simp only [List.append_assoc]
  · rw [hblocks]
    rfl

/-- What comes of the start of a block: its body is going to be rendered, or it has come to its end
already. -/
def Begun (e : Engine) (s : RenderState) : Bool → RenderState → Prop
  | true, s' => ∃ first p, Opened e s first p s'
  | false, s' => Grows e s s'

namespace Step

open Render

theorem ends_consult {st : CacheStore} {origin : Origin} {o : CacheOptions} {p : Pending}
    (s : RenderState) (hp : p = .ofOptions origin o) (hst : e.store = some st)
    (hb : o.bypasses s.request = false) :
    Ends (consult st p) (s.after [.started origin o]) (Begun e s) (Broken e s) := by
  -- the store is asked for the text
  refine (ends_call _ _ _).seq ?_ ?_
  · rintro _ _ ⟨text, hget, rfl, rfl⟩
    rw [calls_after, calls_cons_started, calls_nil, List.append_nil] at hget
    rw [after_after]
    exact broken_of_refused (.get origin o p hp hst hb hget) rfl rfl
  rintro found s₁ ⟨hget, rfl⟩
  rw [calls_after, calls_cons_started, calls_nil, List.append_nil] at hget
  rw [after_after]
  cases found with
  | some found =>
    -- the text that is found is handed in, which is all that becomes of the block
    have hit : ∀ s₂, Grown e (s.after [.started origin o, .called (.get p.key p.isGlobal)])
        [.wrote found] found s₂ → Grows e s s₂ := fun s₂ h =>
      ⟨_, _, .ofHit origin o p found hp hst hb hget, by simp [h.history, after], h.request,
        h.blocks, h.texts⟩
    refine (ends_write found _).seq (fun stop s₂ h => ?_) fun _ s₂ h => hit s₂ h
    exact (hit s₂ h).stopped stop
  | none =>
    -- no text is found, so the start is announced
    refine (ends_call _ _ _).seq ?_ ?_
    · rintro _ _ ⟨text, hstart, rfl, rfl⟩
      rw [calls_after] at hstart
      rw [after_after]
      exact broken_of_refused (.start origin o p hp hst hb hget hstart) rfl rfl
    · rintro ⟨⟩ s₂ ⟨hstart, rfl⟩
      rw [calls_after] at hstart
      rw [after_after]
      refine Ends.modify ⟨[.started origin o, .called (.get p.key p.isGlobal),
        .called (.start p.isGlobal)], some p, ?_⟩
      exact ⟨.missed origin o p hp hst hb hget hstart, rfl, rfl, ⟨_, rfl⟩, rfl, rfl⟩

theorem ends_beginBlock (e : Engine) (origin : Origin) (args : Args) (s : RenderState) :
    Ends (beginBlock e origin args) s (Begun e s) (Broken e s) := by
  unfold beginBlock
  cases (CacheOptions.read args.values.head?).mapError Failure.error with
  | error f => exact (Grows.refl rfl rfl rfl rfl).stopped (stopOf f)
  | ok o =>
    rw [lift, pure_bind]
    refine Ends.modify ?_
    -- there is no store, or the request bypasses it
    have bypassed : (∀ st, e.store = some st → o.bypasses s.request = true) →
        Ends bypass (s.after [.started origin o]) (Begun e s) (Broken e s) := by
      intro hb
      refine Ends.modify ⟨[.started origin o], none, ?_⟩
      exact ⟨.bypassed origin o hb, rfl, rfl, ⟨_, rfl⟩, rfl, rfl⟩
    cases hst : e.store with
    | none =>
      refine bypassed fun st h => ?_
      rw [hst] at h
      cases h
    | some st =>
      refine Ends.get ?_
      split
      next hb => exact bypassed fun _ _ => hb
      next hb => exact ends_consult s rfl hst (Bool.eq_false_iff.2 hb)

/-- The text that has been captured is handed on at the end of a block. -/
theorem ends_write_of_closing {first body last : List Event} {p : Option Pending} {b : String}
    {s₁ s₂ : RenderState} (h₁ : Opened e s first p s₁) (h₂ : Grown e s₁ body b s₂)
    (hlast : Closing e.store (s.calls ++ calls first ++ calls body) p b (last ++ [.wrote b])) :
    Ends (write b) ((s₂.closed s.blocks).after last) (fun _ s' => Grows e s s')
      (Broken e s) := by
  have htexts : ((s₂.closed s.blocks).after last).texts = s.texts := by
    have texts := h₂.texts
    simp only [RenderState.texts, h₁.captures, h₁.output, handed, Prod.mk.injEq] at texts
    simp [RenderState.texts, after, closed, texts]
  have grows : ∀ s₃, Grown e ((s₂.closed s.blocks).after last) [.wrote b] b s₃ →
      Grows e s s₃ := by
    intro s₃ h₃
    refine ⟨_, b, .ofBlock h₁.opening ?_ hlast, ?_, ?_, h₃.blocks, ?_⟩
    · rw [← h₁.request, ← calls_of_history h₁.history]
      exact h₂.word
    · rw [h₃.history]
      simp [after, closed, h₂.history, h₁.history]
    · rw [h₃.request]
      exact h₂.request.trans h₁.request
    · rw [h₃.texts, htexts]
  exact (ends_write b _).imp (fun _ s₃ h => grows s₃ h) fun stop s₃ h => (grows s₃ h).stopped stop

theorem ends_endBlock {first body : List Event} {p : Option Pending} {b : String}
    {s₁ s₂ : RenderState} (h₁ : Opened e s first p s₁) (h₂ : Grown e s₁ body b s₂) :
    Ends (endBlock e) s₂ (fun _ s' => Grows e s s') (Broken e s) := by
  -- the body has left the block on top, and the innermost capture holds its text
  obtain ⟨id, hid⟩ := h₁.blocks
  have hblocks : s₂.blocks = ⟨id, p⟩ :: s.blocks := h₂.blocks.trans hid
  have hcaptures : s₂.captures = b :: s.captures := by
    have texts := congrArg Prod.fst h₂.texts
    simpa only [RenderState.texts, h₁.captures, handed, String.empty_append] using texts
  have hcalls : s₂.calls = s.calls ++ calls first ++ calls body := by
    rw [calls_of_history h₂.history, calls_of_history h₁.history]
  refine (ends_closeBlock hblocks hcaptures).seq (fun _ _ h => h.elim) ?_
  rintro _ _ ⟨rfl, rfl⟩
  cases p with
  | none => exact ends_write_of_closing h₁ h₂ (.bypassed b)
  | some p =>
    -- a block of which something is to be kept was opened with a store
    obtain ⟨st, hst⟩ : ∃ st, e.store = some st := by
      cases h₁.opening with
      | missed _ _ _ _ hst => exact ⟨_, hst⟩
    have past : ((s₂.closed s.blocks).after [.stopped]).calls =
        s.calls ++ calls first ++ calls body := by
      rw [← hcalls, calls_after, calls_cons_stopped, calls_nil, List.append_nil]
      rfl
    simp only [hst]
    refine (ends_call _ _ _).seq ?_ ?_
    · rintro _ _ ⟨text, hput, rfl, rfl⟩
      rw [past] at hput
      exact broken_of_lost h₁ h₂ hst hput rfl (List.append_assoc ..)
    · rintro ⟨⟩ s₃ ⟨hput, rfl⟩
      rw [past] at hput
      rw [after_after]
      exact ends_write_of_closing h₁ h₂ (.kept p b hst hput)

/-- The values of arguments are found without a change to the state. -/
theorem ends_arguments (e : Engine) (t : Template) (args : DirectiveArgs) (s : RenderState) :
    Ends (arguments e t args) s (fun _ s' => s' = s) (fun _ s' => s' = s) := by
  refine Ends.get ?_
  show Ends (lift _) s _ _
  cases args.evaluate (s.scope e) t.source with
  | ok values => exact rfl
  | error f => exact rfl

theorem ends_startCached (e : Engine) (t : Template) (i : Invocation) (s : RenderState) :
    Ends (startCached e t i) s (Begun e s) (Broken e s) := by
  refine Ends.named ?_ fun _ _ h => h.nameStop t.name
  refine (ends_arguments e t i.args s).seq ?_ ?_
  · rintro stop _ rfl
    exact (Grows.refl rfl rfl rfl rfl).stopped stop
  · rintro args s₀ rfl
    exact (ends_beginBlock e i.origin args s₀).locatedAt fun _ _ h => h.locateStop t.source i.span

theorem ends_stopCached {first body : List Event} {p : Option Pending} {b : String}
    {s₁ s₂ : RenderState} (t : Template) (i : Invocation) (h₁ : Opened e s first p s₁)
    (h₂ : Grown e s₁ body b s₂) :
    Ends (stopCached e t i) s₂ (fun _ s' => Grows e s s') (Broken e s) := by
  refine Ends.named ?_ fun _ _ h => h.nameStop t.name
  refine (ends_arguments e t i.args s₂).seq ?_ ?_
  · rintro stop _ rfl
    exact h₁.broken (Grows.stopped stop ⟨_, _, h₂⟩)
  · rintro args _ rfl
    exact (ends_endBlock h₁ h₂).locatedAt fun _ _ h => h.locateStop t.source i.span

/-- A cached block is accounted for if its body is. -/
theorem accounted_cached (e : Engine) (t : Template) (start stop : Invocation) {m : Render Unit}
    (hm : Accounted e m) : Accounted e (cached e t start stop m) := by
  intro s
  -- a body that stops leaves the block open; one that ends is closed by the end of the block
  refine Ends.bind (ends_startCached e t start s) fun opened s₁ h₁ => ?_
  cases opened with
  | false => exact h₁
  | true =>
    obtain ⟨first, p, h₁⟩ := h₁
    refine (hm s₁).seq (fun _ _ h => h₁.broken h) ?_
    rintro ⟨⟩ s₂ ⟨body, b, h₂⟩
    exact ends_stopCached t stop h₁ h₂

end Step

/-! ## Renders -/

/-- The renders of an engine are accounted for. -/
theorem accounted_renders (e : Engine) :
    RenderCongruence e e.store e.store fun m _ => Accounted e m where
  toStepCongruence := Render.accounted_steps e
  halt := Render.accounted_throw _
  enterLoop _ := Render.accounted_modify fun _ => ⟨rfl, rfl, rfl, rfl⟩
  enterRound _ _ := Render.accounted_modify fun _ => ⟨rfl, rfl, rfl, rfl⟩
  leaveLoop := Render.accounted_modify fun _ => ⟨rfl, rfl, rfl, rfl⟩
  enter _ := Render.accounted_modify fun _ => ⟨rfl, rfl, rfl, rfl⟩
  leave := Render.accounted_modify fun _ => ⟨rfl, rfl, rfl, rfl⟩
  cached t start stop _ _ hm := Step.accounted_cached e t start stop hm

/-- The whole history of a render is a word or cut. -/
theorem Engine.ends_run {e : Engine} {t : Template} (he : e.Quiet) (ht : t.Quiet) (job : Job) :
    match e.run t job with
    | (.ok (), s) => Word e.store job.request [] s.history s.output.text
    | (.error stop, s) =>
      ∃ failure, Cut e.store job.request [] s.history (s.blocks.map Block.pending) failure ∧
        Reports failure stop := by
  unfold Engine.run
  cases job.data with
  | error f => exact ⟨none, .short (.nil []), fun _ h => nomatch h⟩
  | ok data =>
    have h := (accounted_renders e).renderAt he (e.depthLimit job) (e.depthLimit job - 1 + 1) ht
      (job.initial data)
    dsimp only
    rcases hrun : (t.renderAt e (e.depthLimit job) (e.depthLimit job - 1 + 1)).run
      (job.initial data) with ⟨stop | ⟨⟩, s⟩
    · obtain ⟨v, opened, failure, hv, hhistory, hblocks, hreports⟩ := h.of_error hrun
      refine ⟨failure, ?_, hreports⟩
      rw [hblocks, hhistory]
      exact (List.append_nil opened).symm ▸ hv
    · obtain ⟨w, text, hword, hhistory, -, -, htexts⟩ := h.of_ok hrun
      have houtput : s.output.text = "" ++ text :=
        congrArg (fun x : List String × Output => x.2.text) htexts
      show Word e.store job.request [] s.history s.output.text
      rw [houtput, String.empty_append, hhistory]
      exact hword

/-- If no directive makes calls by itself, the calls of a render to the store are nested up to the
place where it stops. They are nested altogether when it comes to its end; the text of its history
is then what has been written. When it stops, nothing has been kept of the blocks that are open. The
store fails at the last call, if at all, and then the render fails with what the store says, unless
its output has refused a text by then. An output without bounds never does. -/
theorem Engine.calls_render {e : Engine} {t : Template} (he : e.Quiet) (ht : t.Quiet) (job : Job) :
    ∃ ending s, e.run t job = (ending, s) ∧ (e.render t job).calls = calls s.history ∧
      (∃ rest, Nested (calls s.history ++ rest)) ∧
      (ending = .ok () → Nested (calls s.history) ∧
        Word e.store job.request [] s.history s.output.text) ∧
      (∀ stop, ending = .error stop →
        ∃ failure, Cut e.store job.request [] s.history (s.blocks.map Block.pending) failure) ∧
      (∀ front c rest text, calls s.history = front ++ c :: rest →
        failure? e.store front c = some text →
        rest = [] ∧ ∃ err, err.cause = .store text ∧ ending = .error (.failed err) ∧
          (e.render t job).result =
            .error (.error (Outcome.failure job.refusal s.output err)) ∧
          (job.room = none → (e.render t job).result = .error (.error err))) := by
  have h := ends_run he ht job
  have room := e.room_run t job
  unfold Engine.render
  rcases hrun : e.run t job with ⟨stop | ⟨⟩, s⟩
  · rw [hrun] at h
    obtain ⟨failure, hcut, hreports⟩ := h
    refine ⟨_, s, rfl, by cases stop <;> rfl, hcut.nested_append, ?_, ?_, ?_⟩
    · rintro ⟨⟩
    · rintro _ -
      exact ⟨failure, hcut⟩
    · intro front c rest text hcalls hc
      obtain ⟨hrest, rfl⟩ := hcut.breaks.eq_nil hcalls hc
      obtain ⟨err, rfl, hcause⟩ := hreports text rfl
      refine ⟨hrest, err, hcause, rfl, rfl, fun unbounded => ?_⟩
      rw [hrun] at room
      have accepts := Output.accepts_of_room (room.trans unbounded)
      rw [Outcome.ofRun, Outcome.failure_of_accepts accepts]
  · rw [hrun] at h
    refine ⟨_, s, rfl, rfl, ⟨[], ?_⟩, fun _ => ⟨h.nested, h⟩, ?_, ?_⟩
    · rw [List.append_nil]
      exact h.nested
    · rintro _ ⟨⟩
    · intro front c rest text hcalls hc
      have unbroken : Breaks _ _ _ none := h.answered
      exact absurd (unbroken.eq_nil hcalls hc).2 nofun

/-- A store that finds nothing and has no room for a text. -/
def CacheStore.crowded : CacheStore where
  get _ _ _ := .ok none
  start _ _ := .ok ()
  put _ _ := .error "full"

/-- A block in another one. -/
def Template.nested : Template where
  name := none
  source := "ab"
  body := [.cachedAs "outer" [.raw ⟨0, 1⟩, .cachedAs "inner" [.raw ⟨1, 2⟩]]]

/-- The text of the inner block cannot be kept, and nothing is tried for the outer one. -/
theorem Engine.calls_render_crowded :
    ((Engine.new .standard).withStore (some .crowded)).Quiet ∧ Template.nested.Quiet ∧
      (((Engine.new .standard).withStore (some .crowded)).render .nested (.ofData .none)).calls =
        [.get "outer" false, .start false, .get "inner" false, .start false,
          .put ⟨"inner", false, none, none, "b"⟩] ∧
      ∃ err, (((Engine.new .standard).withStore (some .crowded)).render .nested
          (.ofData .none)).result = .error (.error err) ∧ err.cause = .store "full" := by
  have quiet := (quiet_new .standard).withStore (some .crowded)
  have quiet' : Template.nested.Quiet := ⟨⟨trivial, ⟨trivial, trivial⟩, trivial⟩, trivial⟩
  obtain ⟨ending, s, -, calls, -, -, -, last⟩ := calls_render quiet quiet' (.ofData .none)
  have made : (((Engine.new .standard).withStore (some .crowded)).render .nested
      (.ofData .none)).calls = [.get "outer" false, .start false, .get "inner" false,
        .start false, .put ⟨"inner", false, none, none, "b"⟩] := rfl
  have failed := last
    [.get "outer" false, .start false, .get "inner" false, .start false]
    (.put ⟨"inner", false, none, none, "b"⟩) [] "full" (calls.symm.trans made) rfl
  obtain ⟨-, err, cause, -, -, result⟩ := failed
  exact ⟨quiet, quiet', made, err, result rfl, cause⟩

end Stencil
