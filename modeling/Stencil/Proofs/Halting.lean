import Stencil.Proofs.Forgetful
import Stencil.Proofs.Redirects

/-!
# Renders that are ended on purpose

A directive may end the render. What has been written up to then outside of the open cached blocks
stands, and so do all changes of the response; the text of the open blocks is lost.

- `Render.Unhalted`: a computation does not end the render on purpose; only directives do.
- `Machine.Halts`: the next step is that of a directive that ends the render.
- `Machine.Path.outermost`: the output is as it was where the outermost open block began.
- `Machine.Path.shut`: a block that has been closed is not open any more.
- `Engine.halted_of_halts`: what comes of a render that is ended on purpose.
-/

namespace Stencil

open History

/-! ## What ends a render on purpose -/

namespace Render

variable {α β : Type} {m : Render α}

/-- The computation does not end the render on purpose. -/
def Unhalted (m : Render α) : Prop := ∀ s s', m.run s ≠ (.error .halted, s')

theorem unhalted_of_ok (h : ∀ s, ∃ a s', m.run s = (.ok a, s')) : Unhalted m := by
  intro s s' halted
  obtain ⟨a, s'', ok⟩ := h s
  cases halted.symm.trans ok

theorem unhalted_pure (a : α) : Unhalted (pure a : Render α) := unhalted_of_ok fun s => ⟨a, s, rfl⟩

theorem unhalted_modify (f : RenderState → RenderState) : Unhalted (modify f : Render PUnit) :=
  unhalted_of_ok fun s => ⟨⟨⟩, f s, rfl⟩

theorem unhalted_get : Unhalted (get : Render RenderState) := unhalted_of_ok fun s => ⟨s, s, rfl⟩

theorem unhalted_throw {stop : Stop} (h : stop ≠ .halted) : Unhalted (throw stop : Render α) := by
  intro s s' halted
  cases halted
  exact h rfl

theorem Unhalted.bind {k : α → Render β} (hm : Unhalted m) (hk : ∀ a, Unhalted (k a)) :
    Unhalted (m >>= k) := by
  intro s s' halted
  rcases h : m.run s with ⟨stop | a, s₁⟩
  · rw [run_bind_error h] at halted
    cases halted
    exact hm s s' h
  · rw [run_bind_ok h] at halted
    exact hk a s₁ s' halted

/-- Whatever is done to errors, no other reason to stop becomes this one. -/
theorem Unhalted.mapError {n : Render α} {g : Stop → Stop} (hm : Unhalted m)
    (hn : ∀ s, n.run s = ((m.run s).1.mapError g, (m.run s).2))
    (hg : ∀ stop, g stop = .halted → stop = .halted) : Unhalted n := by
  intro s s' halted
  rw [hn] at halted
  rcases h : m.run s with ⟨stop | a, s₁⟩
  · rw [h] at halted
    cases hg stop (Except.error.inj (congrArg Prod.fst halted))
    exact hm s s₁ h
  · rw [h] at halted
    cases halted

theorem Unhalted.named (name : Option String) (hm : Unhalted m) :
    Unhalted (Render.named name m) :=
  hm.mapError (run_named name m) fun stop h => by
    cases stop with
    | halted => rfl
    | _ => cases h

theorem Unhalted.locatedAt (source : String) (span : Span) (hm : Unhalted m) :
    Unhalted (Step.locatedAt source span m) :=
  hm.mapError (Step.run_locatedAt source span m) fun stop h => by
    cases stop with
    | halted => rfl
    | _ => cases h

theorem unhalted_offer (text : String) : Unhalted (offer text) := by
  refine unhalted_of_ok fun s => ?_
  rw [run_offer]
  split
  · exact ⟨_, _, rfl⟩
  · exact ⟨_, _, rfl⟩

theorem unhalted_call (c : StoreCall) (ask : List StoreCall → Except String α) :
    Unhalted (call c ask) := by
  refine unhalted_get.bind fun s => (unhalted_modify _).bind fun _ => ?_
  cases ask s.calls with
  | ok a => exact unhalted_pure a
  | error text => exact unhalted_throw nofun

theorem unhalted_results : ResultCongruence fun m _ => Unhalted m where
  pure := unhalted_pure
  throw := unhalted_throw
  bind := Unhalted.bind

/-- The steps of a render do not end it on purpose, whatever directives do; they only say so. -/
theorem unhalted_steps : StepCongruence fun m _ => Unhalted m where
  toResultCongruence := unhalted_results
  named := Unhalted.named
  locatedAt := Unhalted.locatedAt
  evaluate e _ _ := unhalted_results.reading e (unhalted_get.bind fun _ => unhalted_pure _) _
  arguments e _ _ := unhalted_results.reading e (unhalted_get.bind fun _ => unhalted_pure _) _
  view _ _ := unhalted_get.bind fun _ => unhalted_pure _
  write text := unhalted_results.write_of_offer (unhalted_offer text)
  offer := unhalted_offer
  bindVariable _ _ := unhalted_modify _
  respond _ := unhalted_modify _
  setLimit _ _ := unhalted_modify _

theorem unhalted_layers : LayerCongruence fun m _ => Unhalted m where
  toWriteCongruence := unhalted_steps.toWriteCongruence
  enterLoop _ := unhalted_modify _
  enterRound _ _ := unhalted_modify _
  leaveLoop := unhalted_modify _
  enter _ := unhalted_modify _
  leave := unhalted_modify _

theorem unhalted_closeBlock : Unhalted closeBlock := by
  intro s s' halted
  rw [run_closeBlock] at halted
  split at halted
  · cases halted
  · cases halted

/-- Nor do the markers of cached blocks end it. -/
theorem unhalted_blocks : BlockCongruence fun m _ => Unhalted m where
  toWriteCongruence := unhalted_steps.toWriteCongruence
  locatedAt := Unhalted.locatedAt
  arguments := unhalted_steps.arguments
  record _ := unhalted_modify _
  call := unhalted_call
  request hk := unhalted_get.bind fun s => hk s.request
  openBlock _ := unhalted_modify _
  closeBlock := unhalted_closeBlock

end Render

open Render

namespace Step

variable (e : Engine) (t : Template)

theorem unhalted_perform (d : Directive) : Unhalted (perform e t d) :=
  unhalted_steps.perform e (a := e.store) (b := e.store)
    (fun c _ => unhalted_of_ok fun s => by
      obtain ⟨answer, w, asked⟩ := exists_run_ask e.store c s
      exact ⟨answer, _, asked⟩)
    t fun args => (d.run args).callsOnly_any

end Step

namespace Machine

variable {e : Engine} {limit : Nat} {a : Activation} {rest stack : List Activation} {c : Config}
  {s : RenderState}

/-- An instruction that runs no directive does not end the render on purpose. -/
theorem unhalted_execute {i : Instr} (undirected : i.directive? = none) :
    Unhalted (execute e limit a rest i) := by
  cases cached : i.isCached with
  | false => exact unhalted_layers.execute limit e a rest unhalted_get undirected cached
  | true =>
    cases i with
    | startCached i target =>
      exact (unhalted_blocks.startCached e _ i).bind fun _ => unhalted_pure _
    | stopCached i => exact (unhalted_blocks.stopCached e _ i).bind fun _ => unhalted_pure _
    | _ => cases cached

/-- The next step is that of a directive that ends the render on purpose, with some state. -/
def Halts (e : Engine) (c : Config) (s : RenderState) : Prop :=
  ∃ a rest d, c.stack = a :: rest ∧ a.next?.bind Instr.directive? = some d ∧
    (Step.perform e a.template d).run c.state = (.ok .halt, s)

/-- Where an instruction with a directive ends the render on purpose, the directive has said so. -/
theorem perform_of_halted {i : Instr} {d : Directive} (directive : i.directive? = some d)
    {s₀ : RenderState} (halted : (execute e limit a rest i).run s₀ = (.error .halted, s)) :
    (Step.perform e a.template d).run s₀ = (.ok .halt, s) := by
  obtain ⟨behind, executed, follows⟩ := execute_eq_bind e limit a rest directive
  rw [executed] at halted
  rcases performed : (Step.perform e a.template d).run s₀ with ⟨stop | flow, s₁⟩
  · rw [run_bind_error performed] at halted
    cases halted
    exact absurd performed (Step.unhalted_perform e _ d _ _)
  · rw [run_bind_ok performed] at halted
    by_cases ends : flow = .halt
    · rcases follows flow with followed | ⟨rfl, -⟩
      · rw [followed, ends] at halted
        cases halted
        rw [ends]
      · cases ends
    · rcases follows flow with followed | ⟨-, stack, skipped⟩
      · rw [followed] at halted
        exact absurd halted (unhalted_layers.follow limit e _ _ _ flow (absurd · ends) _ _)
      · rw [skipped] at halted
        cases halted

/-- A step ends the render on purpose where a directive says so, and nowhere else. -/
theorem halts_iff :
    Halts e c s ↔ (step e limit c.stack).run c.state = (.error .halted, s) := by
  constructor
  · rintro ⟨a, rest, d, hstack, next, performed⟩
    obtain ⟨i, hi, hd⟩ := Option.bind_eq_some_iff.1 next
    obtain ⟨behind, executed, follows⟩ := execute_eq_bind e limit a rest hd
    rcases follows .halt with followed | ⟨other, -⟩
    · rw [hstack, step, hi]
      dsimp only
      rw [executed, run_bind_ok performed, followed]
      rfl
    · cases other
  · intro halted
    cases hstack : c.stack with
    | nil =>
      rw [hstack] at halted
      cases halted
    | cons a rest =>
      rw [hstack, step] at halted
      cases next : a.next? with
      | none =>
        rw [next] at halted
        exact absurd halted (unhalted_layers.finish a.isScoped rest _ _)
      | some i =>
        rw [next] at halted
        cases directive : i.directive? with
        | none => exact absurd halted (unhalted_execute directive _ _)
        | some d =>
          have runs : a.next?.bind Instr.directive? = some d := by
            rw [next]
            exact directive
          exact ⟨a, rest, d, hstack, runs, perform_of_halted directive halted⟩

/-! ## Open blocks -/

/-- What a step does to the open blocks. -/
inductive Turned (k k' : Skeleton) : Prop
  | same (h : k'.blocks = k.blocks)
  | opened (b : Block) (h : k'.blocks = b :: k.blocks) (id : b.id = k.nextBlock)
  | closed (b : Block) (h : k.blocks = b :: k'.blocks)

theorem Transition.turned {k k' : Skeleton} (h : Transition a rest k stack k') : Turned k k' := by
  cases h with
  | openBlock pending => exact .opened _ rfl rfl
  | closeBlock b bs _ _ hb => exact .closed b hb
  | finish =>
    refine .same ?_
    split
    · rfl
    · rfl
  | _ => exact .same rfl

variable {t : Template} {job : Job} {data : Value} {ps : List Passage} {c' : Config}

theorem orderly_of_start (reached : Reaches e limit (.start t job data) c) :
    c.state.skeleton.Orderly := (standing_of_reaches (Program.program?_eq t) reached).1

theorem Moves.turned (move : Moves e limit c c') (reached : Reaches e limit (.start t job data) c) :
    Turned c.state.skeleton c'.state.skeleton := by
  obtain ⟨orderly, standing⟩ := standing_of_reaches (Program.program?_eq t) reached
  obtain ⟨a, rest, -, transition⟩ := move.transition orderly standing
  exact transition.turned

/-- A capture is open where a block is, and nowhere else. -/
theorem captures_eq_nil_iff (reached : Reaches e limit (.start t job data) c) :
    c.state.captures = [] ↔ c.state.blocks = [] := by
  have captured : c.state.captures.length = c.state.blocks.length :=
    (orderly_of_start reached).captured
  rw [← List.length_eq_zero_iff, captured, List.length_eq_zero_iff]

/-- While a block is open, the output stays as it was where the outermost one began. -/
theorem Path.outermost (path : Path e limit (.start t job data) ps c) {b : Block}
    (last : c.state.blocks.getLast? = some b) :
    ∃ p ∈ ps, p.before.state.blocks = [] ∧ p.after.state.blocks = [b] ∧
      c.state.output = p.before.state.output := by
  induction path with
  | nil => cases last
  | @snoc ps c₁ c₂ path move ih =>
    -- a block is open, so what the step has written has been captured
    have blocks : c₂.state.blocks ≠ [] := by
      intro none
      rw [none] at last
      cases last
    have captures : c₂.state.captures ≠ [] :=
      fun none => blocks ((captures_eq_nil_iff (path.snoc move).reaches).1 none)
    have output : c₂.state.output = c₁.state.output :=
      move.deed.emits.output.trans (if_neg captures)
    have before : c₁.state.blocks.getLast? = some b →
        ∃ p ∈ ps ++ [⟨c₁, c₂⟩], p.before.state.blocks = [] ∧ p.after.state.blocks = [b] ∧
          c₂.state.output = p.before.state.output := by
      intro last
      obtain ⟨p, hp, h⟩ := ih last
      exact ⟨p, List.mem_append_left _ hp, output ▸ h⟩
    cases move.turned path.reaches with
    | same h =>
      have h : c₂.state.blocks = c₁.state.blocks := h
      exact before (h ▸ last)
    | closed b' h =>
      have h : c₁.state.blocks = b' :: c₂.state.blocks := h
      refine before ?_
      rw [h, List.getLast?_cons_of_ne_nil blocks]
      exact last
    | opened b' h =>
      have h : c₂.state.blocks = b' :: c₁.state.blocks := h
      by_cases first : c₁.state.blocks = []
      · rw [h, first, List.getLast?_singleton] at last
        cases last
        exact ⟨_, List.mem_append_right _ (List.mem_singleton_self _), first, first ▸ h, output⟩
      · rw [h, List.getLast?_cons_of_ne_nil first] at last
        exact before last

/-- A block that has been closed is not open any more. -/
theorem shut_of_reaches {b : Block} (reached : Reaches e limit (.start t job data) c)
    (below : b.id < c.state.nextBlock) (shut : ∀ b' ∈ c.state.blocks, b'.id ≠ b.id)
    (h : Reaches e limit c c') : ∀ b' ∈ c'.state.blocks, b'.id ≠ b.id := by
  induction h with
  | refl => exact shut
  | @tail c₁ c₂ between move ih =>
    cases move.turned (reached.trans between) with
    | same h =>
      have h : c₂.state.blocks = c₁.state.blocks := h
      exact h ▸ ih
    | closed b' h =>
      have h : c₁.state.blocks = b' :: c₂.state.blocks := h
      rw [h] at ih
      exact (List.forall_mem_cons.1 ih).2
    | opened b' h id =>
      have h : c₂.state.blocks = b' :: c₁.state.blocks := h
      have id : b'.id = c₁.state.nextBlock := id
      have grown := nextBlock_le_of_reaches (Program.program?_eq t) reached between
      rw [h]
      refine List.forall_mem_cons.2 ⟨?_, ih⟩
      omega

/-- A block that has been closed in a step of a path is not open behind the path. -/
theorem Path.shut (path : Path e limit (.start t job data) ps c) {p : Passage} (hp : p ∈ ps)
    {b : Block} (closed : p.before.state.blocks = b :: p.after.state.blocks) :
    ∀ b' ∈ c.state.blocks, b'.id ≠ b.id := by
  obtain ⟨before, move, after⟩ := path.moves hp
  obtain ⟨-, -, increasing, below⟩ := orderly_of_start before
  have increasing : (p.before.state.blocks.map Block.id).Pairwise (· > ·) := increasing
  have below : ∀ b ∈ p.before.state.blocks, b.id < p.before.state.nextBlock := below
  rw [closed] at increasing below
  rw [List.map_cons, List.pairwise_cons] at increasing
  have counted : p.before.state.nextBlock ≤ p.after.state.nextBlock :=
    nextBlock_le_of_reaches (Program.program?_eq t) before (.tail .refl move)
  refine shut_of_reaches (.tail before move) ?_ ?_ after
  · exact Nat.lt_of_lt_of_le (below b List.mem_cons_self) counted
  · intro b' hb'
    exact Nat.ne_of_lt (increasing.1 b'.id (List.mem_map_of_mem hb'))

/-! ## The step that ends a render on purpose -/

theorem Halts.isDirective (h : Halts e c s) : (Passage.mk c ⟨c.stack, s⟩).IsDirective := by
  obtain ⟨a, rest, d, hstack, next, -⟩ := h
  refine ⟨d, ?_⟩
  show c.next?.bind Instr.directive? = some d
  rw [Config.next?, hstack]
  exact next

theorem Halts.deed (h : Halts e c s) : (Passage.mk c ⟨c.stack, s⟩).Deed := by
  have isDirective := h.isDirective
  obtain ⟨a, rest, d, -, -, performed⟩ := h
  exact Passage.deed_of_isDirective (Step.emitting_perform e a.template d) performed isDirective

/-- The open blocks are left as they are. -/
theorem Halts.skeleton (h : Halts e c s) (reached : Reaches e limit (.start t job data) c) :
    s.skeleton = c.state.skeleton := by
  obtain ⟨a, rest, d, -, -, performed⟩ := h
  have preserved := Step.preserves_perform e a.template d c.state
    (orderly_of_start reached).layered.pos
  rwa [performed] at preserved

/-- What comes of a render that a directive ends on purpose, given the steps up to and with that
one, the configuration before it, and the state behind it. -/
structure Halted (e : Engine) (t : Template) (job : Job) (ps : List Passage) (c : Config)
    (s : RenderState) : Prop where
  /-- The render succeeds with what there is then. -/
  run : e.run t job = (.error .halted, s)
  render : e.render t job = ⟨.ok s.response, s.output, s.calls⟩
  /-- No other step is made, and all that has happened has done so in these. -/
  last : ∀ c', ¬ Moves e (e.depthLimit job) c c'
  history : s.history = ps.flatMap Passage.events
  /-- The text is what has been written outside of captures, and ends where the outermost open block
  began. -/
  output : s.output = (Output.empty job.room).append (outside ps)
  outermost : ∀ b, s.blocks.getLast? = some b → ∃ p ∈ ps, p.before.state.blocks = [] ∧
    p.after.state.blocks = [b] ∧ s.output = p.before.state.output
  /-- Directives apart, an entry is kept only of a block that has been closed. -/
  kept : ∀ p ∈ ps, ∀ entry, .put entry ∈ calls p.events → p.IsDirective ∨
    ∃ b, p.Closes b entry ∧ ∀ b' ∈ s.blocks, b'.id ≠ b.id
  /-- What holds of the response behind a step does so at last, if later directives keep it. -/
  response : ∀ before p behind, ps = before ++ p :: behind → ∀ P : Response → Prop,
    P p.after.state.response →
    (∀ q ∈ behind, q.IsDirective → P q.before.state.response → P q.after.state.response) →
    P s.response

/-- Where a directive ends the render on purpose, all this comes of it. -/
theorem Halts.halted (h : Halts e c s) (hdata : job.data = .ok data)
    (path : Path e (e.depthLimit job) (.start t job data) ps c) :
    Halted e t job (ps ++ [⟨c, ⟨c.stack, s⟩⟩]) c s := by
  have stopped : (step e (e.depthLimit job) c.stack).run c.state = (.error .halted, s) :=
    halts_iff.1 h
  have run := Engine.run_of_stop hdata path stopped
  have skeleton := h.skeleton path.reaches
  have blocks : s.blocks = c.state.blocks := congrArg Skeleton.blocks skeleton
  have output : s.output = c.state.output.append (Passage.mk c ⟨c.stack, s⟩).outside :=
    h.deed.output
  refine ⟨run, ?_, ?_, ?_, ?_, ?_, ?_, ?_⟩
  · rw [Engine.render, run]
    rfl
  · exact fun c' move => (Ended.halted s stopped).not_moves move
  · have history : s.history = c.state.history ++ _ := h.deed.history
    rw [history, path.history, List.flatMap_append, List.flatMap_singleton]
    rfl
  · rw [output, path.output, outside_snoc, Output.append_append]
    rfl
  · intro b last
    rw [blocks] at last
    obtain ⟨p, hp, before, after, same⟩ := path.outermost last
    refine ⟨p, List.mem_append_left _ hp, before, after, ?_⟩
    rw [← same]
    -- what the directive itself has written has been captured, too
    refine h.deed.emits.output.trans (if_neg fun captures => ?_)
    have captured : s.captures.length = c.state.captures.length :=
      congrArg Skeleton.captures skeleton
    have captures : s.captures = [] := captures
    rw [captures, List.length_nil, eq_comm, List.length_eq_zero_iff,
      captures_eq_nil_iff path.reaches] at captured
    rw [captured] at last
    cases last
  · intro p hp entry put
    rcases List.mem_append.1 hp with hp | hp
    · obtain ⟨-, move, -⟩ := path.moves hp
      rcases move.deed.kept entry put with directive | ⟨b, closes⟩
      · exact .inl directive
      · exact .inr ⟨b, closes, blocks ▸ path.shut hp closes.block⟩
    · cases List.mem_singleton.1 hp
      exact .inl h.isDirective
  · intro before p behind split P start kept
    rcases List.eq_nil_or_concat behind with rfl | ⟨others, q, rfl⟩
    · obtain ⟨-, same⟩ := List.append_inj' split rfl
      cases same
      exact start
    · rw [List.concat_eq_append, ← List.cons_append, ← List.append_assoc] at split
      obtain ⟨rfl, same⟩ := List.append_inj' split rfl
      cases same
      rw [List.concat_eq_append] at kept
      have behind := path.behind.response start fun q hq => kept q (List.mem_append_left _ hq)
      exact kept _ (List.mem_append_right _ (List.mem_singleton_self _)) h.isDirective behind

/-- With standard directives, a render that is ended on purpose has a valid redirect. -/
theorem Halts.redirect (h : Halts e c s) (path : Path e limit (.start t job data) ps c)
    (ht : t.IsStandard) (he : ∀ name u, e.template? name = some u → u.IsStandard) :
    ∃ r, s.response.redirect = some r ∧ r.Valid := by
  obtain ⟨a, rest, d, hstack, next, performed⟩ := h
  have deliberate : d.Makes Script.Deliberate :=
    path.makes_of_next? (ht.makes Script.closed_deliberate)
      (fun name u found => (he name u found).makes Script.closed_deliberate) hstack next
  exact Step.sends_of_perform deliberate performed

end Machine

/-- A directive that ends the render on purpose, as a redirect does: the render succeeds, with the
text that has been written up to then outside of the cached blocks that are open, and with all that
has become of the response; nothing is written, kept or run behind it, and no open block is kept.
With standard directives only, there is a redirect if and only if the render has been ended so, and
then it is a valid one. -/
theorem Engine.halted_of_halts {e : Engine} {t : Template} {job : Job} {data : Value}
    (hdata : job.data = .ok data) :
    ((e.run t job).1 = .error .halted ↔ ∃ ps c s,
      Machine.Path e (e.depthLimit job) (.start t job data) ps c ∧ Machine.Halts e c s) ∧
    (∀ ps c s, Machine.Path e (e.depthLimit job) (.start t job data) ps c → Machine.Halts e c s →
      Machine.Halted e t job (ps ++ [⟨c, ⟨c.stack, s⟩⟩]) c s) ∧
    (t.IsStandard → (∀ name u, e.template? name = some u → u.IsStandard) →
      ∀ response, (e.render t job).result = .ok response →
        ((e.run t job).1 = .error .halted ↔ response.redirect.isSome) ∧
          ∀ r, response.redirect = some r → r.Valid) := by
  have ended : ∀ ps c s, Machine.Path e (e.depthLimit job) (.start t job data) ps c →
      Machine.Halts e c s → e.run t job = (.error .halted, s) :=
    fun ps c s path halts => (halts.halted hdata path).run
  have found : ∀ s, e.run t job = (.error .halted, s) → ∃ ps c,
      Machine.Path e (e.depthLimit job) (.start t job data) ps c ∧ Machine.Halts e c s := by
    intro s run
    obtain ⟨ps, c, path, stopped⟩ := exists_path_of_error hdata run
    exact ⟨ps, c, path, Machine.halts_iff.2 stopped⟩
  refine ⟨⟨fun halted => ?_, ?_⟩, fun ps c s path halts => halts.halted hdata path, ?_⟩
  · obtain ⟨ps, c, path, halts⟩ := found _ (Prod.ext halted rfl)
    exact ⟨ps, c, _, path, halts⟩
  · rintro ⟨ps, c, s, path, halts⟩
    rw [ended ps c s path halts]
  · intro ht he response succeeds
    rw [Engine.render] at succeeds
    rcases run : e.run t job with ⟨stop | ⟨⟩, s⟩
    · rw [run] at succeeds
      cases stop with
      | halted =>
        cases succeeds
        obtain ⟨ps, c, path, halts⟩ := found s run
        obtain ⟨r, there, valid⟩ := halts.redirect path ht he
        rw [there]
        refine ⟨iff_of_true rfl rfl, fun r' same => ?_⟩
        cases same
        exact valid
      | failed => cases succeeds
      | broken => cases succeeds
      | outputFull => cases succeeds
    · rw [run] at succeeds
      cases succeeds
      obtain ⟨ps, path⟩ := exists_path_of_ok hdata run
      have none : s.response.redirect = none :=
        path.redirect (ht.makes Script.closed_deliberate) fun name u found =>
          (he name u found).makes Script.closed_deliberate
      simp [none]

/-- In a cached block, a header is set and a template is placed that makes a redirect. -/
def Engine.guarded : Except Failure Engine := do
  let e ← ((Engine.new .standard).withStore (some .void)).addTemplate "guard"
    "c\x7b% redirect \"/login\", 301 %\x7dd"
  e.addTemplate "page" ("a\x7b% cache \x7b key: \"key\" \x7d %\x7db" ++
    "\x7b% header \"Vary: Cookie\" %\x7d\x7b% include \"guard\" %\x7de\x7b% endcache %\x7df")

/-- The text of the block is lost, and the block is not kept; the header and the redirect stay. -/
theorem Engine.halted_of_halts_guarded :
    ∃ e t ps c s, Engine.guarded = .ok e ∧ e.template? "page" = some t ∧
      Machine.Path e (e.depthLimit (.ofData .none)) (.start t (.ofData .none) .none) ps c ∧
      Machine.Halts e c s ∧ e.run t (.ofData .none) = (.error .halted, s) ∧ s.output.text = "a" ∧
      s.blocks.length = 1 ∧ s.calls = [.get "key" false, .start false] ∧
      s.response = ⟨[("Vary", "Cookie")], some ⟨"/login", 301⟩⟩ ∧
      ∀ r, s.response.redirect = some r → r.Valid := by
  let job := Job.ofData .none
  let result (e : Engine) (t : Template) :=
    let (r, s) := e.run t job
    (match r with | .error .halted => true | _ => false, s.output.text, s.blocks.length, s.calls,
      s.response)
  have computed : (Engine.guarded.toOption.bind fun e => (e.template? "page").map (result e)) =
      some (true, "a", 1, [.get "key" false, .start false],
        ⟨[("Vary", "Cookie")], some ⟨"/login", 301⟩⟩) := by
    decide +kernel
  cases made : Engine.guarded with
  | error f =>
    rw [made] at computed
    cases computed
  | ok e =>
  rw [made] at computed
  obtain ⟨t, found, computed⟩ := Option.map_eq_some_iff.1 computed
  have standard : e.IsStandard := by
    obtain ⟨e₁, first, second⟩ := Parse.bind_eq_ok made
    exact (((Engine.isStandard_new _).withStore _).addTemplate first).addTemplate second
  rcases run : e.run t job with ⟨r, s⟩
  simp only [result, run, Prod.mk.injEq] at computed
  obtain ⟨stopped, output, blocks, calls, response⟩ := computed
  have halted : r = .error .halted := by
    split at stopped
    · rfl
    · cases stopped
  obtain ⟨ended, final, redirects⟩ := @Engine.halted_of_halts e t job .none rfl
  obtain ⟨ps, c, s', path, halts⟩ := ended.1 (by rw [run, halted])
  have known := final ps c s' path halts
  obtain rfl : s = s' := congrArg Prod.snd (run.symm.trans known.run)
  have valid := (redirects (standard.templates _ _ found) standard.templates s.response
    (congrArg Outcome.result known.render)).2
  exact ⟨e, t, ps, c, s, rfl, found, path, halts, known.run, output, blocks, calls, response,
    valid⟩

end Stencil
