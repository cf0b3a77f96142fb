import Stencil.Proofs.Computation

/-!
# What a render writes

A render only adds to its output: nothing that has been written is taken back, and the number of
bytes that the output has room for stays as it is. This holds of all engines, whatever their
directives do and however the render ends.

- `OnlyAdds`: a computation only adds to the output.
- `onlyAdds_renders`: the operations of a render do.
- `Engine.exists_output_run`, `Engine.room_run`: a whole render does, and keeps the room.
-/

namespace Stencil

open Render

variable {α β : Type} {m : Render α}

/-- A computation only adds to the output. -/
def OnlyAdds (m : Render α) : Prop := ∀ s, ∃ more, (m.run s).2.output = s.output.append more

theorem onlyAdds_of_output (h : ∀ s, (m.run s).2.output = s.output) : OnlyAdds m := by
  intro s
  refine ⟨"", ?_⟩
  rw [h, Output.append_empty]

theorem OnlyAdds.bind {k : α → Render β} (hm : OnlyAdds m) (hk : ∀ a, OnlyAdds (k a)) :
    OnlyAdds (m >>= k) := by
  intro s
  obtain ⟨more, first⟩ := hm s
  rcases h : m.run s with ⟨stop | a, s'⟩
  · rw [h] at first
    rw [run_bind_error h]
    exact ⟨more, first⟩
  · rw [h] at first
    obtain ⟨more', second⟩ := hk a s'
    rw [run_bind_ok h]
    refine ⟨more ++ more', ?_⟩
    rw [second, first, Output.append_append]

theorem OnlyAdds.mapError {m' : Render α} {g : Stop → Stop} (h : OnlyAdds m)
    (hm : ∀ s, m'.run s = ((m.run s).1.mapError g, (m.run s).2)) : OnlyAdds m' := by
  intro s
  rw [hm]
  exact h s

theorem onlyAdds_offer (text : String) : OnlyAdds (offer text) := by
  intro s
  rw [run_offer]
  split
  · refine ⟨"", ?_⟩
    rw [Output.append_empty]
    rfl
  · exact ⟨text, rfl⟩

theorem onlyAdds_ask (store : Option CacheStore) (c : StoreCall) : OnlyAdds (ask store c) := by
  refine onlyAdds_of_output fun s => ?_
  obtain ⟨answer, w, asked⟩ := exists_run_ask store c s
  rw [asked]
  rfl

theorem onlyAdds_setLimit (query : String) (limit : Option Nat) :
    OnlyAdds (setLimit query limit) := by
  refine onlyAdds_of_output fun s => ?_
  obtain ⟨change, limited⟩ := exists_run_setLimit query limit
  rw [limited]

theorem onlyAdds_results : ResultCongruence fun m _ => OnlyAdds m where
  pure _ := onlyAdds_of_output fun _ => rfl
  throw _ := onlyAdds_of_output fun _ => rfl
  bind := OnlyAdds.bind

/-- The operations of a render only add to the output. -/
theorem onlyAdds_steps : StepCongruence fun m _ => OnlyAdds m where
  toResultCongruence := onlyAdds_results
  named name hm := OnlyAdds.mapError hm (run_named name _)
  locatedAt source span hm := OnlyAdds.mapError hm (Step.run_locatedAt source span _)
  evaluate e _ _ := onlyAdds_results.reading e (onlyAdds_of_output fun _ => rfl) _
  arguments e _ _ := onlyAdds_results.reading e (onlyAdds_of_output fun _ => rfl) _
  view _ _ := onlyAdds_of_output fun _ => rfl
  write text := onlyAdds_results.write_of_offer (onlyAdds_offer text)
  offer := onlyAdds_offer
  bindVariable _ _ := onlyAdds_of_output fun _ => rfl
  respond _ := onlyAdds_of_output fun _ => rfl
  setLimit := onlyAdds_setLimit

theorem onlyAdds_call (c : StoreCall) (ask : List StoreCall → Except String α) :
    OnlyAdds (call c ask) := by
  refine onlyAdds_of_output fun s => ?_
  rw [run_call]
  rfl

theorem onlyAdds_closeBlock : OnlyAdds closeBlock := by
  refine onlyAdds_of_output fun s => ?_
  rw [run_closeBlock]
  split <;> rfl

/-- The markers of cached blocks only add to the output. -/
theorem onlyAdds_blocks : BlockCongruence fun m _ => OnlyAdds m where
  toWriteCongruence := onlyAdds_steps.toWriteCongruence
  locatedAt source span hm := OnlyAdds.mapError hm (Step.run_locatedAt source span _)
  arguments := onlyAdds_steps.arguments
  record _ := onlyAdds_of_output fun _ => rfl
  call := onlyAdds_call
  request hk := (onlyAdds_of_output fun _ => rfl).bind fun s => hk s.request
  openBlock _ := onlyAdds_of_output fun _ => rfl
  closeBlock := onlyAdds_closeBlock

/-- The operations of a render only add to the output. -/
theorem onlyAdds_renders (e : Engine) :
    RenderCongruence e e.store e.store fun m _ => OnlyAdds m where
  toStepCongruence := onlyAdds_steps
  halt := onlyAdds_of_output fun _ => rfl
  enterLoop _ := onlyAdds_of_output fun _ => rfl
  enterRound _ _ := onlyAdds_of_output fun _ => rfl
  leaveLoop := onlyAdds_of_output fun _ => rfl
  enter _ := onlyAdds_of_output fun _ => rfl
  leave := onlyAdds_of_output fun _ => rfl
  cached t start stop _ m hm := onlyAdds_blocks.cached (n := m) e t start stop hm

/-- Whatever a directive does, it only adds to the output. -/
theorem onlyAdds_perform (e : Engine) (t : Template) (d : Directive) :
    OnlyAdds (Step.perform e t d) :=
  onlyAdds_steps.perform e (a := e.store) (b := e.store) (fun c _ => onlyAdds_ask e.store c) t
    fun args => (d.run args).callsOnly_any

namespace Engine

/-- A render only adds to an output that is empty at its start. -/
theorem exists_output_run (e : Engine) (t : Template) (job : Job) :
    ∃ more, (e.run t job).2.output = (Output.empty job.room).append more := by
  unfold Engine.run
  cases job.data with
  | error f => exact ⟨"", (Output.append_empty _).symm⟩
  | ok data =>
    have tree := (onlyAdds_renders e).tree_of_perform (Q := fun _ => True) fun t d _ =>
      onlyAdds_perform e t d
    exact tree.renderAt (fun _ _ _ _ _ => trivial) (e.depthLimit job) (e.depthLimit job - 1 + 1) t
      (fun _ _ => trivial) (job.initial data)

/-- The room of the output stays as it is. -/
theorem room_run (e : Engine) (t : Template) (job : Job) :
    (e.run t job).2.output.room = job.room := by
  obtain ⟨more, output⟩ := e.exists_output_run t job
  rw [output]
  rfl

end Engine

end Stencil
