import Stencil.Proofs.Termination

/-!
# Paths of the machine

The steps that the machine has taken, one after the other. The path from the start to where the
machine ends says how the render ends, and whatever is said of a whole render can be read off it.

- `Machine.Config.start`: where the machine starts.
- `Machine.Moves.executes`: a step runs an instruction or ends an activation.
- `Machine.Passage`: a step, with the configurations before and after it.
- `Machine.Path`: some steps that lead from one configuration to another.
- `Machine.Path.run_eq`: a run takes the steps of a path.
- `Engine.run_of_done`, `Engine.run_of_stop`: what a render comes to at the end of a path.
- `Engine.exists_path`: there is a path to where the machine ends.
-/

namespace Stencil

namespace Machine

open Render Program

/-- The configuration in which a render begins. -/
def Config.start (t : Template) (job : Job) (data : Value) : Config :=
  .initial t (Stmt.layoutAll 0 t.body) job data

/-- A step of the machine, with the configurations before and after it. -/
structure Passage where
  before : Config
  after : Config

/-- Some steps lead from one configuration to another, and are these, the first of them first. -/
inductive Path (e : Engine) (limit : Nat) (c : Config) : List Passage → Config → Prop
  | nil : Path e limit c [] c
  | snoc {ps : List Passage} {c₁ c₂ : Config} (path : Path e limit c ps c₁)
      (move : Moves e limit c₁ c₂) : Path e limit c (ps ++ [⟨c₁, c₂⟩]) c₂

variable {e : Engine} {limit : Nat} {c c' : Config} {ps : List Passage}

/-- A step ends the activation on top, or runs an instruction of it. -/
theorem Moves.executes {a : Activation} {rest : List Activation} (move : Moves e limit c c')
    (hstack : c.stack = a :: rest) :
    (a.next? = none ∧ (Machine.finish a.isScoped rest).run c.state = (.ok c'.stack, c'.state)) ∨
      ∃ i, a.next? = some i ∧
        (execute e limit a rest i).run c.state = (.ok c'.stack, c'.state) := by
  have run := move.2
  rw [hstack, step] at run
  cases next : a.next? with
  | none =>
    rw [next] at run
    exact .inl ⟨rfl, run⟩
  | some i =>
    rw [next] at run
    exact .inr ⟨i, rfl, run⟩

/-- A path with a step in front of it. -/
theorem Path.cons {c₀ : Config} (move : Moves e limit c₀ c) (path : Path e limit c ps c') :
    Path e limit c₀ (⟨c₀, c⟩ :: ps) c' := by
  induction path with
  | nil => exact .snoc .nil move
  | snoc _ move' ih => exact .snoc ih move'

theorem Path.reaches (path : Path e limit c ps c') : Reaches e limit c c' := by
  induction path with
  | nil => exact .refl
  | snoc _ move ih => exact .tail ih move

theorem exists_path_of_reaches (h : Reaches e limit c c') : ∃ ps, Path e limit c ps c' := by
  induction h with
  | refl => exact ⟨[], .nil⟩
  | tail _ move ih =>
    obtain ⟨ps, path⟩ := ih
    exact ⟨_, .snoc path move⟩

theorem reaches_of_takes {n : Nat} (h : Takes e limit n c c') : Reaches e limit c c' := by
  induction n generalizing c with
  | zero =>
    obtain rfl : c' = c := h
    exact .refl
  | succ n ih =>
    obtain ⟨c₁, move, h⟩ := h
    exact .head move (ih h)

/-- Every step of a path is one of the machine, and the path goes through it. -/
theorem Path.moves (path : Path e limit c ps c') {p : Passage} (hp : p ∈ ps) :
    Reaches e limit c p.before ∧ Moves e limit p.before p.after ∧ Reaches e limit p.after c' := by
  induction path with
  | nil => cases hp
  | snoc path move ih =>
    rcases List.mem_append.1 hp with hp | hp
    · obtain ⟨before, moved, after⟩ := ih hp
      exact ⟨before, moved, after.tail move⟩
    · cases List.mem_singleton.1 hp
      exact ⟨path.reaches, move, .refl⟩

/-- What is left of a path behind one of its steps. -/
theorem Path.behind {before behind : List Passage} {p : Passage}
    (path : Path e limit c (before ++ p :: behind) c') : Path e limit p.after behind c' := by
  generalize steps : before ++ p :: behind = qs at path
  induction path generalizing behind with
  | nil => simp at steps
  | @snoc ps c₁ c₂ _ move ih =>
    rcases List.eq_nil_or_concat behind with rfl | ⟨others, q, rfl⟩
    · obtain ⟨-, same⟩ := List.append_inj' steps rfl
      cases same
      exact .nil
    · rw [List.concat_eq_append, ← List.cons_append, ← List.append_assoc] at steps
      obtain ⟨first, same⟩ := List.append_inj' steps rfl
      cases same
      rw [List.concat_eq_append]
      exact .snoc (ih first) move

/-- With more steps than those of a path, a run goes on behind it. -/
theorem Path.run_eq (path : Path e limit c ps c') (k : Nat) :
    (run e limit (ps.length + k) c.stack).run c.state = (run e limit k c'.stack).run c'.state := by
  induction path generalizing k with
  | nil =>
    rw [List.length_nil, Nat.zero_add]
  | @snoc ps c₁ c₂ _ move ih =>
    rw [List.length_append, List.length_singleton, Nat.add_assoc, Nat.add_comm 1, ih]
    obtain ⟨nonempty, moved⟩ := move
    cases hstack : c₁.stack with
    | nil => exact absurd hstack nonempty
    | cons a rest =>
      rw [hstack] at moved
      rw [run_succ_cons, run_bind_ok moved]

end Machine

namespace Engine

open Machine Render Program

variable {e : Engine} {t : Template} {job : Job} {data : Value} {ps : List Passage} {c : Config}

/-- A render comes to what the machine comes to behind a path. -/
theorem run_of_path (hdata : job.data = .ok data)
    (path : Path e (e.depthLimit job) (.start t job data) ps c) {r : Except Stop Unit}
    {s : RenderState}
    (behind : ∀ n, result? ((Machine.run e (e.depthLimit job) (n + 1) c.stack).run c.state).1 =
        some r ∧ ((Machine.run e (e.depthLimit job) (n + 1) c.stack).run c.state).2 = s) :
    e.run t job = (r, s) := by
  obtain ⟨n, hn⟩ := exists_forall_run_eq e (e.depthLimit job) t (job.initial data)
  have run_eq := hn (ps.length + (n + 1)) (by omega)
  rw [place, program?_eq] at run_eq
  have followed := (path.run_eq (n + 1)).symm.trans run_eq
  obtain ⟨result, state⟩ := result?_ending
    (t.renderAt e (e.depthLimit job) (e.depthLimit job - 1 + 1)) (job.initial data)
  obtain ⟨result', state'⟩ := behind n
  rw [← followed] at result state
  unfold Engine.run
  rw [hdata]
  exact Prod.ext (Option.some.inj (result.symm.trans result')) (state.symm.trans state')

/-- A render comes to its end where no activation is left. -/
theorem run_of_done (hdata : job.data = .ok data)
    (path : Path e (e.depthLimit job) (.start t job data) ps c) (stack : c.stack = []) :
    e.run t job = (.ok (), c.state) := by
  refine run_of_path hdata path fun n => ?_
  rw [stack]
  exact ⟨rfl, rfl⟩

/-- A render stops where a step does. -/
theorem run_of_stop (hdata : job.data = .ok data)
    (path : Path e (e.depthLimit job) (.start t job data) ps c) {stop : Stop} {s : RenderState}
    (stopped : (step e (e.depthLimit job) c.stack).run c.state = (.error stop, s)) :
    e.run t job = (.error stop, s) := by
  refine run_of_path hdata path fun n => ?_
  cases hstack : c.stack with
  | nil =>
    rw [hstack] at stopped
    cases stopped
  | cons a rest =>
    rw [hstack] at stopped
    rw [run_succ_cons, run_bind_error stopped]
    exact ⟨rfl, rfl⟩

/-- There is a path to where the machine ends. -/
theorem exists_path (e : Engine) (t : Template) (job : Job) (data : Value) :
    ∃ ps c, Path e (e.depthLimit job) (.start t job data) ps c ∧ Ended e (e.depthLimit job) c := by
  obtain ⟨code, n, c, program, taken, ended, -⟩ := exists_ended e (e.depthLimit job) t job data
  cases (program?_eq t).symm.trans program
  obtain ⟨ps, path⟩ := exists_path_of_reaches (reaches_of_takes taken)
  exact ⟨ps, c, path, ended⟩

/-- A render that comes to its end takes a path to where no activation is left. -/
theorem exists_path_of_ok (hdata : job.data = .ok data) {s : RenderState}
    (h : e.run t job = (.ok (), s)) :
    ∃ ps, Path e (e.depthLimit job) (.start t job data) ps ⟨[], s⟩ := by
  obtain ⟨ps, c, path, ended⟩ := exists_path e t job data
  have stops : ∀ stop s', (step e (e.depthLimit job) c.stack).run c.state ≠ (.error stop, s') := by
    intro stop s' stopped
    cases h.symm.trans (run_of_stop hdata path stopped)
  cases ended with
  | done stack =>
    cases h.symm.trans (run_of_done hdata path stack)
    have same : (⟨[], c.state⟩ : Config) = c := by rw [← stack]
    exact ⟨ps, same ▸ path⟩
  | halted s' stopped => exact absurd stopped (stops _ _)
  | failed err s' stopped => exact absurd stopped (stops _ _)
  | refused s' stopped => exact absurd stopped (stops _ _)
  | broken s' stopped => exact absurd stopped (stops _ _)

/-- A render that is stopped takes a path to a step that stops so. -/
theorem exists_path_of_error (hdata : job.data = .ok data) {stop : Stop} {s : RenderState}
    (h : e.run t job = (.error stop, s)) :
    ∃ ps c, Path e (e.depthLimit job) (.start t job data) ps c ∧
      (step e (e.depthLimit job) c.stack).run c.state = (.error stop, s) := by
  obtain ⟨ps, c, path, ended⟩ := exists_path e t job data
  have stopped : ∀ stop' s',
      (step e (e.depthLimit job) c.stack).run c.state = (.error stop', s') →
        (step e (e.depthLimit job) c.stack).run c.state = (.error stop, s) := by
    intro stop' s' stopped
    cases h.symm.trans (run_of_stop hdata path stopped)
    exact stopped
  refine ⟨ps, c, path, ?_⟩
  cases ended with
  | done stack => cases h.symm.trans (run_of_done hdata path stack)
  | halted s' stop => exact stopped _ _ stop
  | failed err s' stop => exact stopped _ _ stop
  | refused s' stop => exact stopped _ _ stop
  | broken s' stop => exact stopped _ _ stop

end Engine

end Stencil
