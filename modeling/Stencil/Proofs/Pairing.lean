import Stencil.Proofs.Blocks
import Stencil.Proofs.Paths

/-!
# Markers of blocks pair up

Which start and which end of a block belong together is not looked at when they are run. Still an
end is only run when the start of its block has been run before it, in the same activation, and has
not been closed yet.

- `Machine.marks`, `Machine.Paired`: what is run of blocks, and when it is well nested.
- `Machine.leaves_of_moves`: what a step does to the activations.
- `Machine.Marked`: the starts that have not been closed are those of the blocks around the places
  to which the machine has come; `Machine.Marked.step` says that a step keeps this.
- `Machine.RunsThrough`: an activation is run from its start to its end.
- `Engine.paired_of_run`: the markers of a render pair up.
-/

namespace Stencil

open Program

/-! ## Marks -/

/-- What the start of a block says with some state, unless it fails. -/
def Activation.flow? (e : Engine) (a : Activation) (s : RenderState) : Option Flow :=
  match a.next? with
  | some (.start d _) => ((Step.perform e a.template d).run s).1.toOption
  | some (.startCached i _) =>
    ((Step.startCached e a.template i).run s).1.toOption.map fun opened =>
      if opened then .next else .skip
  | _ => none

namespace Machine

open Render

/-- A place to which the machine has come: an activation on top of others. -/
structure Spot where
  activation : Activation
  below : List Activation

/-- What is run of a block. -/
inductive Mark where
  /-- The start of a block, which does not skip the body. -/
  | opened (spot : Spot)
  /-- The end of a block. -/
  | closed (spot : Spot)

/-- The mark of the next step, if there is one. -/
def mark? (e : Engine) (c : Config) : Option Mark :=
  match c.stack with
  | [] => none
  | a :: rest =>
    if a.next?.any Instr.isStop then some (.closed ⟨a, rest⟩)
    else
      match a.flow? e c.state with
      | none => none
      | some .skip => none
      | some _ => some (.opened ⟨a, rest⟩)

/-- The marks of the steps of a path. -/
def marks (e : Engine) (ps : List Passage) : List Mark := ps.filterMap fun p => mark? e p.before

/-- The start and the end of one block in the same activation. -/
def Spot.Pairs (x y : Spot) : Prop :=
  ∃ last, Spans x.activation.code x.activation.position last ∧
    y = ⟨x.activation.goTo last, x.below⟩

/-- The marks are well nested, and each start is closed by the end of its block. -/
inductive Paired : List Mark → Prop
  | nil : Paired []
  | block {x y : Spot} {inside behind : List Mark} (pairs : x.Pairs y) (hinside : Paired inside)
      (hbehind : Paired behind) : Paired (.opened x :: (inside ++ .closed y :: behind))

/-- The marks are well nested but for some starts that have not been closed, the innermost of which
comes first. -/
inductive Unfinished : List Spot → List Mark → Prop
  | none {w : List Mark} (h : Paired w) : Unfinished [] w
  | some {x : Spot} {xs : List Spot} {v w : List Mark} (outer : Unfinished xs w)
      (inner : Paired v) : Unfinished (x :: xs) (w ++ .opened x :: v)

/-- The starts of the blocks around the places to which the activations have come. -/
def openSpots : List Activation → List Spot
  | [] => []
  | a :: rest => (around a.code a.position).map (fun first => ⟨a.goTo first, rest⟩) ++
      openSpots rest

section

variable {x y : Spot} {xs : List Spot} {v w : List Mark}

theorem Paired.append (hv : Paired v) (hw : Paired w) : Paired (v ++ w) := by
  induction hv with
  | nil => exact hw
  | @block x y inside behind pairs hinside _ _ ih =>
    rw [List.cons_append, List.append_assoc, List.cons_append]
    exact .block pairs hinside ih

theorem Unfinished.append (h : Unfinished xs w) (hv : Paired v) : Unfinished xs (w ++ v) := by
  cases h with
  | none hw => exact .none (hw.append hv)
  | some outer inner =>
    rw [List.append_assoc, List.cons_append]
    exact .some outer (inner.append hv)

theorem Unfinished.opened (h : Unfinished xs w) : Unfinished (x :: xs) (w ++ [.opened x]) :=
  .some h .nil

/-- The end of the innermost block that is open closes it. -/
theorem Unfinished.closed (h : Unfinished (x :: xs) w) (pairs : x.Pairs y) :
    Unfinished xs (w ++ [.closed y]) := by
  cases h with
  | some outer inner =>
    rw [List.append_assoc, List.cons_append]
    exact outer.append (.block pairs inner .nil)

theorem Unfinished.paired (h : Unfinished [] w) : Paired w := by
  cases h with
  | none h => exact h

end

/-! ## Steps -/

variable {e : Engine} {limit : Nat} {a : Activation} {rest stack stack' : List Activation}
  {s s' : RenderState} {c c' : Config} {ps : List Passage}

theorem flow?_of_not_isStart {i : Instr} (next : a.next? = some i) (h : i.isStart = false) :
    a.flow? e s = none := by
  rw [Activation.flow?, next]
  cases i with
  | start d target => cases h
  | startCached i target => cases h
  | _ => rfl

/-- Where an instruction goes on in its activation. -/
inductive Goes (e : Engine) (a : Activation) (s : RenderState) (i : Instr) : Nat → Prop
  | on (runs : i.isStart → ∃ flow, a.flow? e s = some flow ∧ flow ≠ .skip) :
      Goes e a s i (a.position + 1)
  | jumps {target : Nat} (unstarted : i.isStart = false) (h : i.target? = some target) :
      Goes e a s i target
  | skips {target : Nat} (h : i.target? = some target) (skipped : a.flow? e s = some .skip) :
      Goes e a s i target

/-- An activation of a template of the engine at its first instruction. -/
structure Fresh (e : Engine) (b : Activation) : Prop where
  found : ∃ name, e.template? name = some b.template
  position : b.position = 0
  program : b.template.program? = some b.code

theorem activate_eq_ok {u : Template} {isScoped : Bool}
    (h : (activate limit u isScoped stack).run s = (.ok stack', s')) :
    ∃ code, u.program? = some code ∧ stack' = ⟨u, code, 0, isScoped⟩ :: stack := by
  unfold activate at h
  split at h
  · cases h
  unfold place at h
  split at h
  · next code program =>
    cases h
    exact ⟨code, program, rfl⟩
  · cases h

theorem target_eq_ok {t u : Template} {name : String} {fault : RenderFault} {span : Span}
    (h : (Step.target e t name fault span).run s = (.ok u, s')) : e.template? name = some u := by
  rw [Step.target_eq] at h
  split at h
  · next found =>
    cases h
    exact found
  · cases h

/-- Behind a directive, the machine goes on with what it has asked for. -/
def Followed (e : Engine) (stack stack' : List Activation) : Flow → Prop
  | .next => stack' = stack
  | .skip => stack' = stack
  | .halt => False
  | .visit name _ => ∃ u code, e.template? name = some u ∧ u.program? = some code ∧
      stack' = ⟨u, code, 0, true⟩ :: stack

theorem followed_of_follow {t : Template} {span : Span} :
    ∀ {flow : Flow}, (follow e limit t span flow stack).run s = (.ok stack', s') →
      Followed e stack stack' flow
  | .next, h => by
    cases h
    rfl
  | .skip, h => by
    cases h
    rfl
  | .halt, h => by cases h
  | .visit name given, h => by
    obtain ⟨u, s₁, found, h⟩ := bind_eq_ok h
    obtain ⟨_, s₂, -, h⟩ := bind_eq_ok h
    obtain ⟨code, program, stack_eq⟩ := activate_eq_ok h
    exact ⟨u, code, target_eq_ok found, program, stack_eq⟩

/-- An instruction leaves its activation where it goes on, and may put another one on top. -/
def Leaves (e : Engine) (a : Activation) (rest : List Activation) (s : RenderState) (i : Instr)
    (stack' : List Activation) : Prop :=
  ∃ p top, stack' = top ++ a.goTo p :: rest ∧ (∀ b ∈ top, Fresh e b) ∧ Goes e a s i p

/-- The start of a block goes behind the block, or on as a directive says. -/
inductive Started (e : Engine) (a : Activation) (rest : List Activation) (i : Instr) :
    Flow → List Activation → Prop
  | skips {target : Nat} (h : i.target? = some target) :
      Started e a rest i .skip (a.goTo target :: rest)
  | follows {flow : Flow} {stack' : List Activation} (unskipped : flow ≠ .skip)
      (h : Followed e (a.advance :: rest) stack' flow) : Started e a rest i flow stack'

theorem started_of_execute {i : Instr} (next : a.next? = some i) (starts : i.isStart)
    (h : (execute e limit a rest i).run s = (.ok stack', s')) :
    ∃ flow, a.flow? e s = some flow ∧ Started e a rest i flow stack' := by
  rw [Activation.flow?, next]
  cases i with
  | start d target =>
    obtain ⟨flow, s₁, run, h⟩ := bind_eq_ok h
    dsimp only
    rw [run]
    refine ⟨flow, rfl, ?_⟩
    cases flow with
    | skip =>
      cases h
      exact .skips rfl
    | next => exact .follows nofun (followed_of_follow h)
    | halt => exact .follows nofun (followed_of_follow h)
    | visit name given => exact .follows nofun (followed_of_follow h)
  | startCached i target =>
    obtain ⟨opened, s₁, run, h⟩ := bind_eq_ok h
    dsimp only
    rw [run]
    cases h
    cases opened with
    | true => exact ⟨.next, rfl, .follows nofun rfl⟩
    | false => exact ⟨.skip, rfl, .skips rfl⟩
  | _ => cases starts

theorem Followed.leaves {flow : Flow} {i : Instr}
    (h : Followed e (a.advance :: rest) stack' flow)
    (runs : i.isStart → ∃ flow, a.flow? e s = some flow ∧ flow ≠ .skip) :
    Leaves e a rest s i stack' := by
  cases flow with
  | next => exact ⟨_, [], h, nofun, .on runs⟩
  | skip => exact ⟨_, [], h, nofun, .on runs⟩
  | halt => exact h.elim
  | visit name given =>
    obtain ⟨u, code, found, program, stack_eq⟩ := h
    have fresh : Fresh e ⟨u, code, 0, true⟩ := ⟨⟨name, found⟩, rfl, program⟩
    exact ⟨_, [⟨u, code, 0, true⟩], stack_eq, List.forall_mem_singleton.2 fresh, .on runs⟩

theorem Started.stack_of_skip {i : Instr} {target : Nat} (h : Started e a rest i .skip stack')
    (jumps : i.target? = some target) : stack' = a.goTo target :: rest := by
  cases h with
  | skips jumps' =>
    cases jumps.symm.trans jumps'
    rfl
  | follows unskipped _ => exact absurd rfl unskipped

theorem Started.followed_of_visit {i : Instr} {name : String} {given : Value}
    (h : Started e a rest i (.visit name given) stack') :
    Followed e (a.advance :: rest) stack' (.visit name given) := by
  cases h with
  | follows _ followed => exact followed

theorem Started.leaves {i : Instr}
    (h : ∃ flow, a.flow? e s = some flow ∧ Started e a rest i flow stack') :
    Leaves e a rest s i stack' := by
  obtain ⟨flow, said, started⟩ := h
  cases started with
  | skips jumps => exact ⟨_, [], rfl, nofun, .skips jumps said⟩
  | follows unskipped followed => exact followed.leaves fun _ => ⟨flow, said, unskipped⟩

theorem leaves_of_activate {u : Template} {name : String} {isScoped : Bool} {i : Instr}
    {s₁ : RenderState} (unstarted : i.isStart = false) (found : e.template? name = some u)
    (h : (activate limit u isScoped (a.advance :: rest)).run s₁ = (.ok stack', s')) :
    Leaves e a rest s i stack' := by
  obtain ⟨code, program, stack_eq⟩ := activate_eq_ok h
  have fresh : Fresh e ⟨u, code, 0, isScoped⟩ := ⟨⟨name, found⟩, rfl, program⟩
  refine ⟨_, [⟨u, code, 0, isScoped⟩], stack_eq, List.forall_mem_singleton.2 fresh, .on ?_⟩
  intro started
  rw [unstarted] at started
  cases started

/-- What comes behind a computation is the next instruction. -/
theorem leaves_of_bind {α : Type} {m : Render α} {i : Instr} {s₁ : RenderState}
    (unstarted : i.isStart = false)
    (h : (m >>= fun _ => pure (a.advance :: rest)).run s₁ = (.ok stack', s')) :
    Leaves e a rest s i stack' := by
  obtain ⟨_, s₂, -, h⟩ := bind_eq_ok h
  cases h
  refine ⟨_, [], rfl, nofun, .on ?_⟩
  intro started
  rw [unstarted] at started
  cases started

/-- Where the machine goes on when it has run an instruction. -/
theorem leaves_of_execute : ∀ {i : Instr}, a.next? = some i →
    (execute e limit a rest i).run s = (.ok stack', s') → Leaves e a rest s i stack'
  | .raw span, _, h => leaves_of_bind rfl h
  | .print x, _, h => leaves_of_bind rfl h
  | .pipe receiver name span, _, h => leaves_of_bind rfl h
  | .include name none, _, h => by
    obtain ⟨u, s₁, found, h⟩ := bind_eq_ok h
    exact leaves_of_activate rfl (target_eq_ok found) h
  | .include name (some x), _, h => by
    obtain ⟨given, s₁, -, h⟩ := bind_eq_ok h
    obtain ⟨u, s₂, found, h⟩ := bind_eq_ok h
    obtain ⟨_, s₃, -, h⟩ := bind_eq_ok h
    exact leaves_of_activate rfl (target_eq_ok found) h
  | .jump target, _, h => by
    cases h
    exact ⟨target, [], rfl, nofun, .jumps rfl rfl⟩
  | .branch negated cond target, _, h => by
    obtain ⟨b, s₁, -, h⟩ := bind_eq_ok h
    cases h
    split
    · exact ⟨_, [], rfl, nofun, .on nofun⟩
    · exact ⟨target, [], rfl, nofun, .jumps rfl rfl⟩
  | .loop vars iterable, _, h => leaves_of_bind rfl h
  | .round target, _, h => by
    obtain ⟨s₀, s₁, -, h⟩ := bind_eq_ok h
    split at h
    · obtain ⟨_, s₂, -, h⟩ := bind_eq_ok h
      cases h
      exact ⟨target, [], rfl, nofun, .jumps rfl rfl⟩
    · exact leaves_of_bind rfl h
  | .directive d, _, h => by
    obtain ⟨flow, s₁, -, h⟩ := bind_eq_ok h
    exact (followed_of_follow h).leaves nofun
  | .start _ _, next, h => Started.leaves (started_of_execute next rfl h)
  | .stop d, _, h => by
    obtain ⟨flow, s₁, -, h⟩ := bind_eq_ok h
    exact (followed_of_follow h).leaves nofun
  | .startCached _ _, next, h => Started.leaves (started_of_execute next rfl h)
  | .stopCached i, _, h => leaves_of_bind rfl h

theorem stack_of_finish {isScoped : Bool}
    (h : (Machine.finish isScoped rest).run s = (.ok stack', s')) : stack' = rest := by
  cases isScoped with
  | true =>
    cases h
    rfl
  | false =>
    cases h
    rfl

/-- A step leaves the activation on top where it goes on, unless it ends it. -/
theorem leaves_of_moves (move : Moves e limit c c') (hstack : c.stack = a :: rest) :
    (a.next? = none ∧ c'.stack = rest) ∨
      ∃ i, a.next? = some i ∧ Leaves e a rest c.state i c'.stack := by
  rcases move.executes hstack with ⟨next, run⟩ | ⟨i, next, run⟩
  · exact .inl ⟨next, stack_of_finish run⟩
  · exact .inr ⟨i, next, leaves_of_execute next run⟩

/-- A step that runs the start of a block goes where the start says. -/
theorem started_of_moves (move : Moves e limit c c') (hstack : c.stack = a :: rest) {flow : Flow}
    (said : a.flow? e c.state = some flow) :
    ∃ i, a.next? = some i ∧ i.isStart ∧ Started e a rest i flow c'.stack := by
  rcases move.executes hstack with ⟨next, -⟩ | ⟨i, next, run⟩
  · rw [Activation.flow?, next] at said
    cases said
  · by_cases starts : i.isStart
    · obtain ⟨flow', said', started⟩ := started_of_execute next starts run
      cases said.symm.trans said'
      exact ⟨i, next, starts, started⟩
    · rw [flow?_of_not_isStart next (Bool.eq_false_iff.2 starts)] at said
      cases said

/-! ## Runs -/

/-- No block is open at the start of a template. -/
theorem openSpots_of_fresh {top : List Activation} (fresh : ∀ b ∈ top, Fresh e b) :
    openSpots (top ++ stack) = openSpots stack := by
  induction top with
  | nil => rfl
  | cons b top ih =>
    obtain ⟨first, others⟩ := List.forall_mem_cons.1 fresh
    rw [List.cons_append, openSpots, ih others, first.position]
    rfl

/-- The activations run the programs of their templates, and the starts of the blocks around the
places to which they have come are those that have not been closed. -/
structure Marked (w : List Mark) (c : Config) : Prop where
  programs : ∀ b ∈ c.stack, b.template.program? = some b.code
  word : Unfinished (openSpots c.stack) w

theorem mark?_of_next (hstack : c.stack = a :: rest) {i : Instr} (next : a.next? = some i) :
    mark? e c = if i.isStop then some (.closed ⟨a, rest⟩)
      else
        match a.flow? e c.state with
        | none => none
        | some .skip => none
        | some _ => some (.opened ⟨a, rest⟩) := by
  rw [mark?, hstack]
  dsimp only
  rw [next]
  rfl

/-- A step leaves its mark. -/
theorem Marked.step {w : List Mark} (h : Marked w c) (move : Moves e limit c c') :
    Marked (w ++ (mark? e c).toList) c' := by
  cases hstack : c.stack with
  | nil => exact absurd hstack move.1
  | cons a rest =>
    obtain ⟨programs, word⟩ := h
    rw [hstack] at programs word
    obtain ⟨program, programs⟩ := List.forall_mem_cons.1 programs
    rw [openSpots] at word
    rcases leaves_of_moves move hstack with ⟨next, ended⟩ | ⟨i, next, p, top, left, fresh, goes⟩
    · have unmarked : mark? e c = none := by
        rw [mark?, hstack]
        simp [Activation.flow?, next]
      rw [around_of_length_le program (List.getElem?_eq_none_iff.1 next)] at word
      refine ⟨ended ▸ programs, ?_⟩
      rw [unmarked, ended]
      exact (List.append_nil w).symm ▸ word
    refine ⟨?_, ?_⟩
    · rw [left, List.forall_mem_append]
      exact ⟨fun b hb => (fresh b hb).program, List.forall_mem_cons.2 ⟨program, programs⟩⟩
    have nests := nests_of_getElem? program next
    have marked := mark?_of_next (e := e) hstack next
    rw [left, openSpots_of_fresh fresh]
    show Unfinished ((around a.code p).map (fun first => ⟨a.goTo first, rest⟩) ++ openSpots rest) _
    cases goes with
    | jumps unstarted jumps =>
      rw [marked, flow?_of_not_isStart next unstarted, Instr.isStop_of_target? jumps,
        nests.jump p jumps]
      exact (List.append_nil w).symm ▸ word
    | skips jumps skipped =>
      rw [marked, skipped, Instr.isStop_of_target? jumps, nests.jump p jumps]
      exact (List.append_nil w).symm ▸ word
    | on runs =>
      have behind : around a.code (a.position + 1) = i.turn a.position (around a.code a.position) :=
        around_succ next
      by_cases starts : i.isStart
      · -- the block is open from now on
        obtain ⟨flow, said, goesOn⟩ := runs starts
        have opens : mark? e c = some (.opened ⟨a, rest⟩) := by
          rw [marked, said, Instr.isStop_of_isStart starts]
          cases flow with
          | skip => exact absurd rfl goesOn
          | _ => rfl
        rw [opens, behind, Instr.turn, if_pos starts]
        exact word.opened
      by_cases stops : i.isStop
      · -- the innermost block has been open
        obtain ⟨first, spans, closes⟩ := nests.stop stops
        rw [closes] at word
        rw [marked, if_pos stops]
        exact word.closed ⟨a.position, spans, rfl⟩
      · rw [marked, flow?_of_not_isStart next (Bool.eq_false_iff.2 starts), if_neg stops, behind,
          Instr.turn, if_neg starts, if_neg stops]
        exact (List.append_nil w).symm ▸ word

/-- The marks of a path leave open the starts of the blocks around the places to which it leads. -/
theorem marked_of_path {t : Template} {job : Job} {data : Value}
    (path : Path e limit (.start t job data) ps c) : Marked (marks e ps) c := by
  induction path with
  | nil =>
    refine ⟨List.forall_mem_singleton.2 (program?_eq t), ?_⟩
    exact .none .nil
  | snoc path move ih =>
    have marks_eq : ∀ p : Passage, marks e [p] = (mark? e p.before).toList := by
      intro p
      rw [marks, List.filterMap_cons, List.filterMap_nil]
      cases mark? e p.before with
      | none => rfl
      | some m => rfl
    have marked := ih.step move
    rw [← marks_eq ⟨_, _⟩] at marked
    rw [marks, List.filterMap_append]
    exact marked

/-! ## Templates that a start visits -/

/-- From a configuration in which it begins, an activation is run on top of others to its end, and
then the others go on to a configuration. -/
def RunsThrough (e : Engine) (limit : Nat) (v : Activation) (below : List Activation)
    (c c' : Config) : Prop :=
  ∃ p c₁ c₂, Lasts e limit (fun d => ∃ q, v.goTo q :: below <:+ d.stack) c c₁ ∧
    c₁.stack = v.goTo p :: below ∧ (v.goTo p).next? = none ∧ Moves e limit c₁ c₂ ∧
    c₂.stack = below ∧ Reaches e limit c₂ c'

/-- An activation stays where it is until it has come to its end. -/
theorem above_of_moves {v : Activation} {below : List Activation} {p : Nat}
    (above : v.goTo p :: below <:+ c.stack) (move : Moves e limit c c') :
    (∃ q, v.goTo q :: below <:+ c'.stack) ∨
      c.stack = v.goTo p :: below ∧ (v.goTo p).next? = none ∧ c'.stack = below := by
  obtain ⟨top, hstack⟩ := above
  cases top with
  | nil =>
    rcases leaves_of_moves move hstack.symm with ⟨next, ended⟩ | ⟨i, -, q, top, left, -⟩
    · exact .inr ⟨hstack.symm, next, ended⟩
    · exact .inl ⟨q, top, left.symm⟩
  | cons a top =>
    rcases leaves_of_moves move hstack.symm with ⟨-, ended⟩ | ⟨i, -, q, others, left, -⟩
    · exact .inl ⟨p, top, ended.symm⟩
    · refine .inl ⟨p, others ++ a.goTo q :: top, ?_⟩
      rw [left, List.append_assoc]
      rfl

/-- An activation that has begun is still there, or has been run to its end. -/
theorem runsThrough_of_reaches {v : Activation} {below : List Activation} {p : Nat}
    (begun : c.stack = v.goTo p :: below) (reached : Reaches e limit c c') :
    (Lasts e limit (fun d => ∃ q, v.goTo q :: below <:+ d.stack) c c' ∧
        ∃ q, v.goTo q :: below <:+ c'.stack) ∨ RunsThrough e limit v below c c' := by
  induction reached with
  | refl => exact .inl ⟨.refl, p, begun ▸ List.suffix_refl _⟩
  | tail _ move ih =>
    rcases ih with ⟨lasts, q, above⟩ | ⟨q, c₁, c₂, lasts, hstack, next, move', left, reached⟩
    · rcases above_of_moves above move with still | ⟨hstack, next, left⟩
      · exact .inl ⟨lasts.tail ⟨q, above⟩ move, still⟩
      · exact .inr ⟨q, _, _, lasts, hstack, next, move, left, .refl⟩
    · exact .inr ⟨q, c₁, c₂, lasts, hstack, next, move', left, reached.tail move⟩

end Machine

/-- The markers of blocks pair up in every render that comes to its end: what is run of them is well
nested, and each start that does not skip its body is closed by the end of its own block. A start
that skips goes behind the end of its block, and where a start visits a template, this one is run
from its start to its end before the machine goes on with the body. -/
theorem Engine.paired_of_run {e : Engine} {t : Template} {job : Job} {data : Value}
    (hdata : job.data = .ok data) {s : RenderState} (ended : e.run t job = (.ok (), s)) :
    ∃ ps, Machine.Path e (e.depthLimit job) (.start t job data) ps ⟨[], s⟩ ∧
      Machine.Paired (Machine.marks e ps) ∧
      ∀ p ∈ ps, ∀ a rest, p.before.stack = a :: rest →
        (a.flow? e p.before.state = some .skip →
          ∃ last, Spans a.code a.position last ∧ p.after.stack = a.goTo (last + 1) :: rest) ∧
        ∀ name given, a.flow? e p.before.state = some (.visit name given) →
          ∃ u code, e.template? name = some u ∧ u.program? = some code ∧
            p.after.stack = ⟨u, code, 0, true⟩ :: a.advance :: rest ∧
            Machine.RunsThrough e (e.depthLimit job) ⟨u, code, 0, true⟩ (a.advance :: rest)
              p.after ⟨[], s⟩ := by
  obtain ⟨ps, path⟩ := exists_path_of_ok hdata ended
  refine ⟨ps, path, (Machine.marked_of_path path).word.paired, ?_⟩
  intro p hp a rest hstack
  obtain ⟨before, move, after⟩ := path.moves hp
  refine ⟨fun said => ?_, fun name given said => ?_⟩
  · obtain ⟨i, next, starts, started⟩ := Machine.started_of_moves move hstack said
    obtain ⟨qs, path'⟩ := Machine.exists_path_of_reaches before
    have programs := (Machine.marked_of_path path').programs
    rw [hstack] at programs
    have nests := nests_of_getElem? (List.forall_mem_cons.1 programs).1 next
    obtain ⟨last, spans, jumps⟩ := nests.start starts
    exact ⟨last, spans, started.stack_of_skip jumps⟩
  · obtain ⟨i, next, starts, started⟩ := Machine.started_of_moves move hstack said
    obtain ⟨u, code, found, program, visits⟩ := started.followed_of_visit
    refine ⟨u, code, found, program, visits, ?_⟩
    -- no activation is left in the end, so the one that was put in place has been run to its end
    rcases Machine.runsThrough_of_reaches (v := ⟨u, code, 0, true⟩) (p := 0) visits after with
      ⟨-, q, above⟩ | through
    · cases List.suffix_nil.1 above
    · exact through

/-- A loop over two items, in which a block visits a template before its body, and another block
skips its own. -/
def Template.framed : Template where
  name := none
  source := "ab"
  body := [.forLoop (.item ⟨"a", ⟨0, 1⟩⟩) (.literal (.list [.int 1, .int 2]) ⟨0, 1⟩)
    [.block (directive fun _ => .done (.visit "p" (.map [("x", .text "x")])))
        [.cachedAs "key" [.raw ⟨0, 1⟩]] (directive fun _ => .done .next),
      .block (directive fun _ => .done .skip) [.raw ⟨1, 2⟩] (directive fun _ => .done .halt)]]
where
  /-- A directive without arguments. -/
  directive (run : Args → Script Flow) : Directive :=
    ⟨⟨⟨"frame", ⟨0, 0⟩⟩, .none, ⟨"", 1, 1⟩, ⟨0, 0⟩⟩, run⟩

/-- The template is visited before the body in both rounds, and neither the other body nor the end
behind it is run. -/
theorem Engine.paired_of_run_framed :
    let u : Template := ⟨some "p", "x", [.output (.variable ⟨"x", ⟨0, 1⟩⟩ []) ⟨0, 1⟩]⟩
    let e : Engine := { Engine.new .standard with templates := [("p", u)] }
    let job := Job.ofData .none
    (e.render .framed job).body = "xaxa" ∧
      ∃ ps s, e.run .framed job = (.ok (), s) ∧
        Machine.Path e (e.depthLimit job) (.start .framed job .none) ps ⟨[], s⟩ ∧
        Machine.Paired (Machine.marks e ps) := by
  intro u e job
  have done : (e.run .framed job).1.isOk := by
    decide +kernel
  have written : (e.render .framed job).body = "xaxa" := by
    decide +kernel
  -- nothing of the state need be worked out
  have split : ∀ r : Except Stop Unit × RenderState, r.1.isOk → ∃ s, r = (.ok (), s) := by
    rintro ⟨_ | _, s⟩ ok
    · cases ok
    · exact ⟨s, rfl⟩
  obtain ⟨s, ended⟩ := split _ done
  have data : job.data = .ok .none := rfl
  obtain ⟨ps, path, paired, -⟩ := Engine.paired_of_run data ended
  exact ⟨written, ps, s, ended, path, paired⟩

end Stencil
