import Mathlib.Logic.Relation
import Stencil.Proofs.Transitions

/-!
# The stacks of a render

The layers of variables, the frames, the captures and the open blocks are kept apart, and yet they
move in step. An invariant of the machine says so: it knows of each activation and of each loop when
it began.

- `Layered`, `Skeleton.Orderly`: how the stacks are ordered in themselves.
- `Standing`: how they are made up from what the activations have open.
- `Transition.orderly`, `Transition.standing`: a step of the machine keeps both.
- `Machine.Reaches`, `Machine.Lasts`: the configurations that the machine passes.
- `Machine.orderly_of_reaches`: what holds wherever the machine comes.
-/

namespace Stencil

/-! ## The stacks by themselves -/

/-- Layers of variables with so many frames: those of a template with variables of its own are the
frame that is last when they begin, and loops, and a boundary divides them from the next ones. -/
inductive Layered : List Layer → Nat → Prop
  | base (given : Value) : Layered [.variables given 0] 1
  | loop {layers : List Layer} {frames : Nat} (l : Loop) (h : Layered layers frames) :
      Layered (.loop l :: layers) frames
  | template {layers : List Layer} {frames : Nat} (given : Value) (h : Layered layers frames) :
      Layered (.variables given frames :: .boundary :: layers) (frames + 1)

theorem Layered.pos {layers : List Layer} {n : Nat} (h : Layered layers n) : 0 < n := by
  induction h with
  | base => exact Nat.one_pos
  | loop _ _ ih => exact ih
  | template => exact Nat.succ_pos _

theorem Layered.of_loop {layers : List Layer} {n : Nat} {l : Loop}
    (h : Layered (.loop l :: layers) n) : Layered layers n := by
  cases h with
  | loop _ h => exact h

theorem Layered.of_template {layers : List Layer} {m n : Nat} {given : Value}
    (h : Layered (.variables given n :: .boundary :: layers) m) :
    m = n + 1 ∧ Layered layers n := by
  cases h with
  | template _ h => exact ⟨rfl, h⟩

/-- The layers determine how many frames there are. -/
theorem Layered.unique {layers : List Layer} {m n : Nat} (hm : Layered layers m)
    (hn : Layered layers n) : m = n := by
  induction hm generalizing n with
  | base =>
    cases hn
    rfl
  | loop _ _ ih =>
    cases hn with
    | loop _ hn => exact ih hn
  | template _ _ ih =>
    cases hn
    rfl

namespace Skeleton

/-- There are as many captures as open blocks, and the later a block was opened the greater is its
identity. -/
structure Orderly (k : Skeleton) : Prop where
  layered : Layered k.layers k.frames
  captured : k.captures = k.blocks.length
  increasing : (k.blocks.map Block.id).Pairwise (· > ·)
  below : ∀ b ∈ k.blocks, b.id < k.nextBlock

/-- Two skeletons have the same stacks, though more blocks may have been opened before one of them
than before the other. -/
structure Alike (k k' : Skeleton) : Prop where
  layers : k.layers = k'.layers
  frames : k.frames = k'.frames
  captures : k.captures = k'.captures
  blocks : k.blocks = k'.blocks

namespace Orderly

variable {k k' : Skeleton}

/-- The layers and the blocks determine the heights of the other stacks. -/
theorem alike (h : k.Orderly) (h' : k'.Orderly) (layers : k.layers = k'.layers)
    (blocks : k.blocks = k'.blocks) : k.Alike k' where
  layers := layers
  frames := (layers ▸ h.layered).unique h'.layered
  captures := by rw [h.captured, h'.captured, blocks]
  blocks := blocks

theorem enter (h : k.Orderly) (given : Value) : (k.enter given).Orderly where
  layered := .template given h.layered
  captured := h.captured
  increasing := h.increasing
  below := h.below

theorem leave (h : k.Orderly) {given : Value} {n : Nat} {layers : List Layer}
    (hl : k.layers = .variables given n :: .boundary :: layers) : k.leave.Orderly where
  layered := by
    obtain ⟨frames, inner⟩ := (hl ▸ h.layered).of_template
    show Layered (k.layers.drop 2) (k.frames - 1)
    rw [hl, frames]
    exact inner
  captured := h.captured
  increasing := h.increasing
  below := h.below

theorem enterLoop (h : k.Orderly) (rounds : List Round) : (k.enterLoop rounds).Orderly where
  layered := .loop _ h.layered
  captured := h.captured
  increasing := h.increasing
  below := h.below

/-- Another round of the innermost loop, or its end. -/
theorem withLoop (h : k.Orderly) {l : Loop} {layers : List Layer}
    (hl : k.layers = .loop l :: layers) :
    (∀ l', (k.withLoop [.loop l']).Orderly) ∧ (k.withLoop []).Orderly := by
  have inner : Layered (k.layers.drop 1) k.frames := by
    rw [hl]
    exact (hl ▸ h.layered).of_loop
  exact ⟨fun l' => ⟨.loop l' inner, h.captured, h.increasing, h.below⟩,
    ⟨inner, h.captured, h.increasing, h.below⟩⟩

theorem openBlock (h : k.Orderly) (pending : Option Pending) : (k.openBlock pending).Orderly where
  layered := h.layered
  captured := congrArg (· + 1) h.captured
  increasing := by
    refine List.pairwise_cons.2 ⟨?_, h.increasing⟩
    intro id hid
    obtain ⟨b, hb, rfl⟩ := List.mem_map.1 hid
    exact h.below b hb
  below := by
    refine List.forall_mem_cons.2 ⟨Nat.lt_succ_self _, fun b hb => ?_⟩
    exact Nat.lt_succ_of_lt (h.below b hb)

theorem closeBlock (h : k.Orderly) {b : Block} {bs : List Block} (hb : k.blocks = b :: bs) :
    (k.closeBlock bs).Orderly where
  layered := h.layered
  captured := by
    show k.captures - 1 = bs.length
    rw [h.captured, hb]
    rfl
  increasing := by
    have increasing := h.increasing
    rw [hb] at increasing
    exact (List.pairwise_cons.1 increasing).2
  below c hc := h.below c (hb ▸ List.mem_cons_of_mem b hc)

end Orderly

end Skeleton

namespace Machine

/-! ## What the stacks are made up from -/

/-- What is known of the past: that a loop of an activation on top of others began when there were
certain layers, and with which layers and blocks an activation began, and which layers were there
before it. -/
structure Past where
  loop (a : Activation) (rest : List Activation) (round : Nat) (outer : List Layer) : Prop
  start (a : Activation) (rest : List Activation) (inside outside : List Layer)
    (blocks : List Block) : Prop

/-- Some loops and cached blocks have added their layers and blocks to those that were there. -/
inductive Opened (past : Nat → List Layer → Prop) (layers₀ : List Layer) (blocks₀ : List Block) :
    List Bracket → List Layer → List Block → Prop
  | nil : Opened past layers₀ blocks₀ [] layers₀ blocks₀
  | loop {bs : List Bracket} {layers : List Layer} {blocks : List Block} (l : Loop) {round : Nat}
      (began : past round layers) (h : Opened past layers₀ blocks₀ bs layers blocks) :
      Opened past layers₀ blocks₀ (.loop round :: bs) (.loop l :: layers) blocks
  | cached {bs : List Bracket} {layers : List Layer} {blocks : List Block} (b : Block)
      (h : Opened past layers₀ blocks₀ bs layers blocks) :
      Opened past layers₀ blocks₀ (.cached :: bs) layers (b :: blocks)

/-- The layers at the start of an activation, given those before it. -/
def Owns (isScoped : Bool) (inside outside : List Layer) : Prop :=
  match isScoped with
  | false => inside = outside
  | true => ∃ given n, inside = .variables given n :: .boundary :: outside

/-- The activations have added their layers and blocks one after the other, each as much as is open
at the place to which it has come. -/
inductive Standing (past : Past) : List Activation → List Layer → List Block → Prop
  | nil (layers : List Layer) (blocks : List Block) : Standing past [] layers blocks
  | cons {a : Activation} {rest : List Activation} {layers inside outside : List Layer}
      {blocks blocks₀ : List Block} (code : a.template.program? = some a.code)
      (position : a.position ≤ a.code.length)
      (opened : Opened (past.loop (a.goTo 0) rest) inside blocks₀
        (a.template.openAt a.position) layers blocks)
      (owned : Owns a.isScoped inside outside)
      (began : past.start (a.goTo 0) rest inside outside blocks₀)
      (below : Standing past rest outside blocks₀) : Standing past (a :: rest) layers blocks

section

variable {past past' : Past} {a : Activation} {rest stack : List Activation}
  {layers layers₀ inside outside : List Layer} {blocks blocks₀ : List Block} {bs : List Bracket}

theorem Opened.of_nil {past : Nat → List Layer → Prop}
    (h : Opened past layers₀ blocks₀ [] layers blocks) : layers = layers₀ ∧ blocks = blocks₀ := by
  cases h
  exact ⟨rfl, rfl⟩

theorem Opened.of_loop {past : Nat → List Layer → Prop} {round : Nat}
    (h : Opened past layers₀ blocks₀ (.loop round :: bs) layers blocks) :
    ∃ l outer, layers = .loop l :: outer ∧ past round outer ∧
      Opened past layers₀ blocks₀ bs outer blocks := by
  cases h with
  | loop l began h => exact ⟨l, _, rfl, began, h⟩

theorem Opened.of_cached {past : Nat → List Layer → Prop}
    (h : Opened past layers₀ blocks₀ (.cached :: bs) layers blocks) :
    ∃ b others, blocks = b :: others ∧ Opened past layers₀ blocks₀ bs layers others := by
  cases h with
  | cached b h => exact ⟨b, _, rfl, h⟩

/-- The layers before a bracket was opened are still there. -/
theorem Opened.suffix {past : Nat → List Layer → Prop}
    (h : Opened past layers₀ blocks₀ bs layers blocks) : layers₀ <:+ layers := by
  induction h with
  | nil => exact List.suffix_refl _
  | loop _ _ _ ih => exact ih.trans (List.suffix_cons _ _)
  | cached _ _ ih => exact ih

/-- More may be known of the loops that are still there. -/
theorem Opened.imp {past past' : Nat → List Layer → Prop}
    (h : Opened past layers₀ blocks₀ bs layers blocks)
    (loop : ∀ round outer, (∃ l, Layer.loop l :: outer <:+ layers) → past round outer →
      past' round outer) :
    Opened past' layers₀ blocks₀ bs layers blocks := by
  induction h with
  | nil => exact .nil
  | loop l began _ ih =>
    refine .loop l (loop _ _ ⟨l, List.suffix_refl _⟩ began) (ih fun round outer => ?_)
    rintro ⟨m, hm⟩
    exact loop round outer ⟨m, hm.trans (List.suffix_cons _ _)⟩
  | cached b _ ih => exact .cached b (ih loop)

theorem Owns.suffix {isScoped : Bool} (h : Owns isScoped inside outside) : outside <:+ inside := by
  cases isScoped with
  | false =>
    cases h
    exact List.suffix_refl _
  | true =>
    obtain ⟨given, n, rfl⟩ := h
    exact (List.suffix_cons _ _).trans (List.suffix_cons _ _)

/-- More may be known of the loops and activations that are still there. -/
theorem Standing.imp (h : Standing past stack layers blocks)
    (loop : ∀ a rest round outer, (∃ l, Layer.loop l :: outer <:+ layers) →
      past.loop a rest round outer → past'.loop a rest round outer)
    (start : ∀ a rest inside outside blocks, (∃ p, a.goTo p :: rest <:+ stack) →
      past.start a rest inside outside blocks → past'.start a rest inside outside blocks) :
    Standing past' stack layers blocks := by
  induction h with
  | nil layers blocks => exact .nil layers blocks
  | @cons a rest _ _ _ _ _ code position opened owned began _ ih =>
    refine .cons code position (opened.imp fun round outer => loop _ _ round outer) owned
      (start _ _ _ _ _ ⟨a.position, List.suffix_refl _⟩ began) (ih ?_ ?_)
    · rintro a' rest' round outer ⟨l, hl⟩
      exact loop a' rest' round outer ⟨l, (hl.trans owned.suffix).trans opened.suffix⟩
    · rintro a' rest' inside outside blocks ⟨p, hp⟩
      exact start a' rest' inside outside blocks ⟨p, hp.trans (List.suffix_cons _ _)⟩

/-- The next instruction of an activation has nothing open behind the last one. -/
theorem openAt_of_next?_eq_none (code : a.template.program? = some a.code)
    (position : a.position ≤ a.code.length) (hn : a.next? = none) :
    a.template.openAt a.position = [] := by
  have last : a.position = a.code.length :=
    Nat.le_antisymm position (List.getElem?_eq_none_iff.1 hn)
  rw [Program.program?_eq] at code
  rw [last, ← Option.some.inj code, Template.openAt_length]

end

/-! ## Steps -/

section

variable {past : Past} {a : Activation} {rest stack : List Activation} {k k' : Skeleton}

/-- The end of an activation leaves the layers that were there before it. -/
theorem Owns.layers_leave {isScoped : Bool} {outside : List Layer}
    (h : Owns isScoped k.layers outside) :
    (if isScoped then k.leave else k).layers = outside := by
  cases isScoped with
  | false => exact h
  | true =>
    obtain ⟨given, n, layers⟩ := h
    show k.layers.drop 2 = outside
    rw [layers]
    rfl

/-- A step keeps the stacks made up from what the activations have open, if what it begins is
known. -/
theorem Transition.standing (h : Transition a rest k stack k')
    (standing : Standing past (a :: rest) k.layers k.blocks)
    (loop : ∀ vars x, a.next? = some (.loop vars x) →
      past.loop (a.goTo 0) rest (a.position + 1) k.layers)
    (start : ∀ u code isScoped, stack = ⟨u, code, 0, isScoped⟩ :: a.advance :: rest →
      k'.blocks = k.blocks →
      past.start ⟨u, code, 0, isScoped⟩ (a.advance :: rest) k'.layers k.layers k'.blocks) :
    Standing past stack k'.layers k'.blocks := by
  cases standing with
  | cons code position opened owned began below =>
  cases h with
  | pass p hp same => exact .cons code hp (same ▸ opened) owned began below
  | enterLoop vars x rounds hp opens =>
    refine .cons code (List.getElem?_eq_some_iff.1 hp).1 ?_ owned began below
    show Opened _ _ _ (a.template.openAt (a.position + 1)) _ _
    rw [opens]
    exact .loop _ (loop vars x hp) opened
  | enterRound target l hp opens same =>
    refine .cons code (List.getElem?_eq_some_iff.1 hp).1 ?_ owned began below
    show Opened _ _ _ (a.template.openAt (a.position + 1)) ([.loop l] ++ k.layers.drop 1) _
    rw [opens] at opened
    obtain ⟨_, outer, layers, loopBegan, inner⟩ := opened.of_loop
    rw [same, opens, layers]
    exact .loop l loopBegan inner
  | leaveLoop target hp closes =>
    refine .cons code hp ?_ owned began below
    show Opened _ _ _ (a.template.openAt target) (k.layers.drop 1) _
    rw [closes] at opened
    obtain ⟨_, outer, layers, _, inner⟩ := opened.of_loop
    rw [layers]
    exact inner
  | openBlock pending hp opens =>
    refine .cons code hp ?_ owned began below
    show Opened _ _ _ (a.template.openAt (a.position + 1)) _ _
    rw [opens]
    exact .cached _ opened
  | closeBlock b bs hp closes hb =>
    refine .cons code hp ?_ owned began below
    show Opened _ _ _ (a.template.openAt (a.position + 1)) _ bs
    rw [closes, hb] at opened
    obtain ⟨_, others, blocks, inner⟩ := opened.of_cached
    cases blocks
    exact inner
  | visit u code' hu hp same =>
    refine .cons hu (Nat.zero_le _) ?_ rfl (start u code' false rfl rfl)
      (.cons code hp (same ▸ opened) owned began below)
    rw [u.openAt_zero]
    exact .nil
  | visitWithin u code' given hu hp same =>
    refine .cons hu (Nat.zero_le _) ?_ ⟨given, k.frames, rfl⟩ (start u code' true rfl rfl)
      (.cons code hp (same ▸ opened) owned began below)
    rw [u.openAt_zero]
    exact .nil
  | finish hn =>
    rw [openAt_of_next?_eq_none code position hn] at opened
    obtain ⟨hl, hb⟩ := opened.of_nil
    have layers := Owns.layers_leave (k := k) (hl ▸ owned)
    have blocks : (if a.isScoped then k.leave else k).blocks = k.blocks := by
      split <;> rfl
    rw [layers, blocks, hb]
    exact below

/-- A step keeps the stacks orderly. -/
theorem Transition.orderly (h : Transition a rest k stack k')
    (standing : Standing past (a :: rest) k.layers k.blocks) (orderly : k.Orderly) :
    k'.Orderly := by
  cases standing with
  | cons code position opened owned began below =>
  cases h with
  | pass => exact orderly
  | enterLoop vars x rounds => exact orderly.enterLoop rounds
  | enterRound target l hp opens same =>
    rw [opens] at opened
    obtain ⟨_, outer, layers, _⟩ := opened.of_loop
    exact (orderly.withLoop layers).1 l
  | leaveLoop target hp closes =>
    rw [closes] at opened
    obtain ⟨_, outer, layers, _⟩ := opened.of_loop
    exact (orderly.withLoop layers).2
  | openBlock pending => exact orderly.openBlock pending
  | closeBlock b bs hp closes hb => exact orderly.closeBlock hb
  | visit => exact orderly
  | visitWithin u code' given => exact orderly.enter given
  | finish hn =>
    rw [openAt_of_next?_eq_none code position hn] at opened
    cases owns : a.isScoped with
    | false => exact orderly
    | true =>
      rw [owns] at owned
      obtain ⟨given, n, hinside⟩ := owned
      exact orderly.leave (opened.of_nil.1.trans hinside)

/-- A step of an activation with stacks made up like this is a transition. -/
theorem Standing.leads {e : Engine} {limit : Nat} (orderly : k.Orderly)
    (standing : Standing past (a :: rest) k.layers k.blocks) :
    Render.Leads (step e limit (a :: rest)) k (Transition a rest k) (Abandoned k) := by
  cases standing with
  | cons code => exact leads_step e limit orderly.layered.pos code

/-- The layer of a loop is on top where its rounds begin. -/
theorem Standing.loop_of_round (standing : Standing past (a :: rest) k.layers k.blocks)
    {target : Nat} (next : a.next? = some (.round target)) :
    ∃ l outer, k.layers = .loop l :: outer ∧ past.loop (a.goTo 0) rest a.position outer := by
  cases standing with
  | cons code _ opened =>
    rw [(a.template.fits code next).2.1] at opened
    obtain ⟨l, outer, layers, began, _⟩ := opened.of_loop
    exact ⟨l, outer, layers, began⟩

/-- A block is open where one ends. -/
theorem Standing.blocks_ne_nil (standing : Standing past (a :: rest) k.layers k.blocks)
    {i : Invocation} (next : a.next? = some (.stopCached i)) : k.blocks ≠ [] := by
  cases standing with
  | cons code _ opened =>
    have closes : a.template.openAt a.position = .cached :: a.template.openAt (a.position + 1) :=
      a.template.fits code next
    rw [closes] at opened
    obtain ⟨b, others, blocks, _⟩ := opened.of_cached
    exact blocks ▸ List.cons_ne_nil b others

/-- The layers and blocks at the end of an activation are those at its start. -/
theorem Standing.start_of_finish (standing : Standing past (a :: rest) k.layers k.blocks)
    (next : a.next? = none) :
    ∃ outside, Owns a.isScoped k.layers outside ∧
      past.start (a.goTo 0) rest k.layers outside k.blocks := by
  cases standing with
  | cons code position opened owned began =>
    rw [openAt_of_next?_eq_none code position next] at opened
    obtain ⟨layers, blocks⟩ := opened.of_nil
    rw [layers, blocks]
    exact ⟨_, owned, began⟩

/-- The stacks are orderly also when a step stops. -/
theorem Abandoned.orderly (h : Abandoned k k') (orderly : k.Orderly) : k'.Orderly := by
  cases h with
  | same => exact orderly
  | entered given => exact orderly.enter given
  | closed b bs hb => exact orderly.closeBlock hb

/-- A block that a step opens has the next identity, and no step goes back to an earlier one. -/
theorem Transition.nextBlock (h : Transition a rest k stack k') :
    k.nextBlock ≤ k'.nextBlock ∧ ∀ b, k'.blocks = b :: k.blocks → b.id = k.nextBlock := by
  have kept : ∀ b, k.blocks = b :: k.blocks → b.id = k.nextBlock :=
    fun b hb => absurd hb.symm (List.cons_ne_self b _)
  cases h with
  | openBlock pending =>
    refine ⟨Nat.le_succ _, fun b hb => ?_⟩
    cases hb
    rfl
  | closeBlock b bs hp closes hb =>
    refine ⟨Nat.le_refl _, fun c hc => ?_⟩
    -- there are fewer blocks now
    have length : bs.length = (c :: b :: bs).length := congrArg List.length (hc.trans (hb ▸ rfl))
    simp only [List.length_cons] at length
    omega
  | finish =>
    cases a.isScoped with
    | false => exact ⟨Nat.le_refl _, kept⟩
    | true => exact ⟨Nat.le_refl _, kept⟩
  | _ => exact ⟨Nat.le_refl _, kept⟩

end

/-! ## Configurations -/

/-- Where the machine is, and with which state. -/
structure Config where
  stack : List Activation
  state : RenderState

/-- The configuration in which the program of a template begins. -/
def Config.initial (t : Template) (code : List Instr) (job : Job) (data : Value) : Config :=
  ⟨[⟨t, code, 0, false⟩], job.initial data⟩

section

variable (e : Engine) (limit : Nat)

/-- A step leads from one configuration to another. -/
def Moves (c c' : Config) : Prop :=
  c.stack ≠ [] ∧ (step e limit c.stack).run c.state = (.ok c'.stack, c'.state)

/-- Some steps lead from one configuration to another. -/
def Reaches : Config → Config → Prop := Relation.ReflTransGen (Moves e limit)

/-- Some steps lead from one configuration to another, and until then something holds. -/
def Lasts (P : Config → Prop) : Config → Config → Prop :=
  Relation.ReflTransGen fun c c' => P c ∧ Moves e limit c c'

/-- The loop whose rounds an instruction of an activation begins has been begun by the instruction
before that one, when the given layers were there, and has not been left since. -/
def LoopBegan (init : Config) (a : Activation) (rest : List Activation) (round : Nat)
    (outer : List Layer) (c : Config) : Prop :=
  ∃ c₀ c₁ p vars x, Reaches e limit init c₀ ∧ c₀.stack = a.goTo p :: rest ∧ round = p + 1 ∧
    (a.goTo p).next? = some (.loop vars x) ∧ c₀.state.layers = outer ∧ Moves e limit c₀ c₁ ∧
    Lasts e limit (fun d => ∃ l, .loop l :: outer <:+ d.state.layers) c₁ c

/-- A configuration in which an activation began, which has not come to its end since. -/
def Began (init : Config) (a : Activation) (rest : List Activation) (c₁ c : Config) : Prop :=
  Reaches e limit init c₁ ∧ c₁.stack = a.goTo 0 :: rest ∧
    Lasts e limit (fun d => ∃ p, a.goTo p :: rest <:+ d.stack) c₁ c

/-- What is known of the past in a configuration that is reached from another one. -/
def past (init c : Config) : Past where
  loop a rest round outer := LoopBegan e limit init a rest round outer c
  start a rest inside outside blocks :=
    ∃ c₁, Began e limit init a rest c₁ c ∧ c₁.state.layers = inside ∧ c₁.state.blocks = blocks ∧
      (c₁ = init ∨ ∃ c₀, Reaches e limit init c₀ ∧ Moves e limit c₀ c₁ ∧
        c₀.state.layers = outside ∧ c₀.state.blocks = blocks)

end

section

variable {e : Engine} {limit : Nat} {init c c' : Config}

theorem Lasts.tail {P : Config → Prop} {c₁ : Config} (h : Lasts e limit P c₁ c) (hc : P c)
    (move : Moves e limit c c') : Lasts e limit P c₁ c' :=
  Relation.ReflTransGen.tail h ⟨hc, move⟩

/-- What is known of what is still there is known after a step, too. -/
theorem standing_past_of_moves (move : Moves e limit c c')
    (standing : Standing (past e limit init c) c.stack c.state.layers c.state.blocks) :
    Standing (past e limit init c') c.stack c.state.layers c.state.blocks := by
  refine standing.imp ?_ ?_
  · rintro a rest round outer there
      ⟨c₀, c₁, p, vars, x, reached, stack, round', next, layers, first, lasts⟩
    exact ⟨c₀, c₁, p, vars, x, reached, stack, round', next, layers, first, lasts.tail there move⟩
  · rintro a rest inside outside blocks there ⟨c₁, ⟨reached, stack, lasts⟩, h⟩
    exact ⟨c₁, ⟨reached, stack, lasts.tail there move⟩, h⟩

/-- A step from a configuration with orderly stacks is a transition. -/
theorem Moves.transition {past : Past} (move : Moves e limit c c')
    (orderly : c.state.skeleton.Orderly)
    (standing : Standing past c.stack c.state.layers c.state.blocks) :
    ∃ a rest, c.stack = a :: rest ∧
      Transition a rest c.state.skeleton c'.stack c'.state.skeleton := by
  obtain ⟨nonempty, run⟩ := move
  cases hstack : c.stack with
  | nil => exact absurd hstack nonempty
  | cons a rest =>
    rw [hstack] at run standing
    exact ⟨a, rest, rfl, (standing.leads orderly c.state rfl).of_ok run⟩

/-- At the end of an activation the layers are left that were there before it. -/
theorem Moves.finish {a : Activation} {rest : List Activation} {outside : List Layer}
    (move : Moves e limit c c') (hstack : c.stack = a :: rest) (next : a.next? = none)
    (owned : Owns a.isScoped c.state.layers outside) :
    c'.state.layers = outside ∧ c'.state.blocks = c.state.blocks := by
  have run := move.2
  rw [hstack, step, next] at run
  have skeleton : c'.state.skeleton =
      if a.isScoped then c.state.skeleton.leave else c.state.skeleton :=
    ((leads_finish a.isScoped c.state rfl).of_ok run).2
  refine ⟨(congrArg Skeleton.layers skeleton).trans (Owns.layers_leave owned),
    (congrArg Skeleton.blocks skeleton).trans ?_⟩
  split <;> rfl

/-- Wherever the machine comes, its stacks are orderly and made up from what the activations have
open. -/
theorem standing_of_reaches {t : Template} {code : List Instr} {job : Job} {data : Value}
    (ht : t.program? = some code) (h : Reaches e limit (.initial t code job data) c) :
    c.state.skeleton.Orderly ∧
      Standing (past e limit (.initial t code job data) c) c.stack c.state.layers
        c.state.blocks := by
  induction h with
  | refl =>
    refine ⟨⟨.base data, rfl, .nil, nofun⟩, ?_⟩
    refine .cons ht (Nat.zero_le _) ?_ rfl ?_ (.nil [.variables data 0] [])
    · show Opened _ _ _ (t.openAt 0) _ _
      rw [t.openAt_zero]
      exact .nil
    · exact ⟨_, ⟨.refl, rfl, .refl⟩, rfl, rfl, .inl rfl⟩
  | @tail c c' reached move ih =>
    obtain ⟨orderly, standing⟩ := ih
    obtain ⟨a, rest, hstack, transition⟩ := move.transition orderly standing
    have known := standing_past_of_moves move standing
    rw [hstack] at known
    refine ⟨transition.orderly known orderly, transition.standing known ?_ ?_⟩
    · intro vars x next
      exact ⟨c, c', a.position, vars, x, reached, hstack, rfl, next, rfl, move, .refl⟩
    · intro u code' isScoped hstack' same
      exact ⟨c', ⟨reached.tail move, hstack', .refl⟩, rfl, rfl,
        .inr ⟨c, reached, move, rfl, same.symm⟩⟩

/-- The stacks are orderly after any number of steps, also after one that stops. -/
theorem orderly_run {t : Template} {code : List Instr} {job : Job} {data : Value}
    (ht : t.program? = some code) (n : Nat) {c : Config}
    (h : Reaches e limit (.initial t code job data) c) :
    ((run e limit n c.stack).run c.state).2.skeleton.Orderly := by
  obtain ⟨orderly, standing⟩ := standing_of_reaches ht h
  induction n generalizing c with
  | zero =>
    cases hstack : c.stack with
    | nil => exact orderly
    | cons a rest => exact orderly
  | succ n ih =>
    cases hstack : c.stack with
    | nil => exact orderly
    | cons a rest =>
      show ((step e limit (a :: rest) >>= run e limit n).run c.state).2.skeleton.Orderly
      rcases hstep : (step e limit (a :: rest)).run c.state with ⟨stop | stack, s⟩
      · rw [Render.run_bind_error hstep]
        rw [hstack] at standing
        exact ((standing.leads orderly c.state rfl).of_error hstep).orderly orderly
      · rw [Render.run_bind_ok hstep]
        have move : Moves e limit c ⟨stack, s⟩ := ⟨by rw [hstack]; nofun, by rw [hstack, hstep]⟩
        have reached := h.tail move
        obtain ⟨orderly', standing'⟩ := standing_of_reaches ht reached
        exact ih reached orderly' standing'

/-- No step goes back to an earlier identity. -/
theorem nextBlock_le_of_reaches {t : Template} {code : List Instr} {job : Job} {data : Value}
    (ht : t.program? = some code) (h : Reaches e limit (.initial t code job data) c)
    (h' : Reaches e limit c c') : c.state.nextBlock ≤ c'.state.nextBlock := by
  induction h' with
  | refl => exact Nat.le_refl _
  | @tail d d' reached move ih =>
    obtain ⟨orderly, standing⟩ := standing_of_reaches ht (h.trans reached)
    obtain ⟨_, _, _, transition⟩ := move.transition orderly standing
    exact Nat.le_trans ih transition.nextBlock.1

/-- Wherever the machine comes, and also where it stops, its stacks are orderly, and a block that is
opened then has a greater identity than any that was open before. An instruction that begins a round
finds the loop on top that the instruction before it has begun, the end of a cached block finds a
block, and at the end of an activation the stacks are as they were at its start, and then as they
were before it. -/
theorem orderly_of_reaches {t : Template} {code : List Instr} {job : Job} {data : Value}
    (ht : t.program? = some code) (h : Reaches e limit (.initial t code job data) c) :
    (∀ n, ((run e limit n c.stack).run c.state).2.skeleton.Orderly) ∧
    (∀ c₀ c' b, Reaches e limit (.initial t code job data) c₀ → Reaches e limit c₀ c →
      Moves e limit c c' → c'.state.blocks = b :: c.state.blocks →
      ∀ b₀ ∈ c₀.state.blocks, b₀.id < b.id) ∧
    ∀ a rest, c.stack = a :: rest →
      (∀ target, a.next? = some (.round target) →
        ∃ l outer, c.state.layers = .loop l :: outer ∧
          LoopBegan e limit (.initial t code job data) a rest a.position outer c) ∧
      (∀ i, a.next? = some (.stopCached i) → c.state.blocks ≠ []) ∧
      (a.next? = none →
        ∃ c₁, Began e limit (.initial t code job data) a rest c₁ c ∧
          c.state.skeleton.Alike c₁.state.skeleton ∧
          ∀ c', Moves e limit c c' → c₁ = .initial t code job data ∨
            ∃ c₀, Reaches e limit (.initial t code job data) c₀ ∧ Moves e limit c₀ c₁ ∧
              c'.state.skeleton.Alike c₀.state.skeleton) := by
  obtain ⟨orderly, standing⟩ := standing_of_reaches ht h
  refine ⟨fun n => orderly_run ht n h, ?_, ?_⟩
  · intro c₀ c' b reached₀ reached move hb b₀ hb₀
    have below := (standing_of_reaches ht reached₀).1.below b₀ hb₀
    obtain ⟨_, _, _, transition⟩ := move.transition orderly standing
    rw [transition.nextBlock.2 b hb]
    exact Nat.lt_of_lt_of_le below (nextBlock_le_of_reaches ht reached₀ reached)
  · intro a rest hstack
    have standing : Standing _ (a :: rest) c.state.skeleton.layers c.state.skeleton.blocks :=
      hstack ▸ standing
    refine ⟨fun target next => standing.loop_of_round next,
      fun i next => standing.blocks_ne_nil next,
      fun next => ?_⟩
    obtain ⟨outside, owned, c₁, began, layers, blocks, before⟩ := standing.start_of_finish next
    have orderly₁ := (standing_of_reaches ht began.1).1
    refine ⟨c₁, began, orderly.alike orderly₁ layers.symm blocks.symm, fun c' move => ?_⟩
    rcases before with start | ⟨c₀, reached₀, move₀, layers₀, blocks₀⟩
    · exact .inl start
    · have orderly' := (standing_of_reaches ht (h.tail move)).1
      have orderly₀ := (standing_of_reaches ht reached₀).1
      obtain ⟨layers', blocks'⟩ := move.finish hstack next owned
      exact .inr ⟨c₀, reached₀, move₀, orderly'.alike orderly₀ (layers'.trans layers₀.symm)
        (blocks'.trans blocks₀.symm)⟩

end

/-- A cached block in a loop over two items. -/
def repeated : Template where
  name := none
  source := "a"
  body := [.forLoop (.item ⟨"a", ⟨0, 1⟩⟩) (.literal (.list [.int 1, .int 2]) ⟨0, 1⟩)
    [.cachedAs "key" []]]

/-- The block that is open in the first round is found at its end, and the loop at its next round.
-/
theorem orderly_of_reaches_repeated :
    let code := Stmt.layoutAll 0 repeated.body
    let init := Config.initial repeated code (.ofData .none) .none
    ∃ c c', Reaches (.new .standard) 1 init c ∧ Reaches (.new .standard) 1 init c' ∧
      c.state.blocks.map Block.id = [0] ∧ c.state.skeleton.Orderly ∧ c.state.blocks ≠ [] ∧
      c'.state.skeleton.captures = 0 ∧
      ∃ l outer, c'.state.layers = .loop l :: outer ∧ l.rest.length = 1 ∧
        LoopBegan (.new .standard) 1 init ⟨repeated, code, 1, false⟩ [] 1 outer c' := by
  intro code init
  have ht : repeated.program? = some code := Program.program?_eq repeated
  let stack (position : Nat) : List Activation := [⟨repeated, code, position, false⟩]
  -- the loop and its first round begin, and the block in it
  have h₁ : Reaches (.new .standard) 1 init ⟨stack 1, _⟩ := .tail .refl ⟨nofun, rfl⟩
  have h₂ : Reaches (.new .standard) 1 init ⟨stack 2, _⟩ := .tail h₁ ⟨nofun, rfl⟩
  have h₃ : Reaches (.new .standard) 1 init ⟨stack 3, _⟩ := .tail h₂ ⟨nofun, rfl⟩
  -- the block ends, and the machine goes back to where the next round begins
  have h₄ : Reaches (.new .standard) 1 init ⟨stack 4, _⟩ := .tail h₃ ⟨nofun, rfl⟩
  have h₅ : Reaches (.new .standard) 1 init ⟨stack 1, _⟩ := .tail h₄ ⟨nofun, rfl⟩
  obtain ⟨orderly, -, inside⟩ := orderly_of_reaches ht h₃
  obtain ⟨-, -, round⟩ := orderly_of_reaches ht h₅
  obtain ⟨l, outer, layers, began⟩ := (round _ _ rfl).1 _ rfl
  cases layers
  exact ⟨_, _, h₃, h₅, rfl, orderly 0, (inside _ _ rfl).2.1 _ rfl, rfl, _, _, rfl, rfl, began⟩

end Machine

end Stencil
