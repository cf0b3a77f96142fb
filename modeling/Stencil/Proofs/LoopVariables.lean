import Stencil.Proofs.ErrorPlaces
import Stencil.Proofs.SafeCompilation

/-!
# Loop variables

A loop keeps the values of its round by the places of its variables, and a name stands for one of
them if it stands at the place. The loops of an activation run over the variables that their
instructions name, and in a template that has been compiled every variable stands in the source at
its place. So a name finds the variable of the innermost loop that has one of this name.

- `LoopVars.idents`, `LoopVars.named`: the variables of a loop, and a round by their names.
- `Template.IsCompiled.named`: the variables stand in the source at their places.
- `Machine.Loops`, `Machine.Stacked`: the loops of each activation, and the layers of all of them.
- `Machine.Transition.stacked`, `Machine.Path.stacked`: a step keeps this, and so does a path.
- `Machine.Loops.findLayer?`: what a name stands for in the loops of an activation.
-/

namespace Stencil

/-! ## Rounds -/

/-- If names stand in a source at the places of a round, each of them stands for its value there. -/
theorem Round.find?_of_slice {source : String} (name : String) {names : List Ident}
    (stand : ∀ n ∈ names, Text.slice n.span source = some n.name) {r : Round}
    (places : r.map Prod.fst = names.map Ident.span) :
    r.find? source name =
      some (Dict.get? name ((names.map Ident.name).zip (r.map Prod.snd))) := by
  induction names generalizing r with
  | nil =>
    obtain rfl := List.map_eq_nil_iff.1 places
    rfl
  | cons n names ih =>
    cases r with
    | nil => cases places
    | cons b r =>
      obtain ⟨span, v⟩ := b
      obtain ⟨rfl, behind⟩ := List.cons.inj places
      obtain ⟨first, others⟩ := List.forall_mem_cons.1 stand
      rw [find?, first, ih others behind]
      show (if n.name = name then _ else _) = some (if n.name = name then _ else _)
      split
      · rfl
      · rfl

namespace LoopVars

/-- The variables of a loop. -/
def idents : LoopVars → List Ident
  | .item name => [name]
  | .entry key value _ => [key, value]

/-- The variables stand in a source at their places. -/
def Named (source : String) (vars : LoopVars) : Prop :=
  ∀ name ∈ vars.idents, Text.slice name.span source = some name.name

/-- A round has a value for each of the variables. -/
def Binds (vars : LoopVars) (r : Round) : Prop := r.map Prod.fst = vars.idents.map Ident.span

/-- The values of a round by the names of the variables. -/
def named (vars : LoopVars) (r : Round) : Dict Value :=
  (vars.idents.map Ident.name).zip (r.map Prod.snd)

/-- The rounds of a loop have a value for each of its variables. -/
theorem binds_of_rounds {vars : LoopVars} {v : Value} {span : Span} {rs : List Round}
    (h : vars.rounds v span = .ok rs) : ∀ r ∈ rs, vars.Binds r := by
  unfold rounds at h
  split at h
  · cases h
    exact List.forall_mem_map.2 fun _ _ => rfl
  · cases h
  · cases h
    exact List.forall_mem_map.2 fun _ _ => rfl
  · cases h
  · cases h

end LoopVars

/-- A loop over some variables: before its first round it has no values. -/
structure Loop.Over (vars : LoopVars) (l : Loop) : Prop where
  current : l.current = [] ∨ vars.Binds l.current
  rest : ∀ r ∈ l.rest, vars.Binds r

/-- In a loop a name stands for the variable of this name. -/
theorem Loop.Over.find? {vars : LoopVars} {source : String} {l : Loop} (overVars : l.Over vars)
    (named : vars.Named source) (name : String) :
    l.current.find? source name = some (Dict.get? name (vars.named l.current)) := by
  rcases overVars.current with empty | binds
  · rw [empty, LoopVars.named, List.map_nil, List.zip_nil_right]
    rfl
  · exact Round.find?_of_slice name named binds

/-! ## Templates -/

namespace Parse

variable {s : Surroundings} {source : String} {t : Token} {ts ts' : List Token}

/-- A name has been read where it stands. -/
theorem slice_of_ident (reads : ∀ t ∈ ts, t.kind ≠ .raw → t.Reads source) {name : Ident}
    (h : ident s ts = .ok (name, ts')) : Text.slice name.span source = some name.name := by
  obtain ⟨⟨t, rest⟩, taken, read⟩ := bind_eq_ok h
  obtain ⟨rfl, kind⟩ := expect_eq_ok taken
  cases read
  exact (reads t List.mem_cons_self (by rw [kind]; nofun)).slice

/-- The variables of a loop have been read where they stand. -/
theorem named_of_loopVars (reads : ∀ t ∈ ts, t.kind ≠ .raw → t.Reads source) {vars : LoopVars}
    (h : loopVars s ts = .ok (vars, ts')) : vars.Named source := by
  obtain ⟨⟨key, ts₁⟩, first, h⟩ := bind_eq_ok h
  have keyStands := slice_of_ident reads first
  obtain ⟨comma, -, h⟩ := bind_eq_ok h
  cases comma with
  | false =>
    cases h
    exact List.forall_mem_singleton.2 keyStands
  | true =>
    obtain ⟨⟨t, ts₂⟩, taken, h⟩ := bind_eq_ok h
    obtain ⟨⟨value, ts₃⟩, second, h⟩ := bind_eq_ok h
    cases h
    have behind : ts₂ <:+ ts :=
      (suffix_of_expect taken).trans (leaves_ident.suffix first)
    have valueStands := slice_of_ident (fun t mem => reads t (behind.mem mem)) second
    exact List.forall_mem_cons.2 ⟨keyStands, List.forall_mem_singleton.2 valueStands⟩

/-- The tag of a loop has its variables behind the keyword. -/
theorem exists_loopVars_of_blockTag {vars : LoopVars} {x : Expr}
    (h : blockTag s ts = .ok (.forTag vars x, ts')) :
    ∃ us us', us <:+ ts ∧ loopVars s us = .ok (vars, us') := by
  obtain ⟨⟨⟨k, span⟩, ts₁⟩, keyword, h⟩ := bind_eq_ok h
  have behind : ts₁ <:+ ts := leaves_keyword.suffix keyword
  cases k with
  | «for» =>
    obtain ⟨⟨vars', ts₂⟩, read, h⟩ := bind_eq_ok h
    obtain ⟨_, -, h⟩ := bind_eq_ok h
    obtain ⟨_, -, h⟩ := bind_eq_ok h
    cases h
    exact ⟨ts₁, ts₂, behind, read⟩
  | «if» =>
    obtain ⟨_, -, h⟩ := bind_eq_ok h
    cases h
  | «else» =>
    obtain ⟨isIf, -, h⟩ := bind_eq_ok h
    cases isIf with
    | true =>
      obtain ⟨_, -, h⟩ := bind_eq_ok h
      obtain ⟨_, -, h⟩ := bind_eq_ok h
      cases h
    | false => cases h
  | «include» =>
    obtain ⟨_, -, h⟩ := bind_eq_ok h
    obtain ⟨_, -, h⟩ := bind_eq_ok h
    obtain ⟨isWith, -, h⟩ := bind_eq_ok h
    cases isWith with
    | true =>
      obtain ⟨_, -, h⟩ := bind_eq_ok h
      obtain ⟨_, -, h⟩ := bind_eq_ok h
      cases h
    | false => cases h
  | _ => cases h

end Parse

/-- The variables of the loops in a compiled template stand in its source. -/
theorem Template.IsCompiled.named {t : Template} (h : t.IsCompiled) {code : List Instr}
    (program : t.program? = some code) {vars : LoopVars} {x : Expr}
    (mem : Instr.loop vars x ∈ code) : vars.Named t.source := by
  obtain ⟨l, compiled⟩ := h
  obtain ⟨-, u, us, us', m, suffix, read, shown⟩ := shown_of_compile compiled program mem rfl
  have reads : ∀ t' ∈ u :: us, t'.kind ≠ .raw → t'.Reads t.source := by
    intro t' there other
    have token := (List.mem_filter.1 (suffix.mem there)).1
    exact ((legible_of_lex l.delimiters t.source).1 t' token).reads fun raw => absurd raw other
  cases Parse.marked_of_markup read with
  | @block tag ts₁ span tagRead =>
    cases tag with
    | forTag vars' x' =>
      cases shown
      obtain ⟨vs, vs', behind, varsRead⟩ := Parse.exists_loopVars_of_blockTag tagRead
      refine Parse.named_of_loopVars (fun t' there => reads t' ?_) varsRead
      exact List.mem_cons_of_mem u (behind.mem there)
    | _ => cases shown
  | _ => cases shown

/-! ## Activations -/

namespace Step

open Render

/-- The rounds of a loop have a value for each of its variables. -/
theorem binds_of_rounds {e : Engine} {t : Template} {vars : LoopVars} {x : Expr}
    {s s' : RenderState} {rs : List Round} (h : (rounds e t vars x).run s = (.ok rs, s')) :
    ∀ r ∈ rs, vars.Binds r := by
  obtain ⟨v, s₁, -, h⟩ := bind_eq_ok (named_eq_ok h)
  obtain ⟨rs', s₂, lifted, h⟩ := bind_eq_ok h
  obtain ⟨_, s₃, -, h⟩ := bind_eq_ok h
  cases h
  cases made : vars.rounds v x.span with
  | error f =>
    rw [made] at lifted
    cases lifted
  | ok rs' =>
    rw [made] at lifted
    cases lifted
    exact LoopVars.binds_of_rounds made

end Step

namespace Machine

open Render

/-- The loops that are open at a place of a program, the innermost first, each with the variables of
the instruction that begins it. -/
inductive Loops (code : List Instr) : List Bracket → List (LoopVars × Loop) → Prop
  | nil : Loops code [] []
  | loop {p : Nat} {vars : LoopVars} {x : Expr} {l : Loop} {bs : List Bracket}
      {own : List (LoopVars × Loop)} (begins : code[p]? = some (.loop vars x))
      (overVars : l.Over vars) (h : Loops code bs own) :
      Loops code (.loop (p + 1) :: bs) ((vars, l) :: own)
  | cached {bs : List Bracket} {own : List (LoopVars × Loop)} (h : Loops code bs own) :
      Loops code (.cached :: bs) own

/-- The layers of some loops. -/
def loopLayers (own : List (LoopVars × Loop)) : List Layer := own.map fun w => .loop w.2

/-- What the innermost loop with a variable of the name gives it. -/
def loopValue? (name : String) (own : List (LoopVars × Loop)) : Option Value :=
  own.findSome? fun w => Dict.get? name (w.1.named w.2.current)

/-- The layers are those of the activations one after the other: the loops that are open in each of
them, and then its own variables if it has any. -/
inductive Stacked : List Activation → List Layer → Prop
  | nil (given : Value) : Stacked [] [.variables given 0]
  | cons {a : Activation} {rest : List Activation} (own : List (LoopVars × Loop))
      {inside outside : List Layer} (loops : Loops a.code (a.template.openAt a.position) own)
      (owned : Owns a.isScoped inside outside) (below : Stacked rest outside) :
      Stacked (a :: rest) (loopLayers own ++ inside)

section

variable {code : List Instr} {bs : List Bracket} {own : List (LoopVars × Loop)} {p : Nat}

theorem Stacked.of_cons {a : Activation} {rest : List Activation} {layers : List Layer}
    (h : Stacked (a :: rest) layers) :
    ∃ own inside outside, layers = loopLayers own ++ inside ∧
      Loops a.code (a.template.openAt a.position) own ∧ Owns a.isScoped inside outside ∧
      Stacked rest outside := by
  cases h with
  | cons own loops owned below => exact ⟨own, _, _, rfl, loops, owned, below⟩

theorem Loops.of_loop (h : Loops code (.loop p :: bs) own) :
    ∃ vars l own', own = (vars, l) :: own' ∧ l.Over vars ∧ Loops code bs own' ∧
      ∀ l', l'.Over vars → Loops code (.loop p :: bs) ((vars, l') :: own') := by
  cases h with
  | loop begins overVars h =>
    exact ⟨_, _, _, rfl, overVars, h, fun _ overNext => .loop begins overNext h⟩

theorem Loops.of_cached (h : Loops code (.cached :: bs) own) : Loops code bs own := by
  cases h with
  | cached h => exact h

/-- Where no loop is open there are none. -/
theorem Loops.eq_nil (h : Loops code bs own) (none : ∀ p, .loop p ∉ bs) : own = [] := by
  induction h with
  | nil => rfl
  | loop => exact absurd List.mem_cons_self (none _)
  | cached _ ih => exact ih fun p mem => none p (List.mem_cons_of_mem _ mem)

/-- In some loops a name stands for the innermost variable of this name, and in what is around them
for what it stands for there. -/
theorem Loops.findLayer? (h : Loops code bs own) (frames : List Frame) {source : String}
    (named : ∀ vars x, Instr.loop vars x ∈ code → vars.Named source) (name : String)
    (inside : List Layer) :
    Scope.findLayer? frames source name (loopLayers own ++ inside) =
      match loopValue? name own with
      | some v => some (some v)
      | none => Scope.findLayer? frames source name inside := by
  induction h with
  | nil => rfl
  | @loop p vars x l _ own begins overVars _ ih =>
    have found := overVars.find? (named vars x (List.mem_of_getElem? begins)) name
    rw [loopLayers, List.map_cons, List.cons_append, Scope.findLayer?, found, loopValue?,
      List.findSome?_cons]
    cases Dict.get? name (vars.named l.current) with
    | some v => rfl
    | none => exact ih
  | cached _ ih => exact ih

end

/-! ## Steps -/

variable {e : Engine} {limit : Nat} {c c' : Config} {a : Activation}
  {rest : List Activation} {layers : List Layer}

/-- A loop is begun before its first round. -/
theorem Moves.begins (move : Moves e limit c c') (hstack : c.stack = a :: rest)
    {vars : LoopVars} {x : Expr} (next : a.next? = some (.loop vars x)) :
    ∃ rs, c'.state.layers = .loop ⟨[], rs⟩ :: c.state.layers ∧ ∀ r ∈ rs, vars.Binds r := by
  rcases move.executes hstack with ⟨none, -⟩ | ⟨i, hi, run⟩
  · cases none.symm.trans next
  cases hi.symm.trans next
  obtain ⟨rs, s, began, run⟩ := bind_eq_ok run
  have state : s = c'.state := congrArg Prod.snd run
  rw [← state]
  exact ⟨rs, Step.layers_of_rounds e _ began, Step.binds_of_rounds began⟩

/-- The next round of a loop is the first of those that are left. -/
theorem Moves.next_round (move : Moves e limit c c') (hstack : c.stack = a :: rest) {target : Nat}
    (next : a.next? = some (.round target)) {l : Loop}
    (loop : c.state.layers = .loop l :: layers) :
    (l.rest = [] ∧ c'.state.layers = layers) ∨
      ∃ r rs, l.rest = r :: rs ∧ c'.state.layers = .loop ⟨r, rs⟩ :: layers := by
  rcases move.executes hstack with ⟨none, -⟩ | ⟨i, hi, run⟩
  · cases none.symm.trans next
  cases hi.symm.trans next
  have left : roundsLeft c.state.layers = l.rest := by
    rw [loop]
    rfl
  rw [execute, run_get_bind, left] at run
  cases rounds : l.rest with
  | nil =>
    rw [rounds] at run
    obtain ⟨_, s, gone, run⟩ := bind_eq_ok run
    cases gone
    have state : _ = c'.state := congrArg Prod.snd run
    rw [← state]
    exact .inl ⟨rfl, congrArg (List.drop 1) loop⟩
  | cons r rs =>
    rw [rounds] at run
    obtain ⟨_, s, entered, run⟩ := bind_eq_ok run
    cases entered
    have state : _ = c'.state := congrArg Prod.snd run
    rw [← state]
    refine .inr ⟨r, rs, rfl, ?_⟩
    show Layer.loop ⟨r, rs⟩ :: c.state.layers.drop 1 = _
    rw [loop]
    rfl

/-- A step keeps the layers made up from the loops and the variables of the activations, if the
rounds that it begins have a value for each variable of their loop. -/
theorem Transition.stacked {k k' : Skeleton} {stack : List Activation}
    (h : Transition a rest k stack k') (code : a.template.program? = some a.code)
    (position : a.position ≤ a.code.length) (stacked : Stacked (a :: rest) k.layers)
    (begins : ∀ vars x, a.next? = some (.loop vars x) →
      ∃ rs, k'.layers = .loop ⟨[], rs⟩ :: k.layers ∧ ∀ r ∈ rs, vars.Binds r)
    (goesOn : ∀ target l outer, a.next? = some (.round target) → k.layers = .loop l :: outer →
      (l.rest = [] ∧ k'.layers = outer) ∨
        ∃ r rs, l.rest = r :: rs ∧ k'.layers = .loop ⟨r, rs⟩ :: outer) :
    Stacked stack k'.layers := by
  obtain ⟨own, inside, outside, layers, loops, owned, below⟩ := stacked.of_cons
  cases h with
  | pass p hp same => exact layers ▸ .cons own (same ▸ loops) owned below
  | enterLoop vars x rounds hp opens =>
    obtain ⟨rs, began, binds⟩ := begins vars x hp
    rw [began, layers]
    have overVars : Loop.Over vars ⟨[], rs⟩ := ⟨.inl rfl, binds⟩
    exact .cons ((vars, ⟨[], rs⟩) :: own) (opens ▸ .loop hp overVars loops) owned below
  | enterRound target l hp opens same =>
    rw [opens] at loops
    obtain ⟨vars, l', own', rfl, overVars, -, others⟩ := loops.of_loop
    have next := goesOn target l' (loopLayers own' ++ inside) hp layers
    rcases next with ⟨-, none⟩ | ⟨r, rs, rounds, entered⟩
    · rw [Skeleton.withLoop, layers] at none
      exact absurd none (List.cons_ne_self _ _)
    · rw [entered]
      have binds := overVars.rest
      rw [rounds, List.forall_mem_cons] at binds
      have overNext : Loop.Over vars ⟨r, rs⟩ := ⟨.inr binds.1, binds.2⟩
      refine .cons ((vars, ⟨r, rs⟩) :: own') ?_ owned below
      exact same ▸ opens ▸ others _ overNext
  | leaveLoop target hp closes =>
    rw [closes] at loops
    obtain ⟨vars, l', own', rfl, overVars, outer, -⟩ := loops.of_loop
    show Stacked _ (k.layers.drop 1)
    rw [layers]
    exact .cons own' outer owned below
  | openBlock pending hp opens => exact layers ▸ .cons own (opens ▸ .cached loops) owned below
  | closeBlock b bs hp closes hb =>
    rw [closes] at loops
    exact layers ▸ .cons own loops.of_cached owned below
  | visit u code' hu hp same =>
    rw [← List.nil_append k.layers]
    refine .cons [] ?_ rfl (layers ▸ .cons own (same ▸ loops) owned below)
    exact u.openAt_zero ▸ .nil
  | visitWithin u code' given hu hp same =>
    refine .cons [] ?_ ⟨given, k.frames, rfl⟩ (layers ▸ .cons own (same ▸ loops) owned below)
    exact u.openAt_zero ▸ .nil
  | finish hn =>
    rw [openAt_of_next?_eq_none code position hn] at loops
    cases loops
    have last : k.layers = inside := layers
    have left := Owns.layers_leave (k := k) (last ▸ owned)
    exact left ▸ below

/-- Wherever the machine comes, the layers are made up from the loops and the variables of the
activations. -/
theorem Path.stacked {t : Template} {job : Job} {data : Value} {ps : List Passage}
    (path : Path e limit (.start t job data) ps c) : Stacked c.stack c.state.layers := by
  induction path with
  | nil =>
    refine .cons [] ?_ rfl (.nil data)
    show Loops _ (t.openAt 0) []
    exact t.openAt_zero ▸ .nil
  | @snoc ps c₁ c₂ path move ih =>
    obtain ⟨orderly, standing⟩ := standing_of_reaches (Program.program?_eq t) path.reaches
    obtain ⟨a, rest, hstack, transition⟩ := move.transition orderly standing
    rw [hstack] at standing ih
    cases standing with
    | cons code position =>
    refine transition.stacked code position ih (fun vars x next => move.begins hstack next) ?_
    exact fun target l outer next loop => move.next_round hstack next loop

end Machine

end Stencil
