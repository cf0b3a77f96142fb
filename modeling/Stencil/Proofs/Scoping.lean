import Stencil.Proofs.LoopVariables
import Stencil.Proofs.RepeatedPages
import Stencil.Proofs.SourceIndependence

/-!
# What bound names stand for

The templates that are active share a frame down to one with variables of its own, and they look
names up in the frame that they bind them in. As long as the frame lasts, what happens in other ones
does not change it. So a name that has been bound stands for the value that it was bound to last,
whatever the variables given to the template and the shared ones are; in a loop, a variable of the
loop comes first.

- `Machine.scopes`: how many templates with variables of their own are active.
- `Machine.Unlooped`: no loop is open in the templates that share a frame.
- `Machine.Stacked.findLayer?`: outside all loops a bound name stands for its value in the frame.
- `Machine.bindingsIn`: what is bound in the same frame.
- `Machine.Path.getElem?_frames`: what has become of a frame along a path that it outlasts.
- `Machine.Config.Sets`: the machine is about to bind the values of some expressions.
- `Machine.Path.find?_of_bound`: what a name stands for when it has been bound.
-/

namespace Stencil

/-- What a name stands for in the layers of a state comes before what is shared. -/
theorem RenderState.find?_scope {s : RenderState} {e : Engine} {source name : String} {v : Value}
    (h : Scope.findLayer? s.frames source name s.layers = some (some v)) :
    (s.scope e).find? source name = some (some v) := by
  show Option.map _ (Scope.findLayer? s.frames source name s.layers) = _
  rw [h]
  rfl

/-- Of some frames, only the last one changes when names are bound. -/
theorem RenderState.getElem?_boundAll (bindings : List (String × Value)) {frames : List Frame}
    {n : Nat} (lt : n < frames.length) :
    (boundAll bindings frames)[n]? = frames[n]?.map fun f =>
      (if frames.length = n + 1 then bindings else []).foldl
        (fun f b => Dict.insert b.1 b.2 f) f := by
  have nonempty : frames ≠ [] := List.length_pos_iff.1 (Nat.zero_lt_of_lt lt)
  rw [boundAll_eq bindings nonempty]
  split
  · next last =>
    have index : frames.length - 1 = n := by omega
    rw [List.getElem?_append_right (by rw [List.length_dropLast]; omega), List.length_dropLast,
      index, Nat.sub_self, List.getElem?_cons_zero, List.getLast_eq_getElem]
    simp only [index, List.getElem?_eq_getElem lt, Option.map_some]
  · next inner =>
    rw [List.getElem?_append_left (by rw [List.length_dropLast]; omega), List.getElem?_dropLast,
      if_pos (by omega)]
    simp only [List.foldl_nil, Option.map_id']

namespace Machine

variable {e : Engine} {limit : Nat} {c c' : Config} {ps before behind : List Passage}
  {p : Passage} {t : Template} {job : Job} {data : Value}

/-! ## Layers -/

/-- How many templates with variables of their own are active, and one for the one that is rendered.
-/
def scopes (stack : List Activation) : Nat := (stack.filter Activation.isScoped).length + 1

/-- No loop is open in the activations down to the first one with variables of its own. -/
def Unlooped : List Activation → Prop
  | [] => True
  | a :: rest =>
    (∀ round, .loop round ∉ a.template.openAt a.position) ∧ (a.isScoped = false → Unlooped rest)

/-- The layers behind some loops. -/
theorem layered_of_loops {own : List (LoopVars × Loop)} {inside : List Layer} {n : Nat}
    (h : Layered (loopLayers own ++ inside) n) : Layered inside n := by
  induction own with
  | nil => exact h
  | cons w own ih => exact ih h.of_loop

/-- There are as many frames as templates with variables of their own, and one for that which is
rendered. -/
theorem Stacked.frames_eq {stack : List Activation} {layers : List Layer} {n : Nat}
    (h : Stacked stack layers) (layered : Layered layers n) : n = scopes stack := by
  induction h generalizing n with
  | nil given =>
    cases layered
    rfl
  | @cons a rest own inside outside loops owned below ih =>
    have inner := layered_of_loops layered
    cases isScoped : a.isScoped with
    | false =>
      rw [isScoped] at owned
      cases owned
      rw [ih inner, scopes, scopes, List.filter_cons_of_neg (by simp [isScoped])]
    | true =>
      rw [isScoped] at owned
      obtain ⟨given, m, rfl⟩ := owned
      obtain ⟨rfl, outer⟩ := inner.of_template
      rw [ih outer, scopes, scopes, List.filter_cons_of_pos isScoped, List.length_cons]

theorem length_frames_of_reaches (h : Reaches e limit (.start t job data) c) :
    c.state.frames.length = scopes c.stack := by
  obtain ⟨ps, path⟩ := exists_path_of_reaches h
  exact path.stacked.frames_eq (standing_of_reaches (Program.program?_eq t) h).1.layered

section

variable {frames : List Frame} {name : String} {v : Value} {n : Nat}

/-- With variables of its own, an activation finds a name that is bound in the last frame, and
without them it finds what is found around it. -/
theorem Owns.findLayer? {isScoped : Bool} {inside outside : List Layer}
    (owned : Owns isScoped inside outside) (layered : Layered inside (n + 1))
    (bound : frames[n]?.bind (Dict.get? name) = some v) {source : String}
    (around : isScoped = false → Layered outside (n + 1) →
      Scope.findLayer? frames source name outside = some (some v)) :
    Scope.findLayer? frames source name inside = some (some v) := by
  cases isScoped with
  | false =>
    cases owned
    exact around rfl layered
  | true =>
    obtain ⟨given, m, rfl⟩ := owned
    obtain ⟨number, -⟩ := layered.of_template
    cases number
    rw [Scope.findLayer?, Scope.bound?, bound]
    rfl

/-- Outside all loops, a name that is bound in the last frame stands for its value there, whatever
else is around. -/
theorem Stacked.findLayer? {stack : List Activation} {layers : List Layer}
    (h : Stacked stack layers) (layered : Layered layers (n + 1)) (unlooped : Unlooped stack)
    (bound : frames[n]?.bind (Dict.get? name) = some v) (source : String) :
    Scope.findLayer? frames source name layers = some (some v) := by
  induction h with
  | nil given =>
    cases layered
    rw [Scope.findLayer?, Scope.bound?, bound]
    rfl
  | @cons a rest own inside outside loops owned below ih =>
    obtain ⟨none, others⟩ := unlooped
    obtain rfl := loops.eq_nil none
    exact owned.findLayer? layered bound fun plain outer => ih outer (others plain)

/-- In the loops of an activation a name stands for the innermost variable of this name, and if
there is none, for what is bound in the last frame, unless loops are open around the activation. -/
theorem Stacked.exists_loops {a : Activation} {rest : List Activation} {layers : List Layer}
    (h : Stacked (a :: rest) layers) (layered : Layered layers (n + 1))
    (named : ∀ vars x, Instr.loop vars x ∈ a.code → vars.Named a.template.source)
    (bound : frames[n]?.bind (Dict.get? name) = some v) :
    ∃ own, Loops a.code (a.template.openAt a.position) own ∧ loopLayers own <+: layers ∧
      (∀ w, loopValue? name own = some w →
        Scope.findLayer? frames a.template.source name layers = some (some w)) ∧
      (loopValue? name own = none → (a.isScoped = false → Unlooped rest) →
        Scope.findLayer? frames a.template.source name layers = some (some v)) := by
  obtain ⟨own, inside, outside, rfl, loops, owned, below⟩ := h.of_cons
  have found := loops.findLayer? frames named name inside
  refine ⟨own, loops, List.prefix_append _ _, fun w hw => ?_, fun none unlooped => ?_⟩
  · rw [found, hw]
  · rw [found, none]
    refine owned.findLayer? (layered_of_loops layered) bound fun plain outer => ?_
    exact below.findLayer? outer (unlooped plain) bound _

end

/-! ## Frames -/

/-- A frame stays as it is when another one comes or goes. -/
theorem Reframed.getElem? {frames frames' : List Frame} {n : Nat} (h : Reframed frames frames')
    (lt : n < frames.length) (lt' : n < frames'.length) : frames'[n]? = frames[n]? := by
  cases h with
  | same => rfl
  | entered => exact List.getElem?_append_left lt
  | left =>
    rw [List.length_dropLast] at lt'
    rw [List.getElem?_dropLast, if_pos lt']

/-- What some steps bind where there are so many scopes, the first binding first. -/
def bindingsIn (e : Engine) (depth : Nat) (ps : List Passage) : List (String × Value) :=
  (ps.filter fun p => scopes p.before.stack = depth).flatMap (Passage.bindings e)

theorem bindingsIn_concat (depth : Nat) (ps : List Passage) (p : Passage) :
    bindingsIn e depth (ps ++ [p]) = bindingsIn e depth ps ++
      if scopes p.before.stack = depth then p.bindings e else [] := by
  by_cases last : scopes p.before.stack = depth
  · simp [bindingsIn, last]
  · simp [bindingsIn, last]

/-- Along a path that a frame outlasts, it gets what is bound while it is the last one. -/
theorem Path.getElem?_frames (path : Path e limit c ps c')
    (reached : Reaches e limit (.start t job data) c) {n : Nat} (there : n < scopes c.stack)
    (lasts : ∀ q ∈ ps, n < scopes q.after.stack) :
    n < scopes c'.stack ∧
      c'.state.frames[n]? = c.state.frames[n]?.map fun f =>
        (bindingsIn e (n + 1) ps).foldl (fun f b => Dict.insert b.1 b.2 f) f := by
  induction path with
  | nil => exact ⟨there, by simp [bindingsIn]⟩
  | @snoc ps c₁ c₂ path move ih =>
    obtain ⟨there₁, frame⟩ := ih fun q hq => lasts q (List.mem_append_left _ hq)
    have there₂ : n < scopes c₂.stack :=
      lasts ⟨c₁, c₂⟩ (List.mem_append_right _ (List.mem_singleton_self _))
    refine ⟨there₂, ?_⟩
    have reached₁ := reached.trans path.reaches
    rw [← length_frames_of_reaches reached₁] at there₁
    rw [← length_frames_of_reaches (reached₁.tail move)] at there₂
    have nonempty : c₁.state.frames ≠ [] := List.length_pos_iff.1 (Nat.zero_lt_of_lt there₁)
    have bound : n < (RenderState.boundAll ((Passage.mk c₁ c₂).bindings e)
        c₁.state.frames).length := by
      rw [RenderState.length_boundAll _ nonempty]
      exact there₁
    rw [move.frames.getElem? bound there₂, RenderState.getElem?_boundAll _ there₁, frame,
      Option.map_map, bindingsIn_concat, ← length_frames_of_reaches reached₁]
    exact congrArg (Option.map · _) (funext fun f => List.foldl_append.symm)

/-- When a name has been bound, the frame that it is bound in has the value that has been bound last
in it, as long as it lasts. -/
theorem Path.exists_bound (path : Path e limit (.start t job data) (before ++ p :: behind) c)
    {x : String} {v : Value} (binds : (x, v) ∈ p.bindings e) {n : Nat}
    (depth : scopes p.before.stack = n + 1)
    (lasts : ∀ q ∈ p :: behind, n < scopes q.after.stack) :
    ∃ w, Dict.get? x (bindingsIn e (n + 1) (p :: behind)).reverse = some w ∧
      c.state.frames[n]?.bind (Dict.get? x) = some w := by
  obtain ⟨reached, move, -⟩ := path.moves (List.mem_append_right before List.mem_cons_self)
  have along : Path e limit p.before (p :: behind) c := path.behind.cons move
  obtain ⟨-, frame⟩ := along.getElem?_frames reached (by omega) lasts
  have there : n < p.before.state.frames.length := by
    rw [length_frames_of_reaches reached, depth]
    exact Nat.lt_succ_self n
  have among : (x, v) ∈ bindingsIn e (n + 1) (p :: behind) := by
    rw [bindingsIn, List.filter_cons_of_pos (by simpa using depth)]
    exact List.mem_append_left _ binds
  have named : x ∈ Dict.keys (bindingsIn e (n + 1) (p :: behind)).reverse :=
    List.mem_map_of_mem (List.mem_reverse.2 among)
  obtain ⟨w, last⟩ := Option.isSome_iff_exists.1 (Dict.isSome_get?.2 named)
  refine ⟨w, last, ?_⟩
  rw [frame, List.getElem?_eq_getElem there]
  show Dict.get? x (List.foldl _ _ _) = some w
  rw [Dict.get?_foldl_insert, last]
  rfl

/-! ## Binding the values of expressions -/

end Machine

/-- The names are bound in order. -/
theorem Directive.bindings_bindAll {e : Engine} {origin : Origin} {s : RenderState}
    (bindings : List (String × Value)) : (bindAll bindings).bindings e origin s = bindings := by
  induction bindings generalizing s with
  | nil => rfl
  | cons b bindings ih => exact congrArg (b :: ·) ih

namespace Machine

variable {e : Engine} {limit : Nat} {c c' : Config} {before behind : List Passage}
  {p : Passage} {t : Template} {job : Job} {data : Value}

/-- The machine is about to bind names to the values of expressions. -/
def Config.Sets (c : Config) (bindings : List (Ident × Expr)) : Prop :=
  ∃ a rest d, c.stack = a :: rest ∧ a.next?.bind Instr.directive? = some d ∧
    d.run = (Fragment.assign Directive.bindAll).run ∧ d.args = .assign bindings

/-- All of the expressions have been evaluated before, and the names are bound to their values in
order. -/
theorem Config.Sets.bindings {bindings : List (Ident × Expr)} (sets : c.Sets bindings)
    (move : Moves e limit c c') :
    ∃ a rest values, c.stack = a :: rest ∧
      Expr.evaluateAll (c.state.scope e) a.template.source (bindings.map Prod.snd) = .ok values ∧
      values.length = bindings.length ∧
      (Passage.mk c c').bindings e = (bindings.map fun b => b.1.name).zip values := by
  obtain ⟨a, rest, d, stack, next, script, args⟩ := sets
  obtain ⟨flow, s, performed, -⟩ := move.reframes_of_directive stack next
  obtain ⟨given, evaluated, -⟩ := Step.perform_eq_ok performed
  rw [Passage.bindings_of_directive (p := ⟨c, c'⟩) stack next, Step.bindings, evaluated]
  rw [args, DirectiveArgs.evaluate] at evaluated
  split at evaluated
  · next values all =>
    cases evaluated
    refine ⟨a, rest, values, stack, all, ?_, ?_⟩
    · exact (Expr.evaluateAll_eq_ok.1 all).length_eq.symm.trans (List.length_map _)
    · show (d.run _).bindings e d.origin c.state = _
      rw [script]
      exact Directive.bindings_bindAll _
  · cases evaluated

/-! ## What bound names stand for -/

/-- A directive that binds names evaluates all of its expressions first and then binds the names in
order, and one that pages a query binds the rows and the facts about them. A name that has been
bound stands for the value that has been bound to it last in the same scope, whatever the variables
given to the template and the shared ones are, as long as the scope lasts. This is so in all
templates that share the scope, outside all loops. In a loop, the innermost variable of the name
that a loop of the same template has comes first. -/
theorem Path.find?_of_bound (registered : e.Registered) (compiled : t.IsCompiled)
    (path : Path e limit (.start t job data) (before ++ p :: behind) c) :
    (∀ bindings, p.before.Sets bindings →
      ∃ a rest values, p.before.stack = a :: rest ∧
        Expr.evaluateAll (p.before.state.scope e) a.template.source (bindings.map Prod.snd) =
          .ok values ∧
        values.length = bindings.length ∧
        p.bindings e = (bindings.map fun b => b.1.name).zip values) ∧
    (∀ name args, p.before.Paginates e (.text name :: args) →
      ∃ q, Dict.get? name p.before.state.queries = some q ∧
        Directive.pageBindings e.settings p.before.state.request (.text name :: args) q =
          .ok (p.bindings e)) ∧
    ∀ x v₀, (x, v₀) ∈ p.bindings e →
      (∀ q ∈ p :: behind, scopes p.before.stack ≤ scopes q.after.stack) →
      scopes c.stack = scopes p.before.stack →
      ∃ v, Dict.get? x (bindingsIn e (scopes p.before.stack) (p :: behind)).reverse = some v ∧
        (Unlooped c.stack → ∀ source, (c.state.scope e).find? source x = some (some v)) ∧
        ∀ a rest, c.stack = a :: rest →
          ∃ own, Loops a.code (a.template.openAt a.position) own ∧
            loopLayers own <+: c.state.layers ∧
            (∀ w, loopValue? x own = some w →
              (c.state.scope e).find? a.template.source x = some (some w)) ∧
            (loopValue? x own = none → (a.isScoped = false → Unlooped rest) →
              (c.state.scope e).find? a.template.source x = some (some v)) := by
  obtain ⟨-, move, -⟩ := path.moves (List.mem_append_right before List.mem_cons_self)
  refine ⟨fun bindings sets => sets.bindings move, fun name args paginates => ?_, ?_⟩
  · obtain ⟨-, q, found, page, -⟩ := paginates.bindings move
    exact ⟨q, found, page⟩
  intro x v₀ binds lasts same
  obtain ⟨v, last, bound⟩ := path.exists_bound binds rfl lasts
  have layered : Layered c.state.layers (scopes p.before.stack) := by
    have orderly := (standing_of_reaches (Program.program?_eq t) path.reaches).1
    rw [← same, ← length_frames_of_reaches path.reaches]
    exact orderly.layered
  refine ⟨v, last, fun unlooped source => ?_, fun a rest stack => ?_⟩
  · exact RenderState.find?_scope (path.stacked.findLayer? layered unlooped bound source)
  · have stacked := path.stacked
    rw [stack] at stacked
    have inStack : a ∈ c.stack := stack ▸ List.mem_cons_self
    have program := (marked_of_path path).programs a inStack
    have named (vars : LoopVars) (x : Expr) (mem : Instr.loop vars x ∈ a.code) :
        vars.Named a.template.source :=
      (registered.isCompiled compiled (path.template_of_mem a inStack)).named program mem
    obtain ⟨own, loops, layers, inside, outside⟩ := stacked.exists_loops layered named bound
    refine ⟨own, loops, layers, fun w found => ?_, fun none unlooped => ?_⟩
    · exact RenderState.find?_scope (inside w found)
    · exact RenderState.find?_scope (outside none unlooped)

end Machine

/-- A tag that binds names outside of all blocks adds a directive, if its bindings are read. -/
theorem Parse.applyDirective_set {r : Reader} {b : Builder} {name : Ident} {o : Occurrence}
    {span : Span} {given : List Token} {args : DirectiveArgs}
    (set : Dict.get? name.name r.language.directives = some Directive.set)
    (outside : b.blocks = []) (cut : Text.slice o.span r.source = some o.raw)
    (place : Origin.at? r.identity r.source o.span.start = some o.origin)
    (region : (lexRegion r.language.delimiters r.source o.span).map
      (fun l => (l.significant, l.failure.isNone)) = some (given, true))
    (read : (assignArgs ⟨r.source, none⟩ given).map .assign = .ok args) :
    applyDirective r b name o.span span =
      .ok (b.add (.directive ⟨⟨name, args, o.origin, span⟩,
        (Fragment.assign Directive.bindAll).run⟩)) := by
  obtain ⟨inside, region, parts⟩ := Option.map_eq_some_iff.1 region
  obtain ⟨significant, whole⟩ := Prod.mk.inj parts
  have occurs : occurrence r o.span = .ok o := by rw [occurrence, cut, place]
  have passed : directiveArgs r name .assign o = .ok args := by
    rw [directiveArgs, region]
    dsimp only
    rw [significant, Option.isNone_iff_eq_none.1 whole, read]
  have made : directive r (fun _ => .ok (.assign Directive.bindAll)) name o span =
      .ok ⟨⟨name, args, o.origin, span⟩, (Fragment.assign Directive.bindAll).run⟩ := by
    show (invocation r name .assign o span >>= _) = _
    rw [invocation, passed]
    rfl
  have opened : closeDirective? r b name o.span span = none := by rw [closeDirective?, outside]
  rw [applyDirective, opened, set]
  show (occurrence r o.span >>= fun o => _ >>= _) = _
  rw [occurs, ok_bind]
  exact congrArg (Except.map fun d => b.add (.directive d)) made

namespace Machine

/-- Two values for one name. -/
def rebound : Directive where
  name := ⟨"set", ⟨3, 6⟩⟩
  args := .assign [(⟨"a", ⟨7, 8⟩⟩, .literal (.bool true) ⟨11, 15⟩),
    (⟨"a", ⟨17, 18⟩⟩, .literal (.bool false) ⟨21, 26⟩)]
  origin := ⟨"t", 1, 8⟩
  span := ⟨0, 29⟩
  run := (Fragment.assign Directive.bindAll).run

/-- A template that binds one name twice. -/
def rebinding : Template :=
  ⟨some "t", "\x7b% set a = true, a = false %\x7d", [.directive rebound]⟩

section

open Parse

theorem isCompiled_rebinding : rebinding.IsCompiled := by
  let l : Language := ⟨.standard, [("set", Directive.set)]⟩
  let r : Reader := ⟨⟨rebinding.source, none⟩, l, "t"⟩
  let given := [Token.mk .identifier ⟨7, 8⟩ "a", ⟨.equals, ⟨9, 10⟩, "="⟩,
    ⟨.keyword, ⟨11, 15⟩, "true"⟩, ⟨.comma, ⟨15, 16⟩, ","⟩, ⟨.identifier, ⟨17, 18⟩, "a"⟩,
    ⟨.equals, ⟨19, 20⟩, "="⟩, ⟨.keyword, ⟨21, 26⟩, "false"⟩]
  let opening := Token.mk (.opening .block) ⟨0, 2⟩ "\x7b%"
  let behind := Token.mk .identifier ⟨3, 6⟩ "set" :: (given ++
    [⟨.closing .block, ⟨27, 29⟩, "%\x7d"⟩])
  let o : Occurrence := ⟨"a = true, a = false", ⟨7, 26⟩, ⟨"t", 1, 8⟩⟩
  have lexed : (lex .standard rebinding.source).significant = opening :: behind ∧
      (lex .standard rebinding.source).failure = none := by
    decide
  have cut : Text.slice o.span r.source = some o.raw := by decide
  have place : Origin.at? r.identity r.source o.span.start = some o.origin := by decide
  have region : (lexRegion .standard rebinding.source o.span).map
      (fun l => (l.significant, l.failure.isNone)) = some (given, true) := by
    decide
  have read : (assignArgs ⟨r.source, none⟩ given).map .assign = .ok rebound.args := rfl
  have applied : applyDirective r .empty rebound.name o.span rebound.span =
      .ok (Builder.empty.add (.directive rebound)) :=
    applyDirective_set rfl rfl cut place region read
  exact ⟨l, compile_of_markup lexed.1 lexed.2 rfl applied rfl⟩

end

/-- The machine before it binds the name, for which the template is given another value. -/
def unbound : Config := .start rebinding (.ofData .none) (.map [("a", .int 1)])

/-- The machine when it has bound the name. -/
def boundAgain : Config :=
  ⟨[⟨rebinding, Stmt.layoutAll 0 rebinding.body, 1, false⟩],
    ((step (.new .standard) 1 unbound.stack).run unbound.state).2⟩

/-- Of two values for a name the last one is found, and not the one that the template is given. -/
theorem find?_of_bound_rebinding :
    Path (.new .standard) 1 unbound [⟨unbound, boundAgain⟩] boundAgain ∧
      (unbound.state.scope (.new .standard)).find? rebinding.source "a" = some (some (.int 1)) ∧
      (boundAgain.state.scope (.new .standard)).find? rebinding.source "a" =
        some (some (.bool false)) := by
  have path : Path (.new .standard) 1 unbound ([] ++ ⟨unbound, boundAgain⟩ :: []) boundAgain :=
    .snoc .nil ⟨nofun, rfl⟩
  have binds : (Passage.mk unbound boundAgain).bindings (.new .standard) =
    [("a", .bool true), ("a", .bool false)] := rfl
  obtain ⟨-, -, found⟩ :=
    path.find?_of_bound (Engine.registered_new .standard) isCompiled_rebinding
  obtain ⟨v, last, outside, -⟩ := found "a" (.bool true) (binds ▸ List.mem_cons_self)
    (List.forall_mem_singleton.2 (Nat.le_refl _)) rfl
  have value : Dict.get? "a" (bindingsIn (.new .standard) 1 [⟨unbound, boundAgain⟩]).reverse =
    some (.bool false) := rfl
  cases last.symm.trans value
  exact ⟨path, rfl, outside ⟨nofun, fun _ => trivial⟩ _⟩

end Machine

end Stencil
