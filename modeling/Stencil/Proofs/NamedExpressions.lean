import Stencil.Proofs.Scoping
import Stencil.Proofs.Termination
import Stencil.Proofs.WrittenValues

/-!
# Naming an expression

The value of an expression may be written, or it may be bound to a name first, and what the name
stands for is written then. Both write the same text, or they fail for errors of one category,
unless the value is piped into a formatter at last. A name that has been bound stands for its value
if the loops that are running have nothing of this name. For a loop of the template itself this is
so if no variable of it has the name; the variables of a loop around the place where the template
stands are looked up by their places in another source, so that any name may be taken for one.

- `Scope.ofLoops?`: what the running loops have of a name.
- `Machine.Stacked.exists_ofLoops?`: they have nothing of a name that no variable of them has.
- `Activation.Writes`, `Activation.Names`: the value of an expression is to be written, or to be
  bound to a name that is written then.
- `Machine.Path.name_then_write`: both write the same text.
- `Machine.not_name_then_write`: in a loop around the template they need not.
-/

namespace Stencil

open Render

/-! ## Names -/

namespace Scope

/-- What the loops that are running have of a name, down to the first variables of a template;
`none` where the place of a variable cannot be cut out of the source. -/
def ofLoops? (source name : String) : List Layer → Option (Option Value)
  | .loop l :: rest =>
    match Round.find? source name l.current with
    | some none => ofLoops? source name rest
    | found => found
  | _ => some none

/-- A name that no running loop has stands for what is bound in the last frame. -/
theorem findLayer?_of_ofLoops? {frames : List Frame} {source name : String} {v : Value} {n : Nat}
    {layers : List Layer} (free : ofLoops? source name layers = some none)
    (layered : Layered layers (n + 1)) (bound : frames[n]?.bind (Dict.get? name) = some v) :
    findLayer? frames source name layers = some (some v) := by
  induction layers with
  | nil => cases layered
  | cons layer layers ih =>
    cases layer with
    | boundary => cases layered
    | loop l =>
      rw [ofLoops?] at free
      rw [findLayer?]
      cases found : Round.find? source name l.current with
      | none =>
        rw [found] at free
        cases free
      | some w =>
        rw [found] at free
        cases w with
        | none => exact ih free layered.of_loop
        | some v => cases free
    | «variables» given m =>
      have last : m = n := by
        cases layered with
        | base => rfl
        | template => rfl
      rw [findLayer?, bound?, last, bound]
      rfl

end Scope

namespace Machine

variable {e : Engine} {limit : Nat} {code : List Instr} {bs : List Bracket}
  {own : List (LoopVars × Loop)} {source name : String}

/-- The loops of an activation have nothing of a name that none of their variables has. -/
theorem Loops.ofLoops? (h : Loops code bs own)
    (named : ∀ vars x, Instr.loop vars x ∈ code → vars.Named source)
    (other : ∀ w ∈ own, ∀ i ∈ w.1.idents, i.name ≠ name) (inside : List Layer) :
    Scope.ofLoops? source name (loopLayers own ++ inside) =
      Scope.ofLoops? source name inside := by
  induction h with
  | nil => rfl
  | @loop p vars x l _ own begins overVars _ ih =>
    obtain ⟨first, others⟩ := List.forall_mem_cons.1 other
    have found := overVars.find? (named vars x (List.mem_of_getElem? begins)) name
    have none : Dict.get? name (vars.named l.current) = none := by
      refine Dict.get?_eq_none fun mem => ?_
      obtain ⟨⟨key, v⟩, there, rfl⟩ := List.mem_map.1 mem
      obtain ⟨i, among, same⟩ := List.mem_map.1 (List.of_mem_zip there).1
      exact first i among same
    rw [loopLayers, List.map_cons, List.cons_append, Scope.ofLoops?, found, none]
    exact ih others
  | cached _ ih => exact ih other

/-- Outside all loops there is nothing in loops. -/
theorem Stacked.ofLoops? {stack : List Activation} {layers : List Layer} (h : Stacked stack layers)
    (unlooped : Unlooped stack) : Scope.ofLoops? source name layers = some none := by
  induction h with
  | nil given => rfl
  | @cons a rest own inside outside loops owned below ih =>
    obtain ⟨closed, others⟩ := unlooped
    obtain rfl := loops.eq_nil closed
    show Scope.ofLoops? source name inside = some none
    cases isScoped : a.isScoped with
    | false =>
      rw [isScoped] at owned
      cases owned
      exact ih (others isScoped)
    | true =>
      rw [isScoped] at owned
      obtain ⟨given, n, rfl⟩ := owned
      rfl

/-- The running loops have nothing of a name if no variable of the loops of the activation has it,
and if no loop is open around an activation without variables of its own. -/
theorem Stacked.exists_ofLoops? {a : Activation} {rest : List Activation} {layers : List Layer}
    (h : Stacked (a :: rest) layers)
    (named : ∀ vars x, Instr.loop vars x ∈ a.code → vars.Named a.template.source) :
    ∃ own, Loops a.code (a.template.openAt a.position) own ∧ loopLayers own <+: layers ∧
      ((∀ w ∈ own, ∀ i ∈ w.1.idents, i.name ≠ name) → (a.isScoped = false → Unlooped rest) →
        Scope.ofLoops? a.template.source name layers = some none) := by
  obtain ⟨own, inside, outside, rfl, loops, owned, below⟩ := h.of_cons
  refine ⟨own, loops, List.prefix_append _ _, fun other unlooped => ?_⟩
  rw [loops.ofLoops? named other]
  cases isScoped : a.isScoped with
  | false =>
    rw [isScoped] at owned
    cases owned
    exact below.ofLoops? (unlooped isScoped)
  | true =>
    rw [isScoped] at owned
    obtain ⟨given, n, rfl⟩ := owned
    rfl

end Machine

/-! ## Writing and naming -/

/-- The activation is about to write the value of an expression. -/
def Activation.Writes (a : Activation) (x : Expr) : Prop := ∃ span, a.next? = some (.output x span)

/-- The activation is about to bind a name to the value of an expression, and then to write what the
name stands for. -/
def Activation.Names (a : Activation) (name : String) (x : Expr) : Prop :=
  ∃ d binder place span, a.next?.bind Instr.directive? = some d ∧
    d.run = (Fragment.assign Directive.bindAll).run ∧ d.args = .assign [(⟨name, binder⟩, x)] ∧
    a.advance.next? = some (.output (.variable ⟨name, place⟩ []) span)

namespace Machine

variable {e : Engine} {limit : Nat} {a : Activation} {rest : List Activation}
  {s s' : RenderState} {x : Expr} {span : Span} {name : String}

/-- The value of an expression is written in one step. -/
theorem byKind_step_of_output (next : a.next? = some (.output x span))
    (plain : x.endsInFormatter e.functions = false) :
    let w := s.writing e.defaultFormatter
      ((x.evaluate (s.scope e) a.template.source).mapError Failure.kind)
    byKind ((step e limit (a :: rest)).run s) = (w.1.map fun _ => a.advance :: rest, w.2) := by
  have executed : execute e limit a rest (.output x span) =
      Step.output e a.template x span >>= fun _ => pure (a.advance :: rest) := by
    cases x with
    | filter receiver f args place =>
      cases args with
      | nil => rfl
      | cons y ys => rfl
    | _ => rfl
  intro w
  rw [step, next]
  show byKind ((execute e limit a rest (.output x span)).run s) = _
  rw [executed, byKind_bind_pure, Step.byKind_output x span plain]

/-- The state when some names have been bound. -/
def boundIn (bindings : List (String × Value)) (s : RenderState) : RenderState :=
  { s with frames := RenderState.boundAll bindings s.frames }

/-- A name is bound to the value of an expression, if it has one, in one step. -/
theorem byKind_step_of_names (names : a.Names name x) :
    byKind ((step e limit (a :: rest)).run s) =
      match x.evaluate (s.scope e) a.template.source with
      | .ok v => (.ok (a.advance :: rest), boundIn [(name, v)] s)
      | .error f => (.error (.ofFailure f.kind), s) := by
  obtain ⟨d, binder, place, span, next, script, args, -⟩ := names
  have evaluated : d.args.evaluate (s.scope e) a.template.source =
      (x.evaluate (s.scope e) a.template.source).map fun v => ⟨[v], [name]⟩ := by
    have values : Expr.evaluateAll (s.scope e) a.template.source [x] =
        (x.evaluate (s.scope e) a.template.source).map fun v => [v] := Expr.evaluateAll_cons x []
    rw [args, DirectiveArgs.evaluate, List.map_cons, List.map_nil, values]
    cases x.evaluate (s.scope e) a.template.source with
    | ok v => rfl
    | error f => rfl
  cases hx : x.evaluate (s.scope e) a.template.source with
  | ok v =>
    rw [hx] at evaluated
    have run : ((d.run ⟨[v], [name]⟩).run e d.origin).run s = (.ok .next, boundIn [(name, v)] s) := by
      rw [script]
      rfl
    have moves : Moves e limit ⟨a :: rest, s⟩ ⟨a.advance :: rest, boundIn [(name, v)] s⟩ :=
      exists_moves_of_perform rfl next (Step.run_perform evaluated run)
    rw [moves.2]
    rfl
  | error f =>
    rw [hx] at evaluated
    obtain ⟨i, hi, directive⟩ := Option.bind_eq_some_iff.1 next
    obtain ⟨behind, executed, -⟩ := execute_eq_bind e limit a rest directive
    have stopped : (Step.perform e a.template d).run s =
        (.error (nameStop a.template.name (stopOf f)), s) := by
      have arguments := Step.run_arguments e a.template d.args s
      rw [evaluated] at arguments
      rw [Step.perform, run_named, run_bind_error arguments]
      rfl
    rw [step, hi]
    show byKind ((execute e limit a rest i).run s) = _
    rw [executed, byKind_bind_error stopped, Stop.kind_nameStop, Stop.kind_stopOf]

/-- Names stand for the same at a place of a render and at a place of another one, and what is
written gets to the same. -/
structure Alongside (e : Engine) (s : RenderState) (source : String) (s' : RenderState)
    (source' : String) : Prop where
  agrees : (s.scope e).Agrees source (s'.scope e) source'
  captures : s.captures = s'.captures
  output : s.output = s'.output

/-- When a name that no running loop has has been bound, it stands for its value. -/
theorem value_of_bound {source : String} {n : Nat} (layered : Layered s.layers (n + 1))
    (frames : s.frames.length = n + 1)
    (free : Scope.ofLoops? source name s.layers = some none) (v : Value) (place : Span) :
    (Expr.variable ⟨name, place⟩ []).evaluate ((boundIn [(name, v)] s).scope e) source = .ok v := by
  have bound : (boundIn [(name, v)] s).frames[n]?.bind (Dict.get? name) = some v := by
    have there : n < s.frames.length := by omega
    rw [boundIn, RenderState.getElem?_boundAll _ there, if_pos frames,
      List.getElem?_eq_getElem there]
    show Dict.get? name (Dict.insert name v _) = some v
    rw [Dict.get?_insert, if_pos rfl]
  have found := Scope.findLayer?_of_ofLoops? free layered bound
  have value : ((boundIn [(name, v)] s).scope e).find? source name = some (some v) :=
    RenderState.find?_scope found
  rw [Expr.evaluate, Scope.value, value]
  rfl

theorem run_one (e : Engine) (limit : Nat) (a : Activation) (rest : List Activation) :
    run e limit 1 (a :: rest) = step e limit (a :: rest) := by
  have last : run e limit 0 = pure := by
    funext stack
    cases stack with
    | nil => rfl
    | cons a rest => rfl
  rw [run_succ_cons, last, bind_pure]

/-- A name is bound to the value of an expression and then written in two steps. -/
theorem byKind_run_of_names {n : Nat} (names : a.Names name x) (layered : Layered s.layers (n + 1))
    (frames : s.frames.length = n + 1)
    (free : Scope.ofLoops? a.template.source name s.layers = some none) :
    byKind ((run e limit 2 (a :: rest)).run s) =
      match x.evaluate (s.scope e) a.template.source with
      | .ok v =>
        let w := (boundIn [(name, v)] s).writing e.defaultFormatter (.ok v)
        (w.1.map fun _ => a.advance.advance :: rest, w.2)
      | .error f => (.error (.ofFailure f.kind), s) := by
  rw [run_succ_cons, byKind_bind, byKind_step_of_names names]
  obtain ⟨-, -, place, span, -, -, -, next⟩ := names
  cases x.evaluate (s.scope e) a.template.source with
  | error f => rfl
  | ok v =>
    have value : (Expr.variable ⟨name, place⟩ []).evaluate ((boundIn [(name, v)] s).scope e)
        a.template.source = .ok v :=
      value_of_bound layered frames free v place
    let w := (boundIn [(name, v)] s).writing e.defaultFormatter (.ok v)
    have wrote : byKind ((step e limit (a.advance :: rest)).run (boundIn [(name, v)] s)) =
        (w.1.map fun _ => a.advance.advance :: rest, w.2) := by
      have source : a.advance.template.source = a.template.source := rfl
      rw [byKind_step_of_output next rfl]
      simp only [source, value]
      rfl
    show byKind ((run e limit 1 (a.advance :: rest)).run (boundIn [(name, v)] s)) = _
    rw [run_one]
    exact wrote

/-- Naming changes nothing: an expression is about to be written at one place, and to be bound to a
name that is written then at another one. If names stand for the same in both places, and the loops
that are running have nothing of the name, the same text is written, and both go on, or both stop
for a reason of the same kind; besides, only the name may have been bound. The loops have nothing of
the name if they are those of the template itself and no variable of them has it. -/
theorem Path.name_then_write {c : Config} {ps : List Passage} {t : Template} {job : Job}
    {data : Value} {b : Activation} {rest' : List Activation} {x' : Expr} (rest : List Activation)
    (registered : e.Registered) (compiled : t.IsCompiled)
    (path : Path e limit (.start t job data) ps c) (stack : c.stack = b :: rest')
    (names : b.Names name x') (writes : a.Writes x) (same : x.placeless = x'.placeless)
    (plain : x.endsInFormatter e.functions = false)
    (alongside : Alongside e s a.template.source c.state b.template.source) :
    (∃ own, Loops b.code (b.template.openAt b.position) own ∧ loopLayers own <+: c.state.layers ∧
      ((∀ w ∈ own, ∀ i ∈ w.1.idents, i.name ≠ name) → (b.isScoped = false → Unlooped rest') →
        Scope.ofLoops? b.template.source name c.state.layers = some none)) ∧
    (Scope.ofLoops? b.template.source name c.state.layers = some none →
      let direct := (step e limit (a :: rest)).run s
      let named := (run e limit 2 (b :: rest')).run c.state
      ∃ (ended : Except StopKind Unit) (text : String) (events : List Event)
        (bindings : List (String × Value)),
        byKind direct = (ended.map fun _ => a.advance :: rest, (s.withText text).after events) ∧
        byKind named = (ended.map fun _ => b.advance.advance :: rest',
          (boundIn bindings c.state |>.withText text).after events) ∧
        ∀ binding ∈ bindings, binding.1 = name) := by
  obtain ⟨n, depth⟩ : ∃ n, c.state.frames.length = n + 1 :=
    ⟨_, length_frames_of_reaches path.reaches⟩
  have layered := (standing_of_reaches (Program.program?_eq t) path.reaches).1.layered
  have stacked := path.stacked
  constructor
  · rw [stack] at stacked
    have inStack : b ∈ c.stack := stack ▸ List.mem_cons_self
    have program := (marked_of_path path).programs b inStack
    exact stacked.exists_ofLoops? fun vars y mem =>
      (registered.isCompiled compiled (path.template_of_mem b inStack)).named program mem
  intro free direct named
  obtain ⟨span, next⟩ := writes
  have wrote : byKind direct = _ := byKind_step_of_output next plain
  have bound : byKind named = _ := byKind_run_of_names names (depth ▸ layered) depth free
  rw [Expr.kind_evaluate_congr alongside.agrees same] at wrote
  cases value : x'.evaluate (c.state.scope e) b.template.source with
  | error f =>
    -- nothing is written, and nothing is bound
    rw [value] at wrote bound
    refine ⟨.error (.ofFailure f.kind), "", [], [], ?_, ?_, nofun⟩
    · rw [RenderState.withText_empty, RenderState.after_nil]
      exact wrote
    · rw [RenderState.withText_empty, RenderState.after_nil]
      exact bound
  | ok v =>
    rw [value] at wrote bound
    let w := e.defaultFormatter v
    have taken : (boundIn [(name, v)] c.state).takes w.text = s.takes w.text := by
      show (!c.state.captures.isEmpty || c.state.output.takes w.text) = _
      rw [← alongside.captures, ← alongside.output]
      rfl
    refine ⟨w.ending (s.takes w.text), w.text, [.wrote w.text], [(name, v)], wrote, ?_, ?_⟩
    · rw [← taken]
      exact bound
    · exact List.forall_mem_singleton.2 rfl

end Machine

/-! ## One under a name -/

/-- One, which is bound to a name. -/
def Directive.namingOne : Directive where
  name := ⟨"set", ⟨3, 6⟩⟩
  args := .assign [(⟨"y", ⟨7, 8⟩⟩, .literal (.int 1) ⟨11, 12⟩)]
  origin := ⟨"small", 1, 8⟩
  span := ⟨0, 15⟩
  run := (Fragment.assign Directive.bindAll).run

namespace Template

/-- A template that writes one. -/
def one : Template :=
  ⟨some "small", "\x7b\x7b 1 \x7d\x7d", [.output (.literal (.int 1) ⟨3, 4⟩) ⟨0, 7⟩]⟩

/-- A template that binds a name to one and then writes what it stands for. -/
def namedOne : Template where
  name := some "small"
  source := "\x7b% set y = 1 %\x7d\x7b\x7b y \x7d\x7d"
  body := [.directive .namingOne, .output (.variable ⟨"y", ⟨18, 19⟩⟩ []) ⟨15, 22⟩]

open Parse

theorem compile_one :
    compile (Engine.new .standard).language (some "small") one.source = .ok one := by
  have lexed : (lex .standard one.source).significant =
      [⟨.opening .expression, ⟨0, 2⟩, "\x7b\x7b"⟩, ⟨.number, ⟨3, 4⟩, "1"⟩,
        ⟨.closing .expression, ⟨5, 7⟩, "\x7d\x7d"⟩] ∧
      (lex .standard one.source).failure = none := by
    decide
  exact compile_of_markup lexed.1 lexed.2 rfl rfl rfl

theorem compile_namedOne :
    compile (Engine.new .standard).language (some "small") namedOne.source = .ok namedOne := by
  let r : Reader := ⟨⟨namedOne.source, none⟩, (Engine.new .standard).language, "small"⟩
  let given := [Token.mk .identifier ⟨7, 8⟩ "y", ⟨.equals, ⟨9, 10⟩, "="⟩,
    ⟨.number, ⟨11, 12⟩, "1"⟩]
  let opening := Token.mk (.opening .block) ⟨0, 2⟩ "\x7b%"
  let tag := Token.mk .identifier ⟨3, 6⟩ "set" :: (given ++
    [⟨.closing .block, ⟨13, 15⟩, "%\x7d"⟩])
  let behind := [Token.mk (.opening .expression) ⟨15, 17⟩ "\x7b\x7b",
    ⟨.identifier, ⟨18, 19⟩, "y"⟩, ⟨.closing .expression, ⟨20, 22⟩, "\x7d\x7d"⟩]
  let o : Occurrence := ⟨"y = 1", ⟨7, 12⟩, ⟨"small", 1, 8⟩⟩
  let d := Directive.namingOne
  have lexed : (lex .standard namedOne.source).significant = opening :: (tag ++ behind) ∧
      (lex .standard namedOne.source).failure = none := by
    decide
  have cut : Text.slice o.span r.source = some o.raw := by decide
  have place : Origin.at? r.identity r.source o.span.start = some o.origin := by decide
  have region : (lexRegion .standard namedOne.source o.span).map
      (fun l => (l.significant, l.failure.isNone)) = some (given, true) := by
    decide
  have read : (assignArgs ⟨r.source, none⟩ given).map .assign = .ok d.args := rfl
  have applied : applyDirective r .empty d.name o.span d.span =
      .ok (Builder.empty.add (.directive d)) :=
    applyDirective_set rfl rfl cut place region read
  have first : statement r .empty opening (tag ++ behind) =
      .ok (Builder.empty.add (.directive d), behind) := by
    have marked : markup r.toSurroundings opening (tag ++ behind) =
      .ok (.directive d.name o.span d.span, behind) := rfl
    rw [statement_eq, marked, ok_bind]
    show (applyDirective r .empty d.name o.span d.span).map _ = _
    rw [applied]
    rfl
  have parsed : Parse.template (Engine.new .standard).language (some "small") namedOne.source =
      .ok namedOne.body := by
    show statements ⟨⟨namedOne.source, (lex .standard namedOne.source).failure⟩, _, _⟩
      ((lex .standard namedOne.source).significant.length + 1) _
      (lex .standard namedOne.source).significant = _
    rw [lexed.1, lexed.2]
    exact (statements_cons first).trans rfl
  rw [compile, parsed]
  rfl

end Template

namespace Machine

/-- A template before its first instruction. -/
def atStart (t : Template) : Activation := ⟨t, Stmt.layoutAll 0 t.body, 0, false⟩

/-- One is written by its name. -/
theorem name_then_write_one :
    ((run (.new .standard) 1 2 [atStart .namedOne]).run
      ((Job.ofData .none).initial .none)).2.output.text = "1" := by
  let c : Config := .start .namedOne (.ofData .none) .none
  have compiled : Template.namedOne.IsCompiled := ⟨_, Template.compile_namedOne⟩
  have path : Path (.new .standard) 1 c [] c := .nil
  have names : (atStart .namedOne).Names "y" (.literal (.int 1) ⟨11, 12⟩) :=
    ⟨.namingOne, _, _, _, rfl, rfl, rfl, rfl⟩
  have writes : (atStart .one).Writes (.literal (.int 1) ⟨3, 4⟩) := ⟨_, rfl⟩
  have alongside : Alongside (.new .standard) c.state Template.one.source c.state
      Template.namedOne.source := ⟨⟨rfl, fun name => rfl⟩, rfl, rfl⟩
  obtain ⟨-, alike⟩ := path.name_then_write [] (Engine.registered_new .standard) compiled rfl names
    writes rfl rfl alongside
  obtain ⟨ended, text, events, bindings, direct, named, -⟩ := alike rfl
  have wrote : "1" = "" ++ text := congrArg (fun r => r.2.output.text) direct
  exact (congrArg (fun r => r.2.output.text) named).trans wrote.symm

end Machine

/-- An engine in which a template is placed in a loop. -/
def Engine.placing (small : Template) : Engine :=
  { Engine.new .standard with templates := [("looping", .looping), ("small", small)] }

/-- Two for the variable of the loop. -/
def Job.ofTwo : Job := .ofData (.map [("xs", .list [.int 2])])

/-- In a template that is placed in a loop a name that is not the variable of the loop may stand for
it: the place of the variable in its own source is that of the name in the source of the template. -/
theorem Machine.not_name_then_write :
    Template.compile (Engine.placing .one).language (some "small") Template.one.source = .ok .one ∧
      Template.compile (Engine.placing .namedOne).language (some "small")
        Template.namedOne.source = .ok .namedOne ∧
      Template.compile (Engine.placing .namedOne).language (some "looping")
        Template.looping.source = .ok .looping ∧
      ((Engine.placing .one).render .looping .ofTwo).body = "1" ∧
      ((Engine.placing .namedOne).render .looping .ofTwo).body = "2" :=
  ⟨Template.compile_one, Template.compile_namedOne, Template.compile_looping _, rfl, rfl⟩

end Stencil
