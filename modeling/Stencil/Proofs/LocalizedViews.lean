import Stencil.Proofs.Isolation
import Stencil.Proofs.Markup

/-!
# Localized views

A localized view is rendered by itself, or by a template that includes it with a directive. Both
find the same view and render it to the same text, with the same response and the same calls to the
store, if one more template may be active in the second case.

- `Render.Alike`: renders that differ in the include depth that they report, and in nothing else.
- `Template.alike_renderAt`: renders with the same bound and two limits are alike.
- `Value.viaDocument_map`: what a map becomes by way of a document, entry by entry.
- `Template.compile_includeLocalized`: the template that includes a localized view.
- `Engine.renderLocalized_agrees`: both ways to render a localized view agree.
-/

namespace Stencil

/-! ## Limits -/

/-- Two reasons to stop are the same but for the include depth that they report. -/
inductive Stop.Alike (limit limit' : Nat) : Stop → Stop → Prop
  | same (stop : Stop) : Alike limit limit' stop stop
  | tooDeep {e : Error} (cause : e.cause = .includeDepth limit) :
      Alike limit limit' (.failed e) (.failed { e with cause := .includeDepth limit' })

namespace Stop.Alike

variable {limit limit' : Nat} {stop stop' : Stop}

theorem nameStop (name : Option String) (h : Alike limit limit' stop stop') :
    Alike limit limit' (Render.nameStop name stop) (Render.nameStop name stop') := by
  cases h with
  | same => exact .same _
  | @tooDeep e cause =>
    have same : ({ e with cause := .includeDepth limit' } : Error).inTemplate name =
        { e.inTemplate name with cause := .includeDepth limit' } := by
      cases name with
      | none => rfl
      | some name =>
        rw [Error.inTemplate, Error.inTemplate]
        split
        · rfl
        · rfl
    show Alike limit limit' (.failed (e.inTemplate name)) (.failed (Error.inTemplate _ name))
    rw [same]
    exact .tooDeep (by rw [Error.cause_inTemplate, cause])

end Stop.Alike

namespace Render

/-- Two results are the same but for the include depth that they report. -/
inductive ResultsAlike (limit limit' : Nat) {α : Type} : Except Stop α → Except Stop α → Prop
  | ok (a : α) : ResultsAlike limit limit' (.ok a) (.ok a)
  | error {stop stop' : Stop} (h : stop.Alike limit limit' stop') :
      ResultsAlike limit limit' (.error stop) (.error stop')

/-- Two computations leave the same state, and come to the same result but for the include depth
that they report. -/
def Alike (limit limit' : Nat) {α : Type} (m n : Render α) : Prop :=
  ∀ s, (n.run s).2 = (m.run s).2 ∧ ResultsAlike limit limit' (m.run s).1 (n.run s).1

variable {limit limit' : Nat} {α β : Type}

theorem ResultsAlike.refl : ∀ r : Except Stop α, ResultsAlike limit limit' r r
  | .ok a => .ok a
  | .error stop => .error (.same stop)

theorem ResultsAlike.named (name : Option String) {r r' : Except Stop α}
    (h : ResultsAlike limit limit' r r') :
    ResultsAlike limit limit' (r.mapError (nameStop name)) (r'.mapError (nameStop name)) := by
  cases h with
  | ok a => exact .ok a
  | error h => exact .error (h.nameStop name)

theorem Alike.refl (m : Render α) : Alike limit limit' m m := fun _ => ⟨rfl, .refl _⟩

theorem Alike.bind {m n : Render α} {k l : α → Render β} (hm : Alike limit limit' m n)
    (hk : ∀ a, Alike limit limit' (k a) (l a)) : Alike limit limit' (m >>= k) (n >>= l) := by
  intro s
  obtain ⟨state, result⟩ := hm s
  rcases hr : m.run s with ⟨r, s'⟩
  rcases hr' : n.run s with ⟨r', s''⟩
  rw [hr, hr'] at state result
  cases state
  cases result with
  | ok a =>
    rw [run_bind_ok hr, run_bind_ok hr']
    exact hk a s'
  | error h =>
    rw [run_bind_error hr, run_bind_error hr']
    exact ⟨rfl, .error h⟩

theorem Alike.named (name : Option String) {m n : Render α} (hm : Alike limit limit' m n) :
    Alike limit limit' (Render.named name m) (Render.named name n) := by
  intro s
  obtain ⟨state, result⟩ := hm s
  rw [run_named, run_named]
  exact ⟨state, result.named name⟩

theorem Alike.eachRound {m n : Render Unit} (hm : Alike limit limit' m n) :
    ∀ rounds, Alike limit limit' (Render.eachRound m rounds) (Render.eachRound n rounds)
  | [] => .refl _
  | r :: rs => (Alike.refl (enterRound r rs)).bind fun _ => hm.bind fun _ => eachRound hm rs

/-- Renders agree with all that statements are made from: limits are looked at nowhere else. -/
theorem alike_tree (e : Engine) (limit limit' : Nat) :
    TreeCongruence e e.store e.store (fun _ => True) fun m n => Alike limit limit' m n where
  pure a := .refl _
  throw _ := .refl _
  halt := .refl _
  bind := Alike.bind
  named name hm := hm.named name
  evaluate _ _ _ := .refl _
  write _ := .refl _
  perform _ _ _ := .refl _
  loop t vars x _ _ hm := (Alike.refl (Step.rounds e t vars x)).bind hm.eachRound
  within given _ _ hm := (Alike.refl (enter given)).bind fun _ => hm.bind fun _ => .refl leave
  cached t start stop _ _ hm := by
    refine (Alike.refl (Step.startCached _ t start)).bind fun opened => ?_
    cases opened with
    | true => exact hm.bind fun _ => .refl _
    | false => exact .refl _

end Render

/-- Renders of a template differ only in the include depth that they report, if they have the same
bound and two limits. -/
theorem Template.alike_renderAt (e : Engine) (limit limit' : Nat) :
    ∀ (n : Nat) (t : Template),
      Render.Alike limit limit' (t.renderAt e limit n) (t.renderAt e limit' n)
  | 0, _ => fun _ => ⟨rfl, .error (.tooDeep rfl)⟩
  | n + 1, t =>
    (Render.alike_tree e limit limit').renderAll (fun _ u _ => alike_renderAt e limit limit' n u) t
      t.body fun _ _ => trivial

/-! ## Variables by way of a document -/

/-- The values of a dictionary of entries may be changed before or after. -/
theorem Dict.get?_ofList_map {α β : Type} (f : α → β) (entries : List (String × α)) (key : String) :
    get? key (ofList (entries.map fun e => (e.1, f e.2))) = (get? key (ofList entries)).map f := by
  -- on the entries, for dictionaries that agree already
  have grow : ∀ (entries : List (String × α)) (d : Dict α) (d' : Dict β),
      (∀ key, get? key d' = (get? key d).map f) → ∀ key,
      get? key ((entries.map fun e => (e.1, f e.2)).foldl (fun d e => insert e.1 e.2 d) d') =
        (get? key (entries.foldl (fun d e => insert e.1 e.2 d) d)).map f := by
    intro entries
    induction entries with
    | nil => exact fun d d' same => same
    | cons e entries ih =>
      intro d d' same
      refine ih _ _ fun key => ?_
      rw [get?_insert, get?_insert]
      split
      · rfl
      · exact same key
  exact grow entries [] [] (fun _ => rfl) key

namespace Value

theorem entriesOfJson_entriesToJson (entries : List (String × Value)) :
    entriesOfJson (entriesToJson entries) = entries.map fun e => (e.1, e.2.viaDocument) := by
  induction entries with
  | nil => rfl
  | cons e entries ih =>
    rw [entriesToJson, entriesOfJson, ih]
    rfl

/-- A map becomes a map of what its values become. -/
theorem viaDocument_map (entries : List (String × Value)) :
    (map entries).viaDocument =
      map (Dict.ofList (entries.map fun e => (e.1, e.2.viaDocument))) := by
  rw [viaDocument, toJson, ofJson, entriesOfJson_entriesToJson]
  rfl

/-- A value in a map becomes what it becomes by itself. -/
theorem get?_viaDocument_map {entries : List (String × Value)} {key : String} {v : Value}
    (h : Dict.get? key (Dict.ofList entries) = some v) :
    (map entries).viaDocument.map?.bind (Dict.get? key) = some v.viaDocument := by
  rw [viaDocument_map]
  show Dict.get? key (Dict.ofList _) = _
  rw [Dict.get?_ofList_map, h]
  rfl

end Value

/-! ## The template that includes a view -/

/-- A template that includes a localized view with some data, both of them variables. -/
def Localized.includeSource : String := "\x7b% includeLocalized view, data %\x7d"

namespace Localized

open Parse

/-- The tokens of the template. -/
def includeTokens : List Token :=
  [⟨.opening .block, ⟨0, 2⟩, "\x7b%"⟩, ⟨.identifier, ⟨3, 19⟩, "includeLocalized"⟩,
    ⟨.identifier, ⟨20, 24⟩, "view"⟩, ⟨.comma, ⟨24, 25⟩, ","⟩, ⟨.identifier, ⟨26, 30⟩, "data"⟩,
    ⟨.closing .block, ⟨31, 33⟩, "%\x7d"⟩]

/-- The arguments of the template. -/
def includeArgs : List Expr :=
  [.variable ⟨"view", ⟨20, 24⟩⟩ [], .variable ⟨"data", ⟨26, 30⟩⟩ []]

/-- The directive of the template. -/
def includeDirective (identity : String) : Directive where
  name := ⟨"includeLocalized", ⟨3, 19⟩⟩
  args := .call includeArgs
  origin := ⟨identity, 1, 21⟩
  span := ⟨0, 33⟩
  run args := Directive.runLocalized args.values

theorem directiveArgs_include (r : Reader) (delimiters : r.language.delimiters = .standard)
    (source : r.source = includeSource) (name : Ident) (text : String) (origin : Origin) :
    directiveArgs r name .call ⟨text, ⟨20, 30⟩, origin⟩ = .ok (.call includeArgs) := by
  have lexed : (lexRegion .standard includeSource ⟨20, 30⟩).map
      (fun l => (l.significant, l.failure.isNone)) =
        some ((includeTokens.drop 2).take 3, true) := by
    decide
  obtain ⟨l, region, parts⟩ := Option.map_eq_some_iff.1 lexed
  obtain ⟨tokens, ok⟩ := Prod.mk.inj parts
  rw [directiveArgs, delimiters, source, region]
  simp only [tokens, Option.isNone_iff_eq_none.1 ok]
  rfl

theorem applyDirective_include (r : Reader) (delimiters : r.language.delimiters = .standard)
    (source : r.source = includeSource)
    (known : Dict.get? "includeLocalized" r.language.directives =
      some Directive.includeLocalized) :
    applyDirective r .empty ⟨"includeLocalized", ⟨3, 19⟩⟩ ⟨20, 30⟩ ⟨0, 33⟩ =
      .ok (Builder.empty.add (.directive (includeDirective r.identity))) := by
  have occurs : occurrence r ⟨20, 30⟩ = .ok ⟨"view, data", ⟨20, 30⟩, ⟨r.identity, 1, 21⟩⟩ := by
    rw [occurrence, source]
    rfl
  have args := directiveArgs_include r delimiters source ⟨"includeLocalized", ⟨3, 19⟩⟩ "view, data"
    ⟨r.identity, 1, 21⟩
  have compiled : directive r (fun _ => .ok (.call Directive.runLocalized))
      ⟨"includeLocalized", ⟨3, 19⟩⟩ ⟨"view, data", ⟨20, 30⟩, ⟨r.identity, 1, 21⟩⟩ ⟨0, 33⟩ =
        .ok (includeDirective r.identity) := by
    simp only [directive, invocation, Fragment.call, args, bind, Except.bind]
    rfl
  rw [applyDirective, show closeDirective? r .empty _ _ _ = none from rfl]
  simp only [known, Directive.includeLocalized, occurs]
  simp only [bind, Except.bind, compiled]

end Localized

/-- The template that includes a localized view has one directive. -/
theorem Template.compile_includeLocalized {l : Language} (delimiters : l.delimiters = .standard)
    (known : Dict.get? "includeLocalized" l.directives = some Directive.includeLocalized)
    (name : Option String) :
    Template.compile l name Localized.includeSource =
      .ok ⟨name, Localized.includeSource, [.directive
        (Localized.includeDirective (Origin.identityOf name Localized.includeSource))]⟩ := by
  have lexed : (lex .standard Localized.includeSource).significant = Localized.includeTokens ∧
      (lex .standard Localized.includeSource).failure = none := by
    decide
  let r : Parse.Reader :=
    ⟨⟨Localized.includeSource, none⟩, l, Origin.identityOf name Localized.includeSource⟩
  have applied := Localized.applyDirective_include r delimiters rfl known
  rw [← delimiters] at lexed
  exact Parse.compile_of_markup lexed.1 lexed.2 (m := .directive _ _ _) rfl applied rfl

/-! ## Two ways to render a view -/

/-- Two causes are of one kind: they are the same, or both report the include depth. -/
inductive Cause.SameKind : Cause → Cause → Prop
  | same (c : Cause) : SameKind c c
  | includeDepth (limit limit' : Nat) : SameKind (.includeDepth limit) (.includeDepth limit')

namespace Outcome

/-- A render fails for a reason. -/
def FailsWith (o : Outcome) (cause : Cause) : Prop :=
  ∃ e, o.result = .error (.error e) ∧ e.cause = cause

/-- Two results are the same response, or failures of one kind. -/
inductive ResultsAgree : Except Failure Response → Except Failure Response → Prop
  | ok (r : Response) : ResultsAgree (.ok r) (.ok r)
  | failed {e e' : Error} (kind : e.cause.SameKind e'.cause) :
      ResultsAgree (.error (.error e)) (.error (.error e'))
  | broken : ResultsAgree (.error .broken) (.error .broken)

/-- Two renders have the same output, the same calls to the store, and the same result; when one
fails, both do so with errors of one kind. -/
structure Agrees (o o' : Outcome) : Prop where
  output : o'.output = o.output
  calls : o'.calls = o.calls
  result : ResultsAgree o.result o'.result

theorem sameKind_failure {e e' : Error} (kind : e.cause.SameKind e'.cause) (refusal : String)
    (output : Output) :
    (failure refusal output e).cause.SameKind (failure refusal output e').cause := by
  unfold failure
  split
  · exact kind
  · exact .same _

/-- Alike results agree as those of renders, from states with the same response, output and
history. -/
theorem agrees_ofRun {limit limit' : Nat} {refusal : String} {r r' : Except Stop Unit}
    {s s' : RenderState} (alike : Render.ResultsAlike limit limit' r r')
    (response : s'.response = s.response) (output : s'.output = s.output)
    (history : s'.history = s.history) :
    (ofRun refusal (r, s)).Agrees (ofRun refusal (r', s')) where
  output := by rw [output_ofRun, output_ofRun, output]
  calls := by
    rw [calls_ofRun, calls_ofRun]
    exact congrArg History.calls history
  result := by
    cases alike with
    | ok a =>
      rw [ofRun, ofRun, response]
      exact .ok _
    | @error stop stop' h =>
      cases h with
      | tooDeep cause =>
        rw [ofRun, ofRun, output]
        refine .failed (sameKind_failure ?_ _ _)
        rw [cause]
        exact .includeDepth _ _
      | same =>
        cases stop with
        | halted =>
          rw [ofRun, ofRun, response]
          exact .ok _
        | failed e =>
          rw [ofRun, ofRun, output]
          exact .failed (.same _)
        | broken => exact .broken
        | outputFull => exact .failed (.same _)

end Outcome

namespace Render

/-- The first value that a function has on a list is that of the first member where it has one. -/
theorem findSome?_eq_bind {α β : Type} (f : α → Option β) (xs : List α) :
    xs.findSome? f = (xs.find? fun x => (f x).isSome).bind f := by
  induction xs with
  | nil => rfl
  | cons x xs ih =>
    rw [List.findSome?_cons, List.find?_cons]
    cases fx : f x with
    | none => exact ih
    | some y => exact fx.symm

/-- A single statement is all that is rendered. -/
theorem run_renderAll_singleton (e : Engine) (visit : Template → Render Unit) (t : Template)
    (stmt : Stmt) (s : RenderState) :
    (Stmt.renderAll e visit t [stmt]).run s = (stmt.render e visit t).run s := by
  rw [Stmt.renderAll]
  rcases h : (stmt.render e visit t).run s with ⟨stop | ⟨⟩, s'⟩
  · exact run_bind_error h
  · exact run_bind_ok h

end Render

namespace Localized

open Render

variable {e : Engine} {t : Template} {s : RenderState} {globals : Value} {view : String}
  {entries : List (String × Value)} {identity : String}

/-- The value of a variable that a template is given. -/
theorem value_of_given {name : String} {v : Value} (layers : s.layers = [.variables globals 0])
    (frames : s.frames = [[]]) (given : globals.map?.bind (Dict.get? name) = some v) (span : Span)
    (source : String) : (s.scope e).value source ⟨name, span⟩ [] = .ok v := by
  have found : (s.scope e).find? source name = some (some v) := by
    rw [Scope.find?, RenderState.scope, layers, frames]
    simp [Scope.findLayer?, Scope.bound?, given]
  rw [Scope.value, found]
  rfl

/-- The values that the directive is given. -/
def includeValues (view : String) (entries : List (String × Value)) : Args :=
  ⟨[.text view, .map entries], []⟩

/-- The directive is given the name and the data. -/
theorem run_arguments_include (layers : s.layers = [.variables globals 0])
    (frames : s.frames = [[]])
    (hasView : globals.map?.bind (Dict.get? "view") = some (.text view))
    (hasData : globals.map?.bind (Dict.get? "data") = some (.map entries)) :
    (Step.arguments e t (includeDirective identity).args).run s =
      (.ok (includeValues view entries), s) := by
  have values : (includeDirective identity).args.evaluate (s.scope e) t.source =
      .ok (includeValues view entries) := by
    have first := value_of_given (e := e) layers frames hasView ⟨20, 24⟩ t.source
    have second := value_of_given (e := e) layers frames hasData ⟨26, 30⟩ t.source
    simp only [includeDirective, includeArgs, DirectiveArgs.evaluate, Expr.evaluateAll,
      Expr.evaluate, first, second, includeValues]
  show (lift ((includeDirective identity).args.evaluate (s.scope e) t.source)).run s = _
  rw [values]
  rfl

theorem arguments_include (named : view ≠ "") :
    Localized.arguments (includeValues view entries).values = .ok (view, .map entries) := by
  have full : view.isEmpty = false := by
    rw [Bool.eq_false_iff, ne_eq, String.isEmpty_iff]
    exact named
  simp only [includeValues, Localized.arguments, full]
  rfl

/-- The directive asks for the first view that exists. -/
theorem perform_include (resolver : e.resolver = none)
    (arguments : (Step.arguments e t (includeDirective identity).args).run s =
      (.ok (includeValues view entries), s)) (named : view ≠ "") {c : String}
    (first : (candidates s.request.locale view).find? (fun c => (e.template? c).isSome) = some c) :
    (Step.perform e t (includeDirective identity)).run s =
      (.ok (.visit c (.map entries)), s) := by
  have asked : (((includeDirective identity).run (includeValues view entries)).run e
      (includeDirective identity).origin).run s = (.ok (.visit c (.map entries)), s) :=
    run_localized resolver (arguments_include named) first
  rw [Step.perform, run_named, run_bind_ok arguments, Step.run_locatedAt, asked]
  rfl

/-- The directive fails where no view exists. -/
theorem perform_include_of_none (resolver : e.resolver = none)
    (arguments : (Step.arguments e t (includeDirective identity).args).run s =
      (.ok (includeValues view entries), s)) (named : view ≠ "")
    (missing : (candidates s.request.locale view).find? (fun c => (e.template? c).isSome) =
      none) :
    ∃ err, (Step.perform e t (includeDirective identity)).run s = (.error (.failed err), s) ∧
      err.cause = .viewNotFound (candidates s.request.locale view) := by
  have asked (origin : Origin) :
      (((includeDirective identity).run (includeValues view entries)).run e origin).run s =
        (.error (.failed (.ofCause (.viewNotFound (candidates s.request.locale view)))), s) := by
    have looked : (Render.view e origin).run s = (.ok (s.view e origin), s) := rfl
    have unresolved : (s.view e origin).resolver = none := resolver
    have missing' : (candidates (s.view e origin).request.locale view).find?
        (s.view e origin).hasTemplate = none := missing
    show ((Directive.runLocalized _).run e origin).run s = _
    rw [Directive.runLocalized, arguments_include named]
    refine (run_bind_ok looked).trans ?_
    simp only [Script.bind, unresolved, missing']
    rfl
  have cause : (((Error.ofCause (.viewNotFound (candidates s.request.locale view))).locate t.source
      (includeDirective identity).span).inTemplate t.name).cause =
        .viewNotFound (candidates s.request.locale view) := by
    rw [Error.cause_inTemplate, Error.cause_locate]
    rfl
  refine ⟨_, ?_, cause⟩
  rw [Step.perform, run_named, run_bind_ok arguments, Step.run_locatedAt, asked]
  rfl

/-- Where a view exists, the statement places the first one, with the data. -/
theorem run_include (resolver : e.resolver = none)
    (arguments : (Step.arguments e t (includeDirective identity).args).run s =
      (.ok (includeValues view entries), s)) (named : view ≠ "") {v : Template}
    (found : (candidates s.request.locale view).findSome? e.template? = some v) (limit n : Nat) :
    (∃ c, e.template? c = some v ∧ (Step.perform e t (includeDirective identity)).run s =
        (.ok (.visit c (.map entries)), s)) ∧
      (Stmt.render e (Template.renderAt e limit n) t
          (.directive (includeDirective identity))).run s =
        (Render.within (.map entries) (v.renderAt e limit n)).run s := by
  rw [findSome?_eq_bind] at found
  obtain ⟨c, first, template⟩ := Option.bind_eq_some_iff.1 found
  have performed := perform_include resolver arguments named first
  refine ⟨⟨c, template, performed⟩, ?_⟩
  rw [Stmt.render, run_bind_ok performed]
  exact run_follow_visit template s

/-- The statement fails where no view exists. -/
theorem run_include_of_none (resolver : e.resolver = none)
    (arguments : (Step.arguments e t (includeDirective identity).args).run s =
      (.ok (includeValues view entries), s)) (named : view ≠ "")
    (missing : (candidates s.request.locale view).findSome? e.template? = none)
    (visit : Template → Render Unit) :
    ∃ err, (Stmt.render e visit t (.directive (includeDirective identity))).run s =
        (.error (.failed err), s) ∧
      err.cause = .viewNotFound (candidates s.request.locale view) := by
  have none : (candidates s.request.locale view).find? (fun c => (e.template? c).isSome) = none :=
    List.find?_eq_none.2 fun c hc => by
      rw [List.findSome?_eq_none_iff.1 missing c hc]
      exact Bool.false_ne_true
  obtain ⟨err, performed, cause⟩ := perform_include_of_none resolver arguments named none
  refine ⟨err, ?_, cause⟩
  rw [Stmt.render]
  exact run_bind_error performed

end Localized

/-- A template with variables of its own agrees with the same template by itself, up to the limit
that is reported. -/
theorem Outcome.agrees_within (e : Engine) (limit limit' n : Nat) (v : Template) (given : Value)
    (s : RenderState) (refusal : String) :
    (ofRun refusal ((v.renderAt e limit n).run (s.inside given))).Agrees
      (ofRun refusal ((Render.within given (v.renderAt e limit' n)).run s)) := by
  obtain ⟨state, result⟩ := Template.alike_renderAt e limit limit' n v (s.inside given)
  rw [run_within s given (isolated_renderAt e limit' n v s.layers s.frames)]
  rcases hr : (v.renderAt e limit n).run (s.inside given) with ⟨r, s₁⟩
  rcases hr' : (v.renderAt e limit' n).run (s.inside given) with ⟨r', s₂⟩
  rw [hr, hr'] at state result
  cases state
  -- what is around the template is brought back, and is no part of the outcome
  cases result with
  | ok a =>
    have same : Render.ResultsAlike limit limit' (.ok a) (.ok a) := .ok a
    exact agrees_ofRun same rfl rfl rfl
  | error h => exact agrees_ofRun (.error h) rfl rfl rfl

/-- Without a resolver, the first view that exists is rendered. -/
theorem Engine.renderLocalized_eq {e : Engine} (resolver : e.resolver = none) (view : String)
    (data : Value) (request : Request) :
    e.renderLocalized view data request =
      match (Localized.candidates request.locale view).findSome? e.template? with
      | some v => e.render v { Job.ofData data.viaDocument with request := request }
      | none =>
        .ofFailure
          (.error (.ofCause (.viewNotFound (Localized.candidates request.locale view)))) := by
  unfold renderLocalized renderView
  split
  · next resolve known => cases resolver.symm.trans known
  · rfl

/-- A render with the limit of the settings. -/
theorem Engine.render_ofData {e : Engine} {d : Nat} (limit : e.settings.maxIncludeDepth = d)
    (pos : 1 ≤ d) (v : Template) (data : Value) (request : Request) :
    let job := { Job.ofData data with request := request }
    e.render v job = .ofRun "" ((v.renderAt e d d).run (job.initial data)) := by
  intro job
  have depth : d - 1 + 1 = d := Nat.sub_add_cancel pos
  show Outcome.ofRun "" ((v.renderAt e e.settings.maxIncludeDepth
    (e.settings.maxIncludeDepth - 1 + 1)).run (job.initial data)) = _
  rw [limit, depth]

/-- A localized view is rendered in the same way by itself and by a template that includes it: the
same view is found, with the same output, the same calls to the store and the same response, or both
renders fail for a reason of one kind. -/
theorem Engine.renderLocalized_agrees {e : Engine} {d : Nat} (resolver : e.resolver = none)
    (limit : e.settings.maxIncludeDepth = d) (pos : 1 ≤ d) (delimiters : e.delimiters = .standard)
    (known : Dict.get? "includeLocalized" e.directives = some Directive.includeLocalized)
    {view : String} (named : view ≠ "") {entries globals : List (String × Value)}
    (hasView : Dict.get? "view" (Dict.ofList globals) = some (.text view))
    (hasData : Dict.get? "data" (Dict.ofList globals) = some (.map entries))
    (request : Request) (name : Option String) :
    ∃ t δ, Template.compile e.language name Localized.includeSource = .ok t ∧
      t.body = [.directive δ] ∧
      let candidates := Localized.candidates request.locale view
      let data := (Value.map entries).viaDocument
      let job : Job := { Job.ofData (Value.map globals).viaDocument with
        request := request
        maxIncludeDepth := some (d + 1) }
      let s := job.initial (Value.map globals).viaDocument
      (e.renderLocalized view (.map entries) request).Agrees (e.render t job) ∧
        (∀ v, candidates.findSome? e.template? = some v →
          e.renderLocalized view (.map entries) request =
              e.render v { Job.ofData data with request := request } ∧
            ∃ c, e.template? c = some v ∧ (Step.perform e t δ).run s = (.ok (.visit c data), s)) ∧
        (candidates.findSome? e.template? = none →
          (e.renderLocalized view (.map entries) request).FailsWith (.viewNotFound candidates) ∧
            (e.render t job).FailsWith (.viewNotFound candidates)) := by
  let given := (Value.map globals).viaDocument
  let identity := Origin.identityOf name Localized.includeSource
  let δ := Localized.includeDirective identity
  let t : Template := ⟨name, Localized.includeSource, [.directive δ]⟩
  refine ⟨t, δ, Template.compile_includeLocalized delimiters known name, rfl, ?_⟩
  intro candidates data job s
  obtain ⟨entries', data_eq⟩ : ∃ entries', data = .map entries' := ⟨_, Value.viaDocument_map _⟩
  have hasView' := Value.get?_viaDocument_map hasView
  have hasData' := Value.get?_viaDocument_map hasData
  have arguments : (Step.arguments e t δ.args).run s =
      (.ok (Localized.includeValues view entries'), s) :=
    Localized.run_arguments_include rfl rfl hasView' (hasData'.trans (congrArg some data_eq))
  have run : e.run t job = (Stmt.render e (Template.renderAt e (d + 1) d) t (.directive δ)).run s :=
    Render.run_renderAll_singleton e _ t _ s
  have rendered := e.renderLocalized_eq resolver view (.map entries) request
  show (e.renderLocalized view (.map entries) request).Agrees (.ofRun "" (e.run t job)) ∧ _
  cases found : candidates.findSome? e.template? with
  | none =>
    -- both fail before anything is done
    obtain ⟨err, stopped, cause⟩ :=
      Localized.run_include_of_none resolver arguments named found (Template.renderAt e (d + 1) d)
    rw [show (Localized.candidates request.locale view).findSome? e.template? = none from found]
      at rendered
    have first : (e.renderLocalized view (.map entries) request).FailsWith
        (.viewNotFound candidates) := ⟨_, by rw [rendered]; rfl, rfl⟩
    have second : (Outcome.ofRun "" (e.run t job)).FailsWith (.viewNotFound candidates) :=
      ⟨err, by rw [run, stopped]; rfl, cause⟩
    refine ⟨?_, nofun, fun _ => ⟨first, second⟩⟩
    rw [rendered, run, stopped]
    refine ⟨rfl, rfl, .failed ?_⟩
    show (Error.ofCause (.viewNotFound candidates)).cause.SameKind err.cause
    rw [cause]
    exact .same _
  | some v =>
    obtain ⟨⟨c, template, performed⟩, visited⟩ :=
      Localized.run_include resolver arguments named found (d + 1) d
    rw [show (Localized.candidates request.locale view).findSome? e.template? = some v from found]
      at rendered
    rw [← data_eq] at performed visited
    refine ⟨?_, ?_, nofun⟩
    · rw [rendered, run, visited]
      show (e.render v { Job.ofData data with request := request }).Agrees _
      rw [Engine.render_ofData limit pos]
      exact Outcome.agrees_within e d (d + 1) d v data s ""
    · intro v' same
      cases same
      exact ⟨rendered, c, template, performed⟩

/-- The German card is found and written in both ways, where no other template may be active. -/
theorem Engine.renderLocalized_agrees_card :
    let e : Engine := { Engine.new .standard with
      templates := [("card", ⟨some "card", "", []⟩), ("de.card", .writingX)]
      settings := { Settings.default with maxIncludeDepth := 1 } }
    let request : Request := { Request.default with locale := "de" }
    let entries : List (String × Value) := [("x", .text "Hut")]
    let globals : List (String × Value) := [("data", .map entries), ("view", .text "card")]
    let job : Job := { Job.ofData (Value.map globals).viaDocument with
      request := request
      maxIncludeDepth := some 2 }
    e.resolver = none ∧ e.delimiters = .standard ∧
      Dict.get? "includeLocalized" e.directives = some Directive.includeLocalized ∧
      Dict.get? "view" (Dict.ofList globals) = some (.text "card") ∧
      Dict.get? "data" (Dict.ofList globals) = some (.map entries) ∧
      (e.renderLocalized "card" (.map entries) request).body = "Hut" ∧
      ∃ t, Template.compile e.language none Localized.includeSource = .ok t ∧
        (e.renderLocalized "card" (.map entries) request).Agrees (e.render t job) := by
  intro e request entries globals job
  have known : Dict.get? "includeLocalized" e.directives = some Directive.includeLocalized := rfl
  have hasView : Dict.get? "view" (Dict.ofList globals) = some (.text "card") := by
    simp [globals, Dict.ofList, Dict.get?_insert]
  have hasData : Dict.get? "data" (Dict.ofList globals) = some (.map entries) := by
    simp [globals, Dict.ofList, Dict.get?_insert]
  have written : (e.renderLocalized "card" (.map entries) request).body = "Hut" := rfl
  obtain ⟨t, δ, compiled, -, agrees, -⟩ := Engine.renderLocalized_agrees rfl rfl (Nat.le_refl 1) rfl
    known (by decide) hasView hasData request none
  exact ⟨rfl, rfl, known, hasView, hasData, written, t, compiled, agrees⟩

end Stencil
