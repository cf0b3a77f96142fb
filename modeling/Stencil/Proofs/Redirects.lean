import Stencil.Proofs.Emission
import Stencil.Proofs.Pairing

/-!
# Redirects

The standard directives leave the redirect of the response alone, but for the one that makes it and
ends the render. So there is no redirect as long as a render with standard directives goes on.

- `Script.Yields`: what holds of the result of a script and of the redirect when it ends.
- `Script.Deliberate`: a script makes a redirect and ends the render, or does neither.
- `Template.IsStandard`, `Engine.IsStandard`: templates are compiled with standard directives only.
- `Machine.Path.redirect`: there is no redirect behind a path with such templates.
-/

namespace Stencil

/-! ## Scripts -/

/-- A redirect leads to some place, with a status of three digits. -/
structure Redirect.Valid (r : Redirect) : Prop where
  url : r.url ≠ ""
  least : 100 ≤ r.status
  most : r.status ≤ 999

namespace Script

variable {α : Type}

/-- If a script that begins with some redirect, or with none, comes to its end, something holds of
its result and of the redirect that is there then. -/
def Yields (Q : α → Option Redirect → Prop) : Script α → Option Redirect → Prop
  | .done a, redirect => Q a redirect
  | .fail _, _ => True
  | .full, _ => True
  | .look next, redirect => ∀ v, (next v).Yields Q redirect
  | .write _ next, redirect => ∀ accepted, (next accepted).Yields Q redirect
  | .assign _ _ next, redirect => next.Yields Q redirect
  | .respond change next, redirect =>
    ∀ response : Response, response.redirect = redirect → next.Yields Q (change response).redirect
  | .limit _ _ next, redirect => next.Yields Q redirect
  | .ask _ next, redirect => ∀ answer, (next answer).Yields Q redirect

/-- What comes of a redirect in a directive: the render is ended with a valid one, or it goes on
with the one that there has been. -/
def Sends (before : Option Redirect) : Flow → Option Redirect → Prop
  | .halt, after => ∃ r, after = some r ∧ r.Valid
  | _, after => after = before

/-- The script makes a redirect and ends the render, or does neither. -/
def Deliberate (s : Script Flow) : Prop := ∀ before, s.Yields (Sends before) before

/-- The standard directives are deliberate. -/
theorem closed_deliberate : Closed Deliberate where
  goOn {flow} unhalted before := by
    cases flow with
    | halt => exact absurd rfl unhalted
    | _ => exact rfl
  redirect hurl least most before response same := ⟨_, rfl, hurl, least, most⟩
  fail _ _ := trivial
  view h before := fun v => h v before
  put _ _ h before := fun
    | true => h before
    | false => trivial
  set _ _ _ h before := h before
  setHeader _ _ _ h before response same := same ▸ h before
  limit _ _ h before := h before

/-- The script does what it yields. -/
theorem Yields.of_run {Q : α → Option Redirect → Prop} {e : Engine} {origin : Origin} {a : α}
    {st' : RenderState} : ∀ {s : Script α} {st : RenderState},
      (s.run e origin).run st = (.ok a, st') → s.Yields Q st.response.redirect →
        Q a st'.response.redirect
  | .done _, _, run, h => by
    cases run
    exact h
  | .fail _, _, run, _ => by cases run
  | .full, _, run, _ => by cases run
  | .look next, _, run, h => of_run (s := next _) run (h _)
  | .write text next, st, run, h => by
    obtain ⟨accepted, st₁, offered, run⟩ := Render.bind_eq_ok run
    have same : st₁.response = st.response := by
      have reserved := (Render.reserved_offer text st).1
      rwa [offered] at reserved
    exact of_run run (same ▸ h accepted)
  | .assign name value next, st, run, h => by
    obtain ⟨_, st₁, bound, run⟩ := Render.bind_eq_ok run
    cases bound
    exact of_run (s := next) run h
  | .respond _ next, st, run, h => by
    obtain ⟨_, st₁, responded, run⟩ := Render.bind_eq_ok run
    cases responded
    exact of_run (s := next) run (h st.response rfl)
  | .limit query l next, st, run, h => by
    obtain ⟨change, limited⟩ := Render.exists_run_setLimit query l
    obtain ⟨_, st₁, set, run⟩ := Render.bind_eq_ok run
    cases (limited st).symm.trans set
    exact of_run (s := next) run h
  | .ask c next, st, run, h => by
    obtain ⟨answer, w, asked⟩ := Render.exists_run_ask e.store c st
    obtain ⟨answer', st₁, asked', run⟩ := Render.bind_eq_ok run
    cases asked.symm.trans asked'
    exact of_run run (h answer)

end Script

/-- What comes of the redirect when a directive is run. -/
theorem Step.sends_of_perform {e : Engine} {t : Template} {d : Directive}
    (deliberate : d.Makes Script.Deliberate) {s s' : RenderState} {flow : Flow}
    (h : (perform e t d).run s = (.ok flow, s')) :
    Script.Sends s.response.redirect flow s'.response.redirect := by
  obtain ⟨args, h⟩ := exists_arguments_of_ok h
  exact (deliberate args s.response.redirect).of_run h

/-! ## Templates -/

namespace Stmt

mutual

/-- The directives that the instructions of a statement run are those in the statement. -/
theorem mem_directives_of_layout {d : Directive} : ∀ (s : Stmt) {start : Nat} {i : Instr},
    i ∈ s.layout start → i.directive? = some d → d ∈ s.directives
  | .raw _, _, _, hi, hd => by
    cases List.mem_singleton.1 hi
    cases hd
  | .output x span, _, _, hi, hd => by
    cases List.mem_singleton.1 hi
    unfold Instr.output at hd
    split at hd
    · cases hd
    · cases hd
  | .include _ _, _, _, hi, hd => by
    cases List.mem_singleton.1 hi
    cases hd
  | .ifElse _ _ thenBody none, start, i, hi, hd => by
    rw [directives, elseDirectives, List.append_nil]
    rcases List.mem_cons.1 hi with rfl | hi
    · cases hd
    · exact mem_directives_of_layoutAll thenBody hi hd
  | .ifElse _ _ thenBody (some elseBody), start, i, hi, hd => by
    rw [directives, elseDirectives]
    rcases List.mem_cons.1 hi with rfl | hi
    · cases hd
    rcases List.mem_append.1 hi with hi | hi
    · exact List.mem_append_left _ (mem_directives_of_layoutAll thenBody hi hd)
    rcases List.mem_cons.1 hi with rfl | hi
    · cases hd
    · exact List.mem_append_right _ (mem_directives_of_layoutAll elseBody hi hd)
  | .forLoop _ _ body, start, i, hi, hd => by
    rcases List.mem_cons.1 hi with rfl | hi
    · cases hd
    rcases List.mem_cons.1 hi with rfl | hi
    · cases hd
    rcases List.mem_append.1 hi with hi | hi
    · exact mem_directives_of_layoutAll body hi hd
    · cases List.mem_singleton.1 hi
      cases hd
  | .directive _, _, _, hi, hd => by
    cases List.mem_singleton.1 hi
    cases hd
    exact List.mem_singleton_self _
  | .block first body last, start, i, hi, hd => by
    rw [directives]
    rcases List.mem_cons.1 hi with rfl | hi
    · cases hd
      exact List.mem_cons_self
    refine List.mem_cons_of_mem _ ?_
    rcases List.mem_append.1 hi with hi | hi
    · exact List.mem_cons_of_mem _ (mem_directives_of_layoutAll body hi hd)
    · cases List.mem_singleton.1 hi
      cases hd
      exact List.mem_cons_self
  | .cached _ body _, start, i, hi, hd => by
    rcases List.mem_cons.1 hi with rfl | hi
    · cases hd
    rcases List.mem_append.1 hi with hi | hi
    · exact mem_directives_of_layoutAll body hi hd
    · cases List.mem_singleton.1 hi
      cases hd

theorem mem_directives_of_layoutAll {d : Directive} : ∀ (ss : List Stmt) {start : Nat} {i : Instr},
    i ∈ layoutAll start ss → i.directive? = some d → d ∈ allDirectives ss
  | [], _, _, hi, _ => by cases hi
  | s :: ss, start, i, hi, hd => by
    rcases List.mem_append.1 hi with hi | hi
    · exact List.mem_append_left _ (mem_directives_of_layout s hi hd)
    · exact List.mem_append_right _ (mem_directives_of_layoutAll ss hi hd)

end

end Stmt

/-- The language has no other directives than standard ones, under whatever names. -/
def Language.IsStandard (l : Language) : Prop :=
  ∀ key d, Dict.get? key l.directives = some d →
    ∃ key', Dict.get? key' Engine.standardDirectives = some d

/-- The template is compiled with standard directives only. -/
def Template.IsStandard (t : Template) : Prop :=
  ∃ l name source, Language.IsStandard l ∧ Template.compile l name source = .ok t

theorem Template.IsStandard.makes_of_definitions {t : Template} (h : t.IsStandard)
    {P : Script Flow → Prop}
    (made : ∀ key d, Dict.get? key Engine.standardDirectives = some d → d.Makes P) : t.Makes P := by
  obtain ⟨l, name, source, standard, compiled⟩ := h
  refine Template.makes_of_compile (fun key d found => ?_) compiled
  obtain ⟨key', found'⟩ := standard key d found
  exact made key' d found'

theorem Template.IsStandard.makes {t : Template} (h : t.IsStandard) {P : Script Flow → Prop}
    (closed : Script.Closed P) : t.Makes P :=
  h.makes_of_definitions (Engine.makes_standardDirectives closed)

/-- An engine and its templates have standard directives only. -/
structure Engine.IsStandard (e : Engine) : Prop where
  language : e.language.IsStandard
  templates : ∀ name u, e.template? name = some u → u.IsStandard

namespace Engine

variable {e e' : Engine}

theorem isStandard_new (delimiters : Delimiters) : (new delimiters).IsStandard :=
  ⟨fun key _ found => ⟨key, found⟩, nofun⟩

theorem IsStandard.withStore (h : e.IsStandard) (store : Option CacheStore) :
    (e.withStore store).IsStandard := ⟨h.language, h.templates⟩

theorem IsStandard.addTemplate (h : e.IsStandard) {name source : String}
    (added : e.addTemplate name source = .ok e') : e'.IsStandard := by
  unfold Engine.addTemplate at added
  split at added
  · next t compiled =>
    cases added
    refine ⟨h.language, fun name' u found => ?_⟩
    rw [template?, Dict.get?_insert] at found
    split at found
    · cases found
      exact ⟨e.language, some name, source, h.language, compiled⟩
    · exact h.templates name' u found
  · cases added

end Engine

/-! ## Paths -/

namespace Machine

open Render Program

variable {e : Engine} {limit : Nat} {t : Template} {job : Job} {data : Value} {ps : List Passage}
  {c c' : Config}

/-- The templates that are active are the one that is rendered and those of the engine. -/
theorem Path.template_of_mem (path : Path e limit (.start t job data) ps c) :
    ∀ a ∈ c.stack, a.template = t ∨ ∃ name, e.template? name = some a.template := by
  induction path with
  | nil => exact List.forall_mem_singleton.2 (.inl rfl)
  | @snoc ps c₁ c₂ _ move ih =>
    cases hstack : c₁.stack with
    | nil => exact absurd hstack move.1
    | cons a rest =>
      rw [hstack] at ih
      obtain ⟨first, others⟩ := List.forall_mem_cons.1 ih
      rcases leaves_of_moves move hstack with ⟨-, ended⟩ | ⟨i, -, p, top, left, fresh, -⟩
      · exact ended ▸ others
      · rw [left, List.forall_mem_append]
        exact ⟨fun b hb => .inr (fresh b hb).found, List.forall_mem_cons.2 ⟨first, others⟩⟩

/-- What holds of the directives of all templates holds of those that are run. -/
theorem Path.makes_of_next? {P : Script Flow → Prop}
    (path : Path e limit (.start t job data) ps c) (ht : t.Makes P)
    (he : ∀ name u, e.template? name = some u → u.Makes P) {a : Activation}
    {rest : List Activation} (hstack : c.stack = a :: rest) {d : Directive}
    (next : a.next?.bind Instr.directive? = some d) : d.Makes P := by
  have inStack : a ∈ c.stack := hstack ▸ List.mem_cons_self
  obtain ⟨i, hi, hd⟩ := Option.bind_eq_some_iff.1 next
  have there : i ∈ a.code := List.mem_of_getElem? hi
  have program := (marked_of_path path).programs a inStack
  rw [program?_eq] at program
  rw [← Option.some.inj program] at there
  have inTemplate : d ∈ a.template.directives := Stmt.mem_directives_of_layoutAll _ there hd
  rcases path.template_of_mem a inStack with same | ⟨name, found⟩
  · rw [same] at inTemplate
    exact ht d inTemplate
  · exact he name _ found d inTemplate

/-- A directive that has been run and has let the render go on. -/
theorem Moves.performed (move : Moves e limit c c') {a : Activation} {rest : List Activation}
    (hstack : c.stack = a :: rest) {d : Directive}
    (next : a.next?.bind Instr.directive? = some d) :
    ∃ flow s, (Step.perform e a.template d).run c.state = (.ok flow, s) ∧ flow ≠ .halt ∧
      c'.state.response = s.response := by
  rcases move.executes hstack with ⟨none, -⟩ | ⟨i, hi, run⟩
  · rw [none] at next
    cases next
  rw [hi] at next
  obtain ⟨behind, executed, follows⟩ := execute_eq_bind e limit a rest next
  rw [executed] at run
  obtain ⟨flow, s, performed, run⟩ := bind_eq_ok run
  refine ⟨flow, s, performed, ?_⟩
  rcases follows flow with followed | ⟨rfl, stack, skipped⟩
  · rw [followed] at run
    refine ⟨?_, ?_⟩
    · rintro rfl
      cases run
    · have reserved : Reserved (follow e limit a.template d.span flow (a.advance :: rest)) :=
        reserved_layers.follow limit e _ _ _ flow fun _ _ => ⟨rfl, rfl⟩
      have response := (reserved s).1
      rwa [run] at response
  · rw [skipped] at run
    cases run
    exact ⟨nofun, rfl⟩

/-- A step with deliberate directives leaves the redirect alone. -/
theorem Moves.redirect (move : Moves e limit c c')
    (deliberate : ∀ a rest d, c.stack = a :: rest → a.next?.bind Instr.directive? = some d →
      d.Makes Script.Deliberate) :
    c'.state.response.redirect = c.state.response.redirect := by
  rcases move.deed.response with same | ⟨d, next⟩
  · exact congrArg Response.redirect same
  cases hstack : c.stack with
  | nil => exact absurd hstack move.1
  | cons a rest =>
    change c.next?.bind _ = _ at next
    rw [Config.next?, hstack] at next
    obtain ⟨flow, s, performed, unhalted, response⟩ := move.performed hstack next
    have sends := Step.sends_of_perform (deliberate a rest d hstack next) performed
    rw [response]
    cases flow with
    | halt => exact absurd rfl unhalted
    | _ => exact sends

/-- There is no redirect as long as a render with standard directives goes on. -/
theorem Path.redirect (path : Path e limit (.start t job data) ps c)
    (ht : t.Makes Script.Deliberate)
    (he : ∀ name u, e.template? name = some u → u.Makes Script.Deliberate) :
    c.state.response.redirect = none := by
  induction path with
  | nil => rfl
  | snoc path move ih =>
    rw [move.redirect fun a rest d hstack next => path.makes_of_next? ht he hstack next]
    exact ih

end Machine

end Stencil
