import Stencil.Gallery.Resolvers
import Stencil.Proofs.IncludeDepth
import Stencil.Proofs.LocalizedViews
import Stencil.Proofs.SourcePlaces
import Stencil.Proofs.StandardErrors

/-!
# Excerpts of errors

An error with the name of a template and an excerpt points into the source of this template, unless
a function or a directive has handed on an error that points elsewhere.

- `Engine.Points`: an error points into the template that it names.
- `Engine.Joint`: it does, and it has a name if and only if it has an excerpt.
- `Engine.points_of_render`: the errors of a render point into the templates that they name if those
  that are handed on are joint.
- `Engine.not_points_resolving`: a resolver hands on an error that points elsewhere.
-/

namespace Stencil

namespace Engine

/-- If an error has a name and an excerpt, a template is kept under the name and the excerpt is a
region of its source. -/
def Points (e : Engine) (err : Error) : Prop :=
  ∀ name x, err.template = some name → err.excerpt = some x →
    ∃ u, e.template? name = some u ∧ x.source = u.source ∧ (Text.slice x.span u.source).isSome

/-- An error has a name if and only if it has an excerpt, and then points into the template that it
names. -/
structure Joint (e : Engine) (err : Error) : Prop where
  both : err.template.isSome ↔ err.excerpt.isSome
  points : e.Points err

variable {e : Engine}

theorem joint_ofCause (e : Engine) (cause : Cause) : e.Joint (.ofCause cause) := ⟨.rfl, nofun⟩

end Engine

/-- What is not located is located in the template that it is named after. -/
theorem Error.ArisesIn.points {e : Engine} {t u : Template} {err : Error}
    (h : err.ArisesIn (e.Raises t) u u.places)
    (joint : ∀ origin, e.Raises t origin → e.Joint origin) (compiled : u.IsCompiled)
    (kept : ∀ name, u.name = some name → e.template? name = some u) :
    e.Points err := by
  obtain ⟨origin, span, raised, hspan, rfl⟩ := h
  obtain ⟨both, points⟩ := joint origin raised
  cases hx : origin.excerpt with
  | some x =>
    -- the error has its place and its name already
    have hasExcerpt : origin.excerpt.isSome := by rw [hx]; rfl
    rw [locate_of_isSome hasExcerpt, inTemplate_of_isSome (both.2 hasExcerpt)]
    exact points
  | none =>
    have unnamed : origin.template = none := by
      rw [hx] at both
      exact Option.not_isSome_iff_eq_none.1 fun named => nomatch both.1 named
    intro name x hname hexcerpt
    rw [excerpt_inTemplate, locate, hx] at hexcerpt
    cases hu : u.name with
    | none =>
      rw [hu, inTemplate_none, template_locate, unnamed] at hname
      cases hname
    | some n =>
      rw [hu, inTemplate, template_locate, unnamed] at hname
      cases hname
      refine ⟨u, kept _ hu, ?_⟩
      split at hexcerpt
      · cases hexcerpt
        exact ⟨rfl, (compiled.places_fit span hspan).slice⟩
      · rw [hx] at hexcerpt
        cases hexcerpt

namespace Engine

variable {e : Engine} {t : Template} {job : Job} {err : Error}

/-- An error of a render points into the template that it names if the functions and the directives
hand on joint errors only. The template that is rendered is kept under its name if it has one. -/
theorem points_of_render (he : e.Registered) (ht : t.IsCompiled)
    (kept : ∀ name, t.name = some name → e.template? name = some t)
    (hdata : ∀ origin, job.data = .error origin → e.Points origin)
    (joint : ∀ origin, e.Hands t origin → e.Joint origin)
    (failed : (e.render t job).result = .error (.error err)) : e.Points err := by
  rcases exists_run_of_error failed with ⟨s, stopped⟩ | rfl
  · cases data : job.data with
    | error origin =>
      unfold run at stopped
      rw [data] at stopped
      cases stopped
      exact hdata _ data
    | ok v =>
      rcases arises_of_run data stopped with rfl | ⟨u, active, -, arises⟩
      · exact (joint_ofCause e _).points
      · refine arises.points (fun origin raised => ?_) (he.isCompiled ht active)
          fun name named => ?_
        · cases raised with
          | own own =>
            obtain ⟨cause, -, rfl⟩ := own
            exact joint_ofCause e cause
          | handed hands => exact joint origin hands
        · rcases active with rfl | ⟨key, found⟩
          · exact kept name named
          · cases (he key u found).1.symm.trans named
            exact found
  · exact (joint_ofCause e _).points

/-- An engine with a template and the one that it includes. -/
def enclosing : Engine :=
  { Engine.new .standard with templates := [("small", .small), ("enclosing", .enclosing)] }

theorem registered_enclosing : enclosing.Registered :=
  registered_of_forall (List.forall_mem_cons.2 ⟨⟨rfl, _, Template.compile_small [] _⟩,
    List.forall_mem_singleton.2 ⟨rfl, _, Template.compile_enclosing []⟩⟩)

theorem isStandard_enclosing : enclosing.IsStandard := by
  have language := (isStandard_new .standard).language
  have all : ∀ entry ∈ enclosing.templates, entry.2.IsStandard :=
    List.forall_mem_cons.2 ⟨⟨_, _, _, language, Template.compile_small _ _⟩,
      List.forall_mem_singleton.2 ⟨_, _, _, language, Template.compile_enclosing _⟩⟩
  exact ⟨language, fun _ _ found => all _ (Dict.mem_of_get? found)⟩

/-- The variable that the included template reads does not exist. -/
theorem points_of_render_enclosing :
    let x : Excerpt := ⟨Template.small.source, ⟨3, 4⟩⟩
    ∃ err, (enclosing.render .enclosing (.ofData (.map []))).result = .error (.error err) ∧
      err.template = some "small" ∧ err.excerpt = some x ∧
      ∃ u, enclosing.template? "small" = some u ∧ x.source = u.source ∧
        (Text.slice x.span u.source).isSome := by
  intro x
  have compiled : Template.enclosing.IsCompiled := ⟨_, Template.compile_enclosing []⟩
  have kept (name : String) (named : Template.enclosing.name = some name) :
      enclosing.template? name = some .enclosing := by
    cases named
    rfl
  have hdata (origin : Error) (given : (Job.ofData (.map [])).data = .error origin) :
      enclosing.Points origin := by
    cases given
  have joint (origin : Error) (hands : enclosing.Hands .enclosing origin) :
      enclosing.Joint origin := by
    have standard := isStandard_enclosing.templates "enclosing" .enclosing rfl
    rcases isOwn_or_resolver rfl isStandard_enclosing standard hands with
      ⟨cause, -, rfl⟩ | ⟨_, _, _, known, -⟩
    · exact joint_ofCause enclosing cause
    · cases known
  have failed : (enclosing.render .enclosing (.ofData (.map []))).result = .error (.error
    ((Error.renderAt .notInScope Template.small.source ⟨3, 4⟩).inTemplate (some "small"))) := rfl
  exact ⟨_, failed, rfl, rfl,
    points_of_render registered_enclosing compiled kept hdata joint failed "small" x rfl rfl⟩

end Engine

/-! ## A resolver that renders sources -/

/-- A template that includes a view. -/
def Template.outer : Template where
  name := some "outer"
  source := Localized.includeSource
  body := [.directive (Localized.includeDirective "outer")]

/-- An engine with this template, whose resolver takes views for sources of templates. -/
def Engine.resolving : Engine :=
  { Engine.new .standard with
    resolver := some Resolver.ofSources
    templates := [("outer", .outer)] }

/-- A view that reads a variable, and no data for it. -/
def Engine.resolvingData : Value :=
  .map [("data", .map []), ("view", .text Template.small.source)]

/-- The resolver fails with an error that has a place and no name. -/
theorem Resolver.ofSources_small :
    ofSources [Template.small.source] (.map []) =
      .error (.error (.renderAt .notInScope Template.small.source ⟨3, 4⟩)) := by
  have compiled : (Engine.new .standard).compile Template.small.source =
      .ok { Template.small with name := none } := Template.compile_small _ none
  simp only [ofSources, List.getLast?_singleton, Option.getD_some, compiled]
  rfl

namespace Engine

open Render Localized

/-- The error of the view is named after the template that includes it. -/
theorem result_resolving :
    (resolving.render .outer (.ofData resolvingData)).result = .error (.error
      ((Error.renderAt .notInScope Template.small.source ⟨3, 4⟩).inTemplate (some "outer"))) := by
  let e := resolving
  let δ := includeDirective "outer"
  let s : RenderState := (Job.ofData resolvingData).initial resolvingData
  have arguments : (Step.arguments e .outer δ.args).run s =
      (.ok (includeValues Template.small.source []), s) :=
    run_arguments_include rfl rfl rfl rfl
  have asked : ((δ.run (includeValues Template.small.source [])).run e δ.origin).run s =
      (.error (.failed (.renderAt .notInScope Template.small.source ⟨3, 4⟩)), s) := by
    have looked : (Render.view e δ.origin).run s = (.ok (s.view e δ.origin), s) := rfl
    have resolver : (s.view e δ.origin).resolver = some Resolver.ofSources := rfl
    have tried : candidates (s.view e δ.origin).request.locale Template.small.source =
      [Template.small.source] := rfl
    show ((Directive.runLocalized _).run e δ.origin).run s = _
    rw [Directive.runLocalized, arguments_include (by decide)]
    refine (run_bind_ok looked).trans ?_
    simp only [Script.bind, resolver, tried, Resolver.ofSources_small]
    rfl
  have performed : (Step.perform e .outer δ).run s =
      (.error (.failed ((Error.renderAt .notInScope Template.small.source ⟨3, 4⟩).inTemplate
        (some "outer"))), s) := by
    rw [Step.perform, run_named, run_bind_ok arguments, Step.run_locatedAt, asked]
    rfl
  have run : e.run .outer (.ofData resolvingData) =
      (Stmt.render e (Template.renderAt e 64 63) .outer (.directive δ)).run s :=
    run_renderAll_singleton e _ .outer _ s
  show (Outcome.ofRun "" (e.run .outer (.ofData resolvingData))).result = _
  rw [run, Stmt.render, run_bind_error performed]
  rfl

/-- A resolver hands on an error with a place in another source and without a name, which is then
named after the template that includes the view. -/
theorem not_points_resolving :
    resolving.Registered ∧ Template.outer.IsCompiled ∧
      resolving.template? "outer" = some .outer ∧
      ∃ err, (resolving.render .outer (.ofData resolvingData)).result = .error (.error err) ∧
        ¬ resolving.Points err := by
  have compiled : Template.outer.IsCompiled :=
    ⟨resolving.language, Template.compile_includeLocalized rfl rfl (some "outer")⟩
  refine ⟨registered_of_forall (List.forall_mem_singleton.2 ⟨rfl, compiled⟩), compiled, rfl, _,
    result_resolving, fun points => ?_⟩
  obtain ⟨u, found, same, -⟩ := points "outer" ⟨Template.small.source, ⟨3, 4⟩⟩ rfl rfl
  cases found
  revert same
  decide

end Engine

end Stencil
