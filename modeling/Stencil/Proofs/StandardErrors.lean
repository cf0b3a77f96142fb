import Stencil.Proofs.ErrorPlaces

/-!
# The errors of standard functions and directives

The standard functions and directives fail with errors of their own, which have neither a name nor
a place. Only the directive for localized views hands on what the resolver of views fails with.

- `Script.Refuses`: what is known of all errors that a script may fail with.
- `Engine.refuses_standardDirectives`: those of the standard directives.
- `Engine.failsItself_standardFunctions`: the standard functions fail with their own errors.
- `Engine.isOwn_or_resolver`: what is handed on to a render with standard functions and directives.
-/

namespace Stencil

/-! ## Functions -/

theorem Markdown.Flavor.failsItself_read (name : String) : FailsItself (read name) :=
  .ite (.ok _) <| .ite (.ok _) <| .ite (.ok _) <| .ite (.ok _) <| .ite (.ok _) <|
    .error (Error.isOwn_arguments _)

namespace Filter

theorem failsItself_atMost (most : Nat) (name : String) (args : List Value) :
    FailsItself (atMost most name args) :=
  .ite (.error (Error.isOwn_ofCause nofun)) (.ok _)

theorem failsItself_subject (name : String) (v : Value) : FailsItself (subject name v) := by
  cases v with
  | text s => exact .ok _
  | _ => exact .error (Error.isOwn_ofCause nofun)

theorem failsItself_lower (v : Value) (args : List Value) : FailsItself (lower v args) :=
  .bind (failsItself_atMost _ _ _) fun _ => .bind (failsItself_subject _ _) fun _ => .ok _

theorem failsItself_upper (v : Value) (args : List Value) : FailsItself (upper v args) :=
  .bind (failsItself_atMost _ _ _) fun _ => .bind (failsItself_subject _ _) fun _ => .ok _

theorem failsItself_purify (v : Value) (args : List Value) : FailsItself (purify v args) := by
  refine .bind (failsItself_atMost _ _ _) fun _ => ?_
  cases v with
  | none => exact .ok _
  | _ => exact .bind (failsItself_subject _ _) fun _ => .ok _

theorem failsItself_markdown (L : Markdown.Library) (v : Value) (args : List Value) :
    FailsItself (markdown L v args) := by
  unfold markdown
  refine .bind (failsItself_atMost _ _ _) fun _ => ?_
  -- how the text is written does not depend on where it comes from
  extract_lets written
  have hwritten (text : String) : FailsItself (written text) := by
    dsimp only [written]
    split
    · exact .bind (.ok _) fun _ => .ite (.ok _) (.ok _)
    · exact .bind (.ok _) fun _ => .ite (.ok _) (.ok _)
    · exact .bind (Markdown.Flavor.failsItself_read _) fun _ => .ite (.ok _) (.ok _)
    · exact .error (Error.isOwn_ofCause nofun)
  split
  · exact .bind (.ok _) hwritten
  · exact .bind (failsItself_subject _ _) hwritten

end Filter

/-- The standard functions fail with errors of their own. -/
theorem Engine.failsItself_standardFunctions {name : String} {f : Filter}
    (found : Dict.get? name standardFunctions = some (.filter f)) (v : Value) (args : List Value) :
    FailsItself (f v args) := by
  have known : ∀ name function, Dict.get? name standardFunctions = some function →
      ∀ f, function = .filter f → FailsItself (f v args) := by
    refine Dict.forall_of_ofList ?_
    simp only [List.forall_mem_cons, List.not_mem_nil, false_imp_iff, implies_true, and_true]
    refine ⟨?_, ?_, ?_, ?_⟩ <;> rintro _ ⟨⟩
    · exact Filter.failsItself_lower v args
    · exact Filter.failsItself_upper v args
    · exact Filter.failsItself_markdown _ v args
    · exact Filter.failsItself_purify v args
  exact known name _ found f rfl

/-! ## Scripts -/

namespace Script

variable {α β : Type} {Q : Error → Prop} {resolver : Option ViewResolver}

/-- Something is known of all errors that a script may fail with. -/
def Refuses (resolver : Option ViewResolver) (Q : Error → Prop) (s : Script α) : Prop :=
  ∀ err, s.MayFail resolver err → Q err

theorem refuses_done (a : α) : Refuses resolver Q (.done a) := fun _ h => nomatch h

theorem refuses_refuse {err : Error} (h : Q err) : Refuses resolver Q (refuse err : Script α) := by
  rintro _ ⟨⟩
  exact h

theorem refuses_view {k : View → Script β}
    (h : ∀ v, v.resolver = resolver → Refuses resolver Q (k v)) :
    Refuses resolver Q (view >>= k) := by
  rintro err ⟨v, same, failed⟩
  exact h v same err failed

theorem refuses_put (text : String) {k : Unit → Script β} (h : Refuses resolver Q (k ())) :
    Refuses resolver Q (put text >>= k) := by
  rintro err ⟨accepted, failed⟩
  cases accepted with
  | true => exact h err failed
  | false => cases failed

theorem refuses_set (name : String) (value : Value) {k : Unit → Script β}
    (h : Refuses resolver Q (k ())) : Refuses resolver Q (set name value >>= k) := h

theorem refuses_modifyResponse (change : Response → Response) {k : Unit → Script β}
    (h : Refuses resolver Q (k ())) : Refuses resolver Q (modifyResponse change >>= k) := h

variable (own : ∀ err, err.IsOwn → Q err)

include own

theorem refuses_lift {r : Except Error α} (hr : FailsItself r) {k : α → Script β}
    (h : ∀ a, Refuses resolver Q (k a)) : Refuses resolver Q (lift r >>= k) := by
  cases r with
  | ok a => exact h a
  | error err => exact refuses_refuse (own err (hr err rfl))

theorem refuses_arguments (fault : ArgumentFault) :
    Refuses resolver Q (refuse (.arguments fault) : Script α) :=
  refuses_refuse (own _ (Error.isOwn_arguments fault))

end Script

/-! ## Directives -/

namespace Directive

open Script

variable {Q : Error → Prop} {resolver : Option ViewResolver}

theorem refuses_bindAll (bindings : List (String × Value)) :
    Refuses resolver Q (bindAll bindings) := by
  induction bindings with
  | nil => exact refuses_done _
  | cons binding rest ih => exact ih

theorem refuses_setBindings : set.Makes (Refuses resolver Q) := by
  rintro o f ⟨⟩ args
  exact refuses_bindAll args.bindings

theorem refuses_condition (holds : Request → List Value → Bool) :
    (Definition.condition holds).Makes (Refuses resolver Q) := by
  constructor
  · rintro o f ⟨⟩ args
    exact refuses_view fun v _ => refuses_done _
  · rintro o f ⟨⟩ args
    exact refuses_done _

theorem failsItself_status (v : Option Value) : FailsItself (status v) := by
  unfold status
  split
  · exact .ok _
  · exact .ok _
  · split
    · exact .ite (.ok _) (.error (Error.isOwn_arguments _))
    · exact .error (Error.isOwn_arguments _)

theorem failsItself_bindingName (argument : Option Value) (standard : String) :
    FailsItself (bindingName argument standard) := by
  unfold bindingName
  split
  · exact .ok _
  · exact .ok _
  · exact .ite (.error (Error.isOwn_arguments _)) (.ok _)
  · exact .error (Error.isOwn_arguments _)

theorem failsItself_markdownText (argument : Option Value) :
    FailsItself (markdownText argument) := by
  unfold markdownText
  split
  · exact .ok _
  · exact .ok _
  · exact .ok _
  · exact .error (Error.isOwn_arguments _)

theorem failsItself_markdownFlavor (standard : String) (argument : Option Value) :
    FailsItself (markdownFlavor standard argument) := by
  unfold markdownFlavor
  split
  · exact Markdown.Flavor.failsItself_read _
  · exact Markdown.Flavor.failsItself_read _
  · exact Markdown.Flavor.failsItself_read _
  · exact .error (Error.isOwn_arguments _)

theorem failsItself_sanitizer (v : Value) : FailsItself (Markdown.Sanitizer.read v) := by
  unfold Markdown.Sanitizer.read
  split
  · exact .ok _
  · dsimp only
    split
    · exact .ok _
    · exact .ok _
    · exact .error (Error.isOwn_arguments _)
  · exact .error (Error.isOwn_arguments _)

theorem failsItself_localized (args : List Value) : FailsItself (Localized.arguments args) := by
  unfold Localized.arguments
  dsimp only
  split
  · refine .ite (.error (Error.isOwn_arguments _)) ?_
    split
    · exact .ite (.error (Error.isOwn_arguments _)) (.ok _)
    · exact .ite (.error (Error.isOwn_arguments _)) (.ok _)
    · exact .ite (.error (Error.isOwn_arguments _)) (.ok _)
    · exact .error (Error.isOwn_arguments _)
  · exact .error (Error.isOwn_arguments _)

theorem failsItself_positiveAt (entries : Dict Value) (name : String) (fault : ArgumentFault) :
    FailsItself (PageConfig.positiveAt entries name fault) := by
  unfold PageConfig.positiveAt
  split
  · exact .ok _
  · split
    · exact .ok _
    · exact .error (Error.isOwn_arguments _)

theorem failsItself_pageConfig (v : Value) : FailsItself (PageConfig.read v) := by
  cases v with
  | none => exact .ok _
  | map entries =>
    exact .bind (failsItself_positiveAt _ _ _) fun _ => .bind (failsItself_positiveAt _ _ _)
      fun _ => .ok _
  | _ => exact .error (Error.isOwn_arguments _)

/-- A page of a query cannot be had if the store fails. -/
theorem failsItself_page (q : Query) (config : PageConfig) (requested : Option Int) (size : Nat) :
    FailsItself (q.page config requested size) := by
  unfold Query.page
  refine .bind ?_ fun total => .bind ?_ fun rows => .ok _
  · cases q.count with
    | ok count => exact .ok _
    | error text => exact .error (Error.isOwn_ofCause nofun)
  · dsimp only
    split
    · exact .ok _
    · exact .error (Error.isOwn_ofCause nofun)

variable (own : ∀ err, err.IsOwn → Q err)

include own

theorem refuses_header : header.Makes (Refuses resolver Q) := by
  refine makes_ofCall fun args => ?_
  unfold runHeader
  split
  · exact refuses_arguments own _
  · dsimp only
    split
    · exact refuses_arguments own _
    · exact refuses_modifyResponse _ (refuses_done _)
  · exact refuses_arguments own _

theorem refuses_redirect : redirect.Makes (Refuses resolver Q) := by
  refine makes_ofCall fun args => ?_
  unfold runRedirect
  split
  · split
    · exact refuses_arguments own _
    · exact refuses_lift own (failsItself_status _) fun _ =>
        refuses_modifyResponse _ (refuses_done _)
  · exact refuses_arguments own _

theorem refuses_require (passes : Request → Bool) {cause : Cause}
    (within : ∀ limit, cause ≠ .includeDepth limit) :
    Refuses resolver Q (require passes cause) := by
  refine refuses_view fun v _ => ?_
  split
  · exact refuses_done _
  · exact refuses_refuse (own _ (Error.isOwn_ofCause within))

theorem refuses_requirePermission : requirePermission.Makes (Refuses resolver Q) := by
  refine makes_ofCall fun args => ?_
  split
  · exact refuses_require own _ nofun
  · exact refuses_arguments own _

theorem refuses_markdown (L : Markdown.Library) : (markdown L).Makes (Refuses resolver Q) := by
  rintro o f ⟨⟩ args
  exact refuses_view fun _ _ => refuses_lift own (failsItself_markdownText _) fun _ =>
    refuses_lift own (failsItself_markdownFlavor _ _) fun _ =>
      refuses_lift own (failsItself_sanitizer _) fun _ => refuses_put _ (refuses_done _)

/-- The directive for localized views hands on what the resolver fails with. -/
theorem refuses_includeLocalized
    (handed : ∀ resolve candidates data err, resolver = some resolve →
      resolve candidates data = .error (.error err) → Q err) :
    includeLocalized.Makes (Refuses resolver Q) := by
  rintro o f ⟨⟩ args
  refine refuses_lift own (failsItself_localized _) fun ⟨name, data⟩ =>
    refuses_view fun v same => ?_
  dsimp only
  split
  · next resolve known =>
    split
    · exact refuses_put _ (refuses_done _)
    · next failed =>
      rintro err rfl
      exact handed resolve _ _ err (same.symm.trans known) failed
  · split
    · exact refuses_done _
    · exact refuses_refuse (own _ (Error.isOwn_ofCause nofun))

theorem refuses_paginate : paginate.Makes (Refuses resolver Q) := by
  rintro o f ⟨⟩ args
  have bound (rowsName infoName : String) (q : Query) (config : PageConfig)
      (requested : Option Int) (size : Nat) :
      Refuses resolver Q (bindPage rowsName infoName (q.page config requested size)) :=
    refuses_lift own (failsItself_page _ _ _ _) fun _ =>
      refuses_set _ _ (refuses_set _ _ (refuses_done _))
  refine refuses_view fun v _ => refuses_lift own (failsItself_bindingName _ _) fun rowsName =>
    refuses_lift own (failsItself_bindingName _ _) fun infoName =>
      refuses_lift own (failsItself_pageConfig _) fun config => ?_
  dsimp only
  split
  · split
    · exact refuses_arguments own _
    · split
      · exact refuses_arguments own _
      · exact bound _ _ _ _ _ _
  · exact bound _ _ _ _ _ _
  · exact refuses_arguments own _

end Directive

/-! ## Engines -/

namespace Engine

variable {Q : Error → Prop} {resolver : Option ViewResolver}

/-- The standard directives fail with errors of their own or with what the resolver fails with. -/
theorem refuses_standardDirectives (own : ∀ err, err.IsOwn → Q err)
    (handed : ∀ resolve candidates data err, resolver = some resolve →
      resolve candidates data = .error (.error err) → Q err) (name : String) (d : Definition)
    (found : Dict.get? name standardDirectives = some d) : d.Makes (Script.Refuses resolver Q) := by
  refine Dict.forall_of_ofList ?_ name d found
  simp only [List.forall_mem_cons, List.not_mem_nil, false_imp_iff, implies_true, and_true]
  exact ⟨Directive.refuses_setBindings, Directive.refuses_header own,
    Directive.refuses_redirect own, Directive.refuses_markdown own _,
    Directive.makes_ofCall fun _ => Directive.refuses_require own _ nofun,
    Directive.makes_ofCall fun _ => Directive.refuses_require own _ nofun,
    Directive.makes_ofCall fun _ => Directive.refuses_require own _ nofun,
    Directive.refuses_requirePermission own, Directive.refuses_condition _,
    Directive.refuses_condition _, trivial, Directive.refuses_includeLocalized own handed,
    Directive.refuses_paginate own⟩

variable {e : Engine} {t : Template}

/-- A function or a directive hands on an error of its own or what the resolver fails with. -/
theorem isOwn_or_resolver (functions : e.functions = standardFunctions) (he : e.IsStandard)
    (ht : t.IsStandard) {err : Error} (hands : e.Hands t err) :
    err.IsOwn ∨ ∃ resolve candidates data, e.resolver = some resolve ∧
      resolve candidates data = .error (.error err) := by
  cases hands with
  | function found failed =>
    rw [functions] at found
    exact .inl (failsItself_standardFunctions found _ _ err failed)
  | @directive d args _ runs failed =>
    have standard {u : Template} (hu : u.IsStandard) (mem : d ∈ u.directives) :
        d.Makes (Script.Refuses e.resolver fun err => err.IsOwn ∨ ∃ resolve candidates data,
          e.resolver = some resolve ∧ resolve candidates data = .error (.error err)) :=
      hu.makes_of_definitions (refuses_standardDirectives (fun _ own => .inl own)
        fun resolve candidates data _ known given => .inr ⟨resolve, candidates, data, known, given⟩)
        d mem
    rcases runs with mem | ⟨name, u, found, mem⟩
    · exact standard ht mem args err failed
    · exact standard (he.templates name u found) mem args err failed

end Engine

end Stencil
