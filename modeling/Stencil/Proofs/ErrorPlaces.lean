import Stencil.Proofs.Places
import Stencil.Proofs.Redirects

/-!
# Where errors arise

An error of a render is one of the renderer itself, or a function or a directive has failed with
it. It is located at a place of the template that is active, and named after this template. Only
the limit on active templates is reported without a place.

- `Error.IsOwn`: an error of the renderer itself.
- `Engine.Hands`, `Engine.Raises`: the errors that are handed on, and all that are located.
- `Error.ArisesIn`: an error is located at a place of a template and named after it.
- `Render.FailsOnly`: all errors of a computation are of some kind.
- `Machine.arises_of_step`: where the errors of a step arise.
- `Engine.arises_of_run`: where the errors of a render arise.
-/

namespace Stencil

/-! ## Errors -/

/-- An error has neither a name nor a place, and is not that of the limit on active templates. -/
def Error.IsOwn (err : Error) : Prop :=
  ∃ cause, (∀ limit, cause ≠ .includeDepth limit) ∧ err = .ofCause cause

theorem Error.isOwn_ofCause {cause : Cause} (h : ∀ limit, cause ≠ .includeDepth limit) :
    (ofCause cause).IsOwn := ⟨cause, h, rfl⟩

theorem Error.isOwn_arguments (fault : ArgumentFault) : (arguments fault).IsOwn :=
  isOwn_ofCause nofun

/-- The error of a result, if there is one, has neither a name nor a place. -/
def FailsItself {α : Type} (r : Except Error α) : Prop := ∀ err, r = .error err → err.IsOwn

namespace FailsItself

variable {α β : Type}

theorem ok (a : α) : FailsItself (.ok a) := fun _ h => nomatch h

theorem error {err : Error} (h : err.IsOwn) : FailsItself (.error err : Except Error α) := by
  rintro _ ⟨⟩
  exact h

theorem bind {r : Except Error α} {f : α → Except Error β} (hr : FailsItself r)
    (hf : ∀ a, FailsItself (f a)) : FailsItself (r >>= f) := by
  cases r with
  | error err => exact error (hr err rfl)
  | ok a => exact hf a

theorem ite {p : Prop} [Decidable p] {r r' : Except Error α} (h : FailsItself r)
    (h' : FailsItself r') : FailsItself (if p then r else r') := by
  split
  · exact h
  · exact h'

end FailsItself

/-- A script may fail with an error, given what it sees and how it is answered. What it sees has
the given resolver. -/
def Script.MayFail {α : Type} (resolver : Option ViewResolver) : Script α → Error → Prop
  | .done _, _ => False
  | .fail f, err => f = .error err
  | .full, _ => False
  | .look next, err => ∃ v, v.resolver = resolver ∧ (next v).MayFail resolver err
  | .write _ next, err => ∃ accepted, (next accepted).MayFail resolver err
  | .assign _ _ next, err => next.MayFail resolver err
  | .respond _ next, err => next.MayFail resolver err
  | .limit _ _ next, err => next.MayFail resolver err
  | .ask _ next, err => ∃ answer, (next answer).MayFail resolver err

/-- A directive of a template or of one of the engine. -/
def Engine.Runs (e : Engine) (t : Template) (d : Directive) : Prop :=
  d ∈ t.directives ∨ ∃ name u, e.template? name = some u ∧ d ∈ u.directives

/-- An error with which a function or a directive fails when a template is rendered. -/
inductive Engine.Hands (e : Engine) (t : Template) : Error → Prop
  | function {name : String} {f : Filter} {v : Value} {args : List Value} {err : Error}
      (found : Dict.get? name e.functions = some (.filter f)) (failed : f v args = .error err) :
      Hands e t err
  | directive {d : Directive} {args : Args} {err : Error} (runs : e.Runs t d)
      (failed : (d.run args).MayFail e.resolver err) : Hands e t err

/-- An error as it arises: one of the renderer itself, but for the limit on active templates, or one
that a function or a directive hands on. -/
inductive Engine.Raises (e : Engine) (t : Template) : Error → Prop
  | own {err : Error} (own : err.IsOwn) : Raises e t err
  | handed {err : Error} (hands : e.Hands t err) : Raises e t err

@[simp] theorem Error.excerpt_inTemplate (err : Error) (name : Option String) :
    (err.inTemplate name).excerpt = err.excerpt := by
  cases name with
  | none => rfl
  | some n => simp only [inTemplate]; split <;> rfl

@[simp] theorem Error.template_locate (err : Error) (source : String) (span : Span) :
    (err.locate source span).template = err.template := by
  unfold locate; split <;> rfl

/-- An error is located at one of some places of a source. -/
def Error.ArisesAt (Q : Error → Prop) (source : String) (places : List Span) (err : Error) : Prop :=
  ∃ origin span, Q origin ∧ span ∈ places ∧ err = origin.locate source span

/-- An error is located at one of some places of a template and named after it. -/
def Error.ArisesIn (Q : Error → Prop) (t : Template) (places : List Span) (err : Error) : Prop :=
  ∃ origin span, Q origin ∧ span ∈ places ∧ err = (origin.locate t.source span).inTemplate t.name

theorem Error.ArisesAt.mono {Q : Error → Prop} {source : String} {places places' : List Span}
    {err : Error} (h : ArisesAt Q source places err) (subset : places ⊆ places') :
    ArisesAt Q source places' err := by
  obtain ⟨origin, span, hQ, hspan, rfl⟩ := h
  exact ⟨origin, span, hQ, subset hspan, rfl⟩

theorem Error.ArisesIn.mono {Q : Error → Prop} {t : Template} {places places' : List Span}
    {err : Error} (h : ArisesIn Q t places err) (subset : places ⊆ places') :
    ArisesIn Q t places' err := by
  obtain ⟨origin, span, hQ, hspan, rfl⟩ := h
  exact ⟨origin, span, hQ, subset hspan, rfl⟩

/-! ## Computations -/

namespace Render

variable {α β : Type} {P P' : Error → Prop}

/-- All errors with which a computation fails are of some kind. -/
def FailsOnly (P : Error → Prop) (m : Render α) : Prop :=
  ∀ s err s', m.run s = (.error (.failed err), s') → P err

theorem FailsOnly.mono {m : Render α} (h : FailsOnly P m) (hP : ∀ err, P err → P' err) :
    FailsOnly P' m :=
  fun s err s' failed => hP err (h s err s' failed)

theorem failsOnly_pure (a : α) : FailsOnly P (pure a : Render α) := by
  intro s err s' h
  cases h

theorem failsOnly_fail {err : Error} (h : P err) :
    FailsOnly P (throw (.failed err) : Render α) := by
  intro s err s' failed
  cases failed
  exact h

theorem failsOnly_throw {stop : Stop} (h : ∀ err, stop ≠ .failed err) :
    FailsOnly P (throw stop : Render α) := by
  intro s err s' failed
  cases failed
  exact absurd rfl (h err)

theorem failsOnly_modify (f : RenderState → RenderState) :
    FailsOnly P (modify f : Render PUnit) := by
  intro s err s' h
  cases h

theorem FailsOnly.bind {m : Render α} {k : α → Render β} (hm : FailsOnly P m)
    (hk : ∀ a, FailsOnly P (k a)) : FailsOnly P (m >>= k) := by
  intro s err s' failed
  rcases h : m.run s with ⟨stop | a, s₁⟩
  · rw [run_bind_error h] at failed
    cases failed
    exact hm s err _ h
  · rw [run_bind_ok h] at failed
    exact hk a s₁ err s' failed

theorem failsOnly_get {k : RenderState → Render α} (hk : ∀ s, FailsOnly P (k s)) :
    FailsOnly P (get >>= k) := by
  intro s err s' failed
  rw [run_get_bind] at failed
  exact hk s s err s' failed

theorem failsOnly_lift {r : Except Failure α} (h : ∀ err, r = .error (.error err) → P err) :
    FailsOnly P (lift r) := by
  rcases r with (err | _) | a
  · exact failsOnly_fail (h err rfl)
  · exact failsOnly_throw fun _ h => nomatch h
  · exact failsOnly_pure a

/-- Errors are named after a template. -/
theorem FailsOnly.named {m : Render α} {name : Option String} (hm : FailsOnly P m)
    (hP : ∀ err, P err → P' (err.inTemplate name)) : FailsOnly P' (Render.named name m) := by
  intro s err s' failed
  rw [run_named] at failed
  rcases h : m.run s with ⟨stop | a, s₁⟩
  · rw [h] at failed
    cases stop with
    | failed origin =>
      cases failed
      exact hP origin (hm s origin _ h)
    | _ => cases failed
  · rw [h] at failed
    cases failed

/-- Errors are located at a place. -/
theorem FailsOnly.locatedAt {m : Render α} {source : String} {span : Span} (hm : FailsOnly P m)
    (hP : ∀ err, P err → P' (err.locate source span)) :
    FailsOnly P' (Step.locatedAt source span m) := by
  intro s err s' failed
  rw [Step.run_locatedAt] at failed
  rcases h : m.run s with ⟨stop | a, s₁⟩
  · rw [h] at failed
    cases stop with
    | failed origin =>
      cases failed
      exact hP origin (hm s origin _ h)
    | _ => cases failed
  · rw [h] at failed
    cases failed

theorem failsOnly_offer (text : String) : FailsOnly P (offer text) := by
  intro s err s' failed
  rw [run_offer] at failed
  split at failed <;> cases failed

theorem failsOnly_write (text : String) : FailsOnly P (write text) := by
  refine (failsOnly_offer text).bind fun accepted => ?_
  cases accepted with
  | true => exact failsOnly_pure ()
  | false => exact failsOnly_throw fun _ h => nomatch h

/-- A call to the store fails with what the store reports. -/
theorem failsOnly_call (hP : ∀ text, P (.ofCause (.store text))) (c : StoreCall)
    (ask : List StoreCall → Except String α) : FailsOnly P (call c ask) := by
  intro s err s' failed
  rw [run_call] at failed
  cases answer : ask s.calls with
  | ok a =>
    rw [answer] at failed
    cases failed
  | error text =>
    rw [answer] at failed
    cases failed
    exact hP text

theorem failsOnly_ask (store : Option CacheStore) (c : StoreCall) : FailsOnly P (ask store c) := by
  intro s err s' failed
  obtain ⟨answer, w, asked⟩ := exists_run_ask store c s
  cases failed.symm.trans asked

theorem failsOnly_setLimit (query : String) (limit : Option Nat) :
    FailsOnly P (setLimit query limit) := failsOnly_modify _

end Render

/-! ## Expressions -/

section

variable {e : Engine} {t : Template} {source : String} {places : List Span} {err : Error}

/-- A fault of the renderer, at one of the places. -/
theorem Error.arisesAt_fault {span : Span} (fault : RenderFault) (h : span ∈ places) :
    ArisesAt (e.Raises t) source places (.renderAt fault source span) :=
  ⟨.ofCause (.rendering fault), span, .own (isOwn_ofCause nofun), h, rfl⟩

theorem Member.place_of_follow {fault : RenderFault} {span : Span} :
    ∀ (ms : List Member) {v : Value}, follow ms v = .error (fault, span) →
      span ∈ ms.map fun m => m.access.span
  | [], _, h => by cases h
  | m :: ms, v, h => by
    rw [follow] at h
    split at h
    · exact List.mem_cons_of_mem _ (place_of_follow ms h)
    · cases h
    · cases h
      exact List.mem_cons_self

theorem arisesAt_of_located {α : Type} {r : Except (RenderFault × Span) α}
    (h : located source r = .error (.error err))
    (hr : ∀ fault span, r = .error (fault, span) → span ∈ places) :
    err.ArisesAt (e.Raises t) source places := by
  rcases r with ⟨fault, span⟩ | a
  · cases h
    exact Error.arisesAt_fault fault (hr fault span rfl)
  · cases h

/-- A function of an engine fails at the place of its name. -/
theorem arisesAt_of_function {name : String} {f : Filter} {v : Value} {args : List Value}
    {span : Span} (found : Dict.get? name e.functions = some (.filter f))
    (h : located? source span (f v args) = .error (.error err)) (hspan : span ∈ places) :
    err.ArisesAt (e.Raises t) source places := by
  cases failed : f v args with
  | ok w =>
    rw [failed] at h
    cases h
  | error origin =>
    rw [failed] at h
    cases h
    exact ⟨origin, span, .handed (.function found failed), hspan, rfl⟩

theorem Scope.arisesAt_of_value {s : Scope} {first : Ident} {path : List Member}
    (h : s.value source first path = .error (.error err)) :
    err.ArisesAt (e.Raises t) source (Expr.variable first path).places := by
  unfold Scope.value at h
  split at h
  · cases h
  · cases h
    exact Error.arisesAt_fault _ List.mem_cons_self
  · refine arisesAt_of_located h fun fault span failed => List.mem_cons_of_mem _ ?_
    exact Member.place_of_follow path failed

namespace Expr

variable {s : Scope}

mutual

/-- An error in an expression arises at one of its places. -/
theorem arisesAt_of_evaluate (hs : s.functions = e.functions) :
    ∀ (x : Expr) {err : Error}, x.evaluate s source = .error (.error err) →
      err.ArisesAt (e.Raises t) source x.places
  | .variable _ _, _, h => Scope.arisesAt_of_value h
  | .literal _ _, _, h => by cases h
  | .list items _, _, h => by
    rw [evaluate] at h
    split at h
    · cases h
    · next failed =>
      cases h
      exact arisesAt_of_evaluateAll hs items failed
  | .map entries _, _, h => by
    rw [evaluate] at h
    split at h
    · cases h
    · next failed =>
      cases h
      exact arisesAt_of_evaluateEntries hs entries failed
  | .filter receiver name args _, _, h => by
    rw [evaluate] at h
    split at h
    · next failed =>
      cases h
      exact (arisesAt_of_evaluate hs receiver failed).mono
        (List.subset_cons_of_subset _ (List.subset_append_left _ _))
    split at h
    · next f found =>
      split at h
      · next failed =>
        cases h
        exact (arisesAt_of_evaluateAll hs args failed).mono
          (List.subset_cons_of_subset _ (List.subset_append_right _ _))
      · exact arisesAt_of_function (hs ▸ found) h List.mem_cons_self
    · cases h
      exact Error.arisesAt_fault _ List.mem_cons_self
    · cases h
      exact Error.arisesAt_fault _ List.mem_cons_self

theorem arisesAt_of_evaluateAll (hs : s.functions = e.functions) :
    ∀ (xs : List Expr) {err : Error}, evaluateAll s source xs = .error (.error err) →
      err.ArisesAt (e.Raises t) source (placesAll xs)
  | [], _, h => by cases h
  | x :: xs, _, h => by
    rw [evaluateAll] at h
    split at h
    · next failed =>
      cases h
      exact (arisesAt_of_evaluate hs x failed).mono (List.subset_append_left _ _)
    split at h
    · next failed =>
      cases h
      exact (arisesAt_of_evaluateAll hs xs failed).mono (List.subset_append_right _ _)
    · cases h

theorem arisesAt_of_evaluateEntries (hs : s.functions = e.functions) :
    ∀ (es : List (String × Expr)) {err : Error}, evaluateEntries s source es = .error (.error err) →
      err.ArisesAt (e.Raises t) source (placesEntries es)
  | [], _, h => by cases h
  | (_, x) :: es, _, h => by
    rw [evaluateEntries] at h
    split at h
    · next failed =>
      cases h
      exact (arisesAt_of_evaluate hs x failed).mono (List.subset_append_left _ _)
    split at h
    · next failed =>
      cases h
      exact (arisesAt_of_evaluateEntries hs es failed).mono (List.subset_append_right _ _)
    · cases h

end

end Expr

theorem DirectiveArgs.arisesAt_of_evaluate {s : Scope} (hs : s.functions = e.functions)
    {args : DirectiveArgs} (h : args.evaluate s source = .error (.error err)) :
    err.ArisesAt (e.Raises t) source args.places := by
  cases args with
  | none => cases h
  | call values =>
    rw [evaluate] at h
    split at h
    · cases h
    · next failed =>
      cases h
      exact Expr.arisesAt_of_evaluateAll hs values failed
  | assign bindings =>
    rw [evaluate] at h
    split at h
    · cases h
    · next failed =>
      cases h
      exact Expr.arisesAt_of_evaluateAll hs _ failed

/-- What has no rounds is reported at the loop variables or at the value. -/
theorem LoopVars.place_of_rounds {vars : LoopVars} {v : Value} {span span' : Span}
    {fault : RenderFault} (h : vars.rounds v span = .error (fault, span')) :
    span' = vars.place ∨ span' = span := by
  unfold rounds at h
  split at h <;> cases h
  · exact .inl rfl
  · exact .inl rfl
  · exact .inr rfl

end

/-- The errors of the scripts that a directive runs. -/
theorem Script.failsOnly_run {α : Type} {P : Error → Prop} {e : Engine} {origin : Origin} :
    ∀ {s : Script α}, (∀ err, s.MayFail e.resolver err → P err) →
      Render.FailsOnly P (s.run e origin)
  | .done a, _ => Render.failsOnly_pure a
  | .fail f, h => Render.failsOnly_lift (r := .error f) fun err failed => by
      cases failed
      exact h err rfl
  | .full, _ => Render.failsOnly_throw fun _ h => nomatch h
  | .look _, h => Render.failsOnly_get fun s =>
      failsOnly_run fun err failed => h err ⟨s.view e origin, rfl, failed⟩
  | .write text _, h => (Render.failsOnly_offer text).bind fun accepted =>
      failsOnly_run fun err failed => h err ⟨accepted, failed⟩
  | .assign _ _ next, h => (Render.failsOnly_modify _).bind fun _ => failsOnly_run (s := next) h
  | .respond _ next, h => (Render.failsOnly_modify _).bind fun _ => failsOnly_run (s := next) h
  | .limit _ _ next, h => (Render.failsOnly_setLimit _ _).bind fun _ => failsOnly_run (s := next) h
  | .ask c _, h => (Render.failsOnly_ask e.store c).bind fun answer =>
      failsOnly_run fun err failed => h err ⟨answer, failed⟩

/-! ## Steps -/

namespace CacheOptions

theorem failsItself_entriesOf (argument : Option Value) : FailsItself (entriesOf argument) := by
  unfold entriesOf
  split
  · exact .ok _
  · exact .ok _
  · exact .ok _
  · exact .error (Error.isOwn_arguments _)

theorem failsItself_keyOf (entries : Dict Value) : FailsItself (keyOf entries) := by
  unfold keyOf
  split
  · exact .ok _
  · exact .ok _
  · exact .ok _
  · exact .ok _
  · exact .error (Error.isOwn_arguments _)

end CacheOptions

namespace Lifetime

theorem failsItself_duration (v : Value) : FailsItself (duration v) := by
  unfold duration
  dsimp only
  split
  · exact .ok _
  · split
    · exact .ok _
    · exact .error (Error.isOwn_arguments _)
  · next text =>
    cases seconds? text with
    | none => exact .error (Error.isOwn_arguments _)
    | some n =>
      dsimp only
      split
      · exact .ok _
      · exact .error (Error.isOwn_arguments _)
  · exact .error (Error.isOwn_arguments _)

theorem failsItself_expiration (v : Value) : FailsItself (expiration v) := by
  unfold expiration
  extract_lets check
  have checked (m : Option Moment) : FailsItself (check m) := by
    cases m with
    | none => exact .error (Error.isOwn_arguments _)
    | some m => exact .ok _
  split
  · exact .ok _
  · exact checked _
  · exact checked _
  · exact checked none

end Lifetime

/-- The options of a cached block have a fault in their argument. -/
theorem CacheOptions.failsItself_read (argument : Option Value) : FailsItself (read argument) :=
  .bind (failsItself_entriesOf _) fun _ => .bind (failsItself_keyOf _) fun _ =>
    .bind (Lifetime.failsItself_duration _) fun _ =>
      .bind (Lifetime.failsItself_expiration _) fun _ => .ok _

namespace Step

open Render

/-- The errors of a computation arise at some places of a template that is active when another one
is rendered. -/
abbrev FailsAt (e : Engine) (t u : Template) (places : List Span) {α : Type} (m : Render α) :
    Prop :=
  FailsOnly (Error.ArisesAt (e.Raises t) u.source places) m

/-- The same, and the errors are named after the template that is active. -/
abbrev FailsIn (e : Engine) (t u : Template) (places : List Span) {α : Type} (m : Render α) :
    Prop :=
  FailsOnly (Error.ArisesIn (e.Raises t) u places) m

variable {e : Engine} {t u : Template} {places : List Span}

theorem FailsAt.named {α : Type} {m : Render α} (h : FailsAt e t u places m) :
    FailsIn e t u places (Render.named u.name m) := by
  refine FailsOnly.named h ?_
  rintro err ⟨origin, span, raised, hspan, rfl⟩
  exact ⟨origin, span, raised, hspan, rfl⟩

/-- What fails with an error as it arises is located at a place. -/
theorem failsAt_locatedAt {α : Type} {m : Render α} {span : Span}
    (h : FailsOnly (e.Raises t) m) (hspan : span ∈ places) :
    FailsAt e t u places (locatedAt u.source span m) :=
  FailsOnly.locatedAt h fun origin raised => ⟨origin, span, raised, hspan, rfl⟩

theorem failsAt_fault {α : Type} {span : Span} (fault : RenderFault) (hspan : span ∈ places) :
    FailsAt e t u places (Render.fault fault u.source span : Render α) :=
  failsOnly_fail (Error.arisesAt_fault fault hspan)

theorem failsAt_evaluate (x : Expr) (subset : x.places ⊆ places) :
    FailsAt e t u places (Render.evaluate e u.source x) :=
  failsOnly_get fun _ => failsOnly_lift fun _ failed =>
    (x.arisesAt_of_evaluate rfl failed).mono subset

theorem failsAt_arguments (args : DirectiveArgs) (subset : args.places ⊆ places) :
    FailsAt e t u places (Step.arguments e u args) :=
  failsOnly_get fun _ => failsOnly_lift fun _ failed =>
    (DirectiveArgs.arisesAt_of_evaluate rfl failed).mono subset

theorem failsAt_format (f : Formatter) (v : Value) {span : Span} (hspan : span ∈ places) :
    FailsAt e t u places (format u f v span) := by
  refine (failsOnly_write _).bind fun _ => ?_
  cases (f v).fault with
  | none => exact failsOnly_pure ()
  | some fault => exact failsAt_fault fault hspan

theorem failsIn_raw (span : Span) : FailsIn e t u [] (raw u span) := by
  refine FailsAt.named ?_
  cases Text.slice span u.source with
  | none => exact failsOnly_throw fun _ h => nomatch h
  | some text => exact failsOnly_write text

theorem failsIn_print (x : Expr) : FailsIn e t u (Instr.print x).places (print e u x) :=
  FailsAt.named ((failsAt_evaluate x (List.subset_cons_self _ _)).bind fun _ =>
    failsAt_format _ _ List.mem_cons_self)

theorem failsIn_pipe (receiver : Expr) (name : Ident) (span : Span) :
    FailsIn e t u (Instr.pipe receiver name span).places (pipe e u receiver name span) := by
  have place : name.span ∈ (Instr.pipe receiver name span).places :=
    List.mem_cons_of_mem _ List.mem_cons_self
  have inside : receiver.places ⊆ (Instr.pipe receiver name span).places :=
    List.subset_cons_of_subset _ (List.subset_cons_self _ _)
  refine FailsAt.named ((failsAt_evaluate receiver inside).bind fun v => ?_)
  cases found : Dict.get? name.name e.functions with
  | none => exact failsAt_fault _ place
  | some function =>
    cases function with
    | filter f =>
      refine FailsOnly.bind (failsOnly_lift fun err failed => ?_) fun w =>
        failsAt_format _ w List.mem_cons_self
      exact arisesAt_of_function found failed place
    | formatter f => exact failsAt_format f v place

theorem failsIn_test (cond : Expr) : FailsIn e t u (cond.span :: cond.places) (test e u cond) := by
  refine FailsAt.named ((failsAt_evaluate cond (List.subset_cons_self _ _)).bind fun v => ?_)
  cases v with
  | bool b => exact failsOnly_pure b
  | _ => exact failsAt_fault _ List.mem_cons_self

theorem failsIn_rounds (vars : LoopVars) (x : Expr) :
    FailsIn e t u (vars.place :: x.span :: x.places) (rounds e u vars x) := by
  have inside : x.places ⊆ vars.place :: x.span :: x.places :=
    List.subset_cons_of_subset _ (List.subset_cons_self _ _)
  refine FailsAt.named ((failsAt_evaluate x inside).bind fun v => ?_)
  refine FailsOnly.bind (failsOnly_lift fun err failed => ?_) fun rs =>
    (failsOnly_modify _).bind fun _ => failsOnly_pure rs
  refine arisesAt_of_located failed fun fault span missing => ?_
  rcases LoopVars.place_of_rounds missing with rfl | rfl
  · exact List.mem_cons_self
  · exact List.mem_cons_of_mem _ List.mem_cons_self

theorem failsIn_target (name : String) (fault : RenderFault) {span : Span} (hspan : span ∈ places) :
    FailsIn e t u places (target e u name fault span) := by
  refine FailsAt.named ?_
  cases e.template? name with
  | none => exact failsAt_fault fault hspan
  | some v => exact failsOnly_pure v

theorem failsIn_given (x : Expr) (subset : x.places ⊆ places) :
    FailsIn e t u places (given e u x) :=
  FailsAt.named (failsAt_evaluate x subset)

/-- A directive fails where it stands. -/
theorem failsIn_perform {d : Directive} (runs : e.Runs t d) :
    FailsIn e t u d.places (perform e u d) :=
  FailsAt.named ((failsAt_arguments d.args (List.subset_cons_self _ _)).bind fun _ =>
    failsAt_locatedAt (Script.failsOnly_run fun _ failed => .handed (.directive runs failed))
      List.mem_cons_self)

/-! ### Cached blocks -/

theorem failsOnly_storeCall {α : Type} (c : StoreCall) (ask : List StoreCall → Except String α) :
    FailsOnly (e.Raises t) (call c ask) :=
  failsOnly_call (fun _ => .own (Error.isOwn_ofCause nofun)) c ask

theorem failsOnly_consult (store : CacheStore) (p : Pending) :
    FailsOnly (e.Raises t) (consult store p) := by
  refine (failsOnly_storeCall _ _).bind fun found => ?_
  cases found with
  | some text => exact (failsOnly_write text).bind fun _ => failsOnly_pure _
  | none =>
    exact (failsOnly_storeCall _ _).bind fun _ =>
      (failsOnly_modify _).bind fun _ => failsOnly_pure _

theorem failsOnly_bypass : FailsOnly (e.Raises t) bypass :=
  (failsOnly_modify _).bind fun _ => failsOnly_pure _

theorem failsOnly_beginBlock (origin : Origin) (args : Args) :
    FailsOnly (e.Raises t) (beginBlock e origin args) := by
  refine FailsOnly.bind (failsOnly_lift fun err failed => ?_) fun o =>
    (failsOnly_modify _).bind fun _ => ?_
  · cases read : CacheOptions.read args.values.head? with
    | ok o =>
      rw [read] at failed
      cases failed
    | error origin =>
      rw [read] at failed
      cases failed
      exact .own (CacheOptions.failsItself_read _ _ read)
  · split
    · exact failsOnly_bypass
    · refine failsOnly_get fun s => ?_
      split
      · exact failsOnly_bypass
      · exact failsOnly_consult _ _

theorem failsOnly_endBlock : FailsOnly (e.Raises t) (endBlock e) := by
  refine FailsOnly.bind (failsOnly_get fun s => ?_) fun p => ?_
  · cases s.blocks with
    | nil => exact failsOnly_fail (.own (Error.isOwn_ofCause nofun))
    | cons b bs =>
      exact FailsOnly.bind (m := set (s.closed bs)) (fun _ _ _ h => by cases h) fun _ =>
        (failsOnly_modify _).bind fun _ => failsOnly_pure _
  · dsimp only
    split
    · exact (failsOnly_storeCall _ _).bind fun _ => failsOnly_write _
    · exact (failsOnly_pure _).bind fun _ => failsOnly_write _

/-- The markers of a cached block fail where they stand. -/
theorem failsIn_startCached (i : Invocation) : FailsIn e t u i.places (startCached e u i) :=
  FailsAt.named ((failsAt_arguments i.args (List.subset_cons_self _ _)).bind fun _ =>
    failsAt_locatedAt (failsOnly_beginBlock _ _) List.mem_cons_self)

theorem failsIn_stopCached (i : Invocation) : FailsIn e t u i.places (stopCached e u i) :=
  FailsAt.named ((failsAt_arguments i.args (List.subset_cons_self _ _)).bind fun _ =>
    failsAt_locatedAt failsOnly_endBlock List.mem_cons_self)

end Step

/-! ## Instructions -/

namespace Machine

open Render Step Program

variable {e : Engine} {t : Template} {limit : Nat}

/-- An error of the machine above a template: as many templates are active as may be, or it arises
in the template at some places. -/
def Arises (e : Engine) (t : Template) (limit : Nat) (a : Activation) (rest : List Activation)
    (places : List Span) (err : Error) : Prop :=
  (limit ≤ rest.length + 1 ∧ err = .ofCause (.includeDepth limit)) ∨
    err.ArisesIn (e.Raises t) a.template places

variable {a : Activation} {rest : List Activation} {places : List Span}

theorem failsOnly_inside {α : Type} {m : Render α} (h : FailsIn e t a.template places m) :
    FailsOnly (Arises e t limit a rest places) m :=
  FailsOnly.mono h fun _ arises => .inr arises

theorem failsOnly_activate (u : Template) (isScoped : Bool) :
    FailsOnly (Arises e t limit a rest places)
      (activate limit u isScoped (a.advance :: rest)) := by
  unfold activate
  split
  · next full => exact failsOnly_fail (.inl ⟨full, rfl⟩)
  · rw [place, program?_eq]
    exact failsOnly_pure _

theorem failsOnly_follow {span : Span} (hspan : span ∈ places) (flow : Flow) :
    FailsOnly (Arises e t limit a rest places)
      (follow e limit a.template span flow (a.advance :: rest)) := by
  cases flow with
  | next => exact failsOnly_pure _
  | skip => exact failsOnly_pure _
  | halt => exact failsOnly_throw fun _ h => nomatch h
  | visit name given =>
    exact (failsOnly_inside (failsIn_target name _ hspan)).bind fun u =>
      (failsOnly_modify _).bind fun _ => failsOnly_activate u true

/-- The errors of an instruction, whose directive, if it has one, is one of those that are run. -/
theorem failsOnly_execute (i : Instr) (runs : ∀ d, i.directive? = some d → e.Runs t d) :
    FailsOnly (Arises e t limit a rest i.places) (execute e limit a rest i) := by
  cases i with
  | raw span => exact (failsOnly_inside (failsIn_raw span)).bind fun _ => failsOnly_pure _
  | print x => exact (failsOnly_inside (failsIn_print x)).bind fun _ => failsOnly_pure _
  | pipe receiver name span =>
    exact (failsOnly_inside (failsIn_pipe receiver name span)).bind fun _ => failsOnly_pure _
  | «include» name globals =>
    cases globals with
    | none =>
      exact (failsOnly_inside (failsIn_target _ _ List.mem_cons_self)).bind fun u =>
        failsOnly_activate u false
    | some x =>
      refine (failsOnly_inside (failsIn_given x (List.subset_cons_self _ _))).bind fun given => ?_
      exact (failsOnly_inside (failsIn_target _ _ List.mem_cons_self)).bind fun u =>
        (failsOnly_modify _).bind fun _ => failsOnly_activate u true
  | jump target => exact failsOnly_pure _
  | branch negated cond target =>
    exact (failsOnly_inside (failsIn_test cond)).bind fun _ => failsOnly_pure _
  | loop vars iterable =>
    exact (failsOnly_inside (failsIn_rounds vars iterable)).bind fun _ => failsOnly_pure _
  | round target =>
    refine failsOnly_get fun s => ?_
    cases roundsLeft s.layers with
    | nil => exact (failsOnly_modify _).bind fun _ => failsOnly_pure _
    | cons r rs => exact (failsOnly_modify _).bind fun _ => failsOnly_pure _
  | directive d =>
    exact (failsOnly_inside (failsIn_perform (runs d rfl))).bind fun flow =>
      failsOnly_follow List.mem_cons_self flow
  | start d target =>
    refine (failsOnly_inside (failsIn_perform (runs d rfl))).bind fun flow => ?_
    cases flow with
    | skip => exact failsOnly_pure _
    | _ => exact failsOnly_follow List.mem_cons_self _
  | stop d =>
    exact (failsOnly_inside (failsIn_perform (runs d rfl))).bind fun flow =>
      failsOnly_follow List.mem_cons_self flow
  | startCached i target =>
    exact (failsOnly_inside (failsIn_startCached i)).bind fun _ => failsOnly_pure _
  | stopCached i =>
    exact (failsOnly_inside (failsIn_stopCached i)).bind fun _ => failsOnly_pure _

/-! ## Runs -/

variable {job : Job} {data : Value} {ps : List Passage} {c : Config}

/-- What the instructions of an active template are and which directives they run. -/
theorem Path.inside (path : Path e limit (.start t job data) ps c) (inStack : a ∈ c.stack)
    {i : Instr} (next : a.next? = some i) :
    i.places ⊆ a.template.places ∧ ∀ d, i.directive? = some d → e.Runs t d := by
  have there : i ∈ a.code := List.mem_of_getElem? next
  have program := (marked_of_path path).programs a inStack
  rw [program?_eq] at program
  rw [← Option.some.inj program] at there
  refine ⟨Stmt.places_of_layoutAll _ there, fun d hd => ?_⟩
  have inTemplate : d ∈ a.template.directives := Stmt.mem_directives_of_layoutAll _ there hd
  rcases path.template_of_mem a inStack with same | ⟨name, found⟩
  · exact .inl (same ▸ inTemplate)
  · exact .inr ⟨name, _, found, inTemplate⟩

/-- A step behind a path fails because as many templates are active as may be, or its error arises
in a template that is active. -/
theorem Path.arises (path : Path e limit (.start t job data) ps c) {err : Error} {s : RenderState}
    (failed : (step e limit c.stack).run c.state = (.error (.failed err), s)) :
    (limit ≤ c.stack.length ∧ err = .ofCause (.includeDepth limit)) ∨
      ∃ a ∈ c.stack, a.template.body ≠ [] ∧
        err.ArisesIn (e.Raises t) a.template a.template.places := by
  cases hstack : c.stack with
  | nil =>
    rw [hstack] at failed
    cases failed
  | cons a rest =>
    have inStack : a ∈ c.stack := hstack ▸ List.mem_cons_self
    rw [hstack, step] at failed
    cases next : a.next? with
    | none =>
      rw [next] at failed
      cases hscoped : a.isScoped <;> rw [hscoped] at failed <;> cases failed
    | some i =>
      rw [next] at failed
      obtain ⟨subset, runs⟩ := path.inside inStack next
      rcases failsOnly_execute i runs _ _ _ failed with full | arises
      · exact .inl full
      · refine .inr ⟨a, List.mem_cons_self, fun empty => ?_, arises.mono subset⟩
        -- a template without statements has no instruction either
        have program := (marked_of_path path).programs a inStack
        rw [program?_eq, empty] at program
        have code : [] = a.code := Option.some.inj program
        rw [Activation.next?, ← code] at next
        cases next

end Machine

/-- A render that fails with an error has been stopped with it, unless the output has refused a
text. -/
theorem Engine.exists_run_of_error {e : Engine} {t : Template} {job : Job} {err : Error}
    (failed : (e.render t job).result = .error (.error err)) :
    (∃ s, e.run t job = (.error (.failed err), s)) ∨ err = .ofCause (.io job.refusal) := by
  rw [render] at failed
  rcases hrun : e.run t job with ⟨(_ | origin | _ | _) | _, s⟩ <;> rw [hrun] at failed
  · cases failed
  · by_cases accepts : s.output.accepts = true
    · rw [Outcome.ofRun, Outcome.failure_of_accepts accepts] at failed
      cases failed
      exact .inl ⟨s, rfl⟩
    · rw [Outcome.ofRun, Outcome.failure, if_neg accepts] at failed
      cases failed
      exact .inr rfl
  · cases failed
  · cases failed
    exact .inr rfl
  · cases failed

/-- A render fails because as many templates are active as may be, or its error arises in the
template that is rendered or in one of the engine, unless the render has failed without data. -/
theorem Engine.arises_of_run {e : Engine} {t : Template} {job : Job} {data : Value}
    (hdata : job.data = .ok data) {err : Error} {s : RenderState}
    (failed : e.run t job = (.error (.failed err), s)) :
    err = .ofCause (.includeDepth (e.depthLimit job)) ∨
      ∃ u, (u = t ∨ ∃ name, e.template? name = some u) ∧ u.body ≠ [] ∧
        err.ArisesIn (e.Raises t) u u.places := by
  obtain ⟨ps, c, path, stopped⟩ := exists_path_of_error hdata failed
  rcases path.arises stopped with ⟨-, tooDeep⟩ | ⟨a, inStack, body, arises⟩
  · exact .inl tooDeep
  · exact .inr ⟨a.template, path.template_of_mem a inStack, body, arises⟩

/-! ## Templates -/

/-- A template has been compiled from its source. -/
def Template.IsCompiled (t : Template) : Prop :=
  ∃ l, Template.compile l t.name t.source = .ok t

/-- A template without a source has no statements. -/
theorem Template.IsCompiled.source_ne {t : Template} (h : t.IsCompiled) (body : t.body ≠ []) :
    t.source ≠ "" := by
  obtain ⟨l, compiled⟩ := h
  intro empty
  rw [empty] at compiled
  have nothing : Template.compile l t.name "" = .ok ⟨t.name, "", []⟩ := rfl
  exact body (congrArg Template.body (Except.ok.inj (compiled.symm.trans nothing)))

/-- The templates of an engine have been compiled under their names. -/
def Engine.Registered (e : Engine) : Prop :=
  ∀ name u, e.template? name = some u → u.name = some name ∧ u.IsCompiled

namespace Engine

variable {e e' : Engine}

/-- The template that is rendered and those that it may include have been compiled. -/
theorem Registered.isCompiled (h : e.Registered) {t u : Template} (ht : t.IsCompiled)
    (hu : u = t ∨ ∃ name, e.template? name = some u) : u.IsCompiled := by
  rcases hu with rfl | ⟨name, found⟩
  · exact ht
  · exact (h name u found).2

/-- The templates that an engine keeps are looked at one by one. -/
theorem registered_of_forall
    (h : ∀ entry ∈ e.templates, entry.2.name = some entry.1 ∧ entry.2.IsCompiled) :
    e.Registered := fun _ _ found => h _ (Dict.mem_of_get? found)

theorem registered_new (delimiters : Delimiters) : (new delimiters).Registered := nofun

/-- A template that is compiled has the name and the source that it is compiled from. -/
theorem registered_of_compile {l : Language} {name source : String} {t : Template}
    (compiled : Template.compile l (some name) source = .ok t) :
    t.name = some name ∧ t.IsCompiled := by
  have same := compiled
  unfold Template.compile at same
  split at same
  · cases same
    exact ⟨rfl, l, compiled⟩
  · cases same

theorem Registered.addTemplate (h : e.Registered) {name source : String}
    (added : e.addTemplate name source = .ok e') : e'.Registered := by
  unfold Engine.addTemplate at added
  split at added
  · next t compiled =>
    cases added
    intro name' u found
    rw [template?, Dict.get?_insert] at found
    split at found
    · next same =>
      cases found
      exact same ▸ registered_of_compile compiled
    · exact h name' u found
  · cases added

theorem Registered.removeTemplate (h : e.Registered) (name : String) :
    (e.removeTemplate name).Registered := by
  intro name' u found
  rw [template?, Engine.removeTemplate, Dict.get?_erase] at found
  split at found
  · cases found
  · exact h name' u found

end Engine

/-- An error that is located in a template has a place. -/
theorem Error.ArisesIn.excerpt_isSome {Q : Error → Prop} {u : Template} {places : List Span}
    {err : Error} (h : err.ArisesIn Q u places) (source : u.source ≠ "") :
    err.excerpt.isSome := by
  obtain ⟨origin, span, -, -, rfl⟩ := h
  rw [excerpt_inTemplate, locate]
  cases found : origin.excerpt with
  | some x => simp [found]
  | none => simp [source]

/-- An error of the depth is not one of the renderer itself if it is located. -/
theorem Error.ArisesIn.handed {e : Engine} {t u : Template} {places : List Span} {err : Error}
    {limit : Nat} (h : err.ArisesIn (e.Raises t) u places)
    (cause : err.cause = .includeDepth limit) :
    ∃ origin, e.Hands t origin ∧ origin.cause = .includeDepth limit := by
  obtain ⟨origin, span, raised, -, rfl⟩ := h
  rw [cause_inTemplate, cause_locate] at cause
  cases raised with
  | own own =>
    obtain ⟨_, within, rfl⟩ := own
    exact absurd cause (within limit)
  | handed hands => exact ⟨origin, hands, cause⟩

end Stencil
