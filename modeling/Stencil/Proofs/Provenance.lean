import Stencil.Engine.Standard
import Stencil.Proofs.ParserSteps

/-!
# Where directives come from

The directives of a template are made by the definitions of the language that it was compiled with.
What holds of all scripts that the definitions make therefore holds of the directives of templates,
and the standard definitions make scripts from a few operations only.

- `Script.Closed`: a property of scripts holds of what is put together from the operations of the
  standard directives.
- `Definition.Makes`, `Language.Makes`: all scripts that are made have a property.
- `Stmt.directives`, `Template.directives`: the directives in statements.
- `Template.makes_of_compile`: the directives of a template have been made by its language.
- `Engine.Makes`: all scripts of an engine and of its templates have a property.
- `Engine.makes_new`: the scripts of a new engine have every property that is closed.
-/

namespace Stencil

/-! ## Scripts -/

/-- A property of the scripts of directives holds of those that are put together from the operations
that standard directives use. Only a redirect with a place to lead to and a status of three digits
ends the render, and limits of queries are only taken away. -/
structure Script.Closed (P : Script Flow → Prop) : Prop where
  goOn {flow : Flow} (h : flow ≠ .halt) : P (pure flow)
  redirect {url : String} {status : Nat} (hurl : url ≠ "") (least : 100 ≤ status)
    (most : status ≤ 999) : P (modifyResponse (·.setRedirect url status) >>= fun _ => pure .halt)
  fail (f : Failure) : P (.fail f)
  view {k : View → Script Flow} (h : ∀ v, P (k v)) : P (Script.view >>= k)
  put (text : String) {k : Unit → Script Flow} (h : P (k ())) : P (Script.put text >>= k)
  set (name : String) (value : Value) {k : Unit → Script Flow} (h : P (k ())) :
    P (Script.set name value >>= k)
  setHeader (name value : String) {k : Unit → Script Flow} (h : P (k ())) :
    P (modifyResponse (·.setHeader name value) >>= k)
  limit (query : String) {next : Script Flow} (h : P next) : P (.limit query none next)

namespace Script.Closed

variable {P : Script Flow → Prop} (h : Closed P)

include h

theorem refuse (e : Error) : P (Script.refuse e) := h.fail (.error e)

theorem lift {α : Type} {k : α → Script Flow} :
    ∀ {r : Except Error α}, (∀ a, r = .ok a → P (k a)) → P (Script.lift r >>= k)
  | .ok a, hk => hk a rfl
  | .error e, _ => h.refuse e

end Script.Closed

/-! ## Definitions -/

section

variable (P : Script Flow → Prop)

/-- The scripts that a directive runs have a property. -/
def Directive.Makes (d : Directive) : Prop := ∀ args, P (d.run args)

/-- All scripts of what is compiled so have a property. -/
def Compile.Makes (compile : Compile) : Prop := ∀ o f, compile o = .ok f → ∀ args, P (f.run args)

/-- All scripts of the directives of a definition have a property. -/
def Definition.Makes : Definition → Prop
  | .single compile => Compile.Makes P compile
  | .paired start stop => Compile.Makes P start ∧ Compile.Makes P stop
  | .cached => True

/-- All scripts of the directives of a language have a property. -/
def Language.Makes (l : Language) : Prop :=
  ∀ name d, Dict.get? name l.directives = some d → d.Makes P

end

/-! ## Standard definitions -/

namespace Directive

variable {P : Script Flow → Prop}

theorem makes_ofCall {run : List Value → Script Flow} (hrun : ∀ args, P (run args)) :
    (ofCall run).Makes P := by
  rintro o f ⟨⟩ args
  exact hrun args.values

/-- The status of a redirect has three digits. -/
theorem status_eq_ok {v : Option Value} {code : Nat} (h : status v = .ok code) :
    100 ≤ code ∧ code ≤ 999 := by
  unfold status at h
  split at h
  · cases h
    decide
  · cases h
    decide
  · split at h
    · split at h
      · next least_most =>
        cases h
        omega
      · cases h
    · cases h

variable (h : Script.Closed P)

include h

theorem closed_bindAll (bindings : List (String × Value)) : P (bindAll bindings) := by
  induction bindings with
  | nil => exact h.goOn nofun
  | cons binding rest ih => exact h.set _ _ ih

theorem makes_set : set.Makes P := by
  rintro o f ⟨⟩ args
  exact closed_bindAll h args.bindings

theorem makes_header : header.Makes P := by
  refine makes_ofCall fun args => ?_
  unfold runHeader
  split
  · exact h.refuse _
  · dsimp only
    split
    · exact h.refuse _
    · exact h.setHeader _ _ (h.goOn nofun)
  · exact h.refuse _

theorem makes_redirect : redirect.Makes P := by
  refine makes_ofCall fun args => ?_
  unfold runRedirect
  split
  · split
    · exact h.refuse _
    · next url _ given =>
      refine h.lift fun code found => ?_
      obtain ⟨least, most⟩ := status_eq_ok found
      refine h.redirect ?_ least most
      rintro rfl
      exact given rfl
  · exact h.refuse _

theorem closed_require (passes : Request → Bool) (cause : Cause) : P (require passes cause) := by
  refine h.view fun v => ?_
  split
  · exact h.goOn nofun
  · exact h.refuse _

theorem makes_requirePermission : requirePermission.Makes P := by
  refine makes_ofCall fun args => ?_
  split
  · exact closed_require h _ _
  · exact h.refuse _

theorem makes_condition (holds : Request → List Value → Bool) :
    (Definition.condition holds).Makes P := by
  constructor
  · rintro o f ⟨⟩ args
    refine h.view fun v => h.goOn ?_
    split
    · nofun
    · nofun
  · rintro o f ⟨⟩ args
    exact h.goOn nofun

theorem makes_markdown (L : Markdown.Library) : (markdown L).Makes P := by
  rintro o f ⟨⟩ args
  exact h.view fun _ => h.lift fun _ _ => h.lift fun _ _ => h.lift fun _ _ =>
    h.put _ (h.goOn nofun)

theorem makes_includeLocalized : includeLocalized.Makes P := by
  rintro o f ⟨⟩ args
  refine h.lift fun ⟨name, data⟩ _ => h.view fun v => ?_
  dsimp only
  split
  · split
    · exact h.put _ (h.goOn nofun)
    · exact h.fail _
  · split
    · exact h.goOn nofun
    · exact h.refuse _

theorem closed_bindPage (rowsName infoName : String)
    (page : Except Error (List Value × PageInfo)) : P (bindPage rowsName infoName page) :=
  h.lift fun _ _ => h.set _ _ (h.set _ _ (h.goOn nofun))

theorem makes_paginate : paginate.Makes P := by
  rintro o f ⟨⟩ args
  refine h.view fun v => h.lift fun rowsName _ => h.lift fun infoName _ =>
    h.lift fun config _ => ?_
  dsimp only
  split
  · split
    · exact h.refuse _
    · split
      · exact h.refuse _
      · exact h.limit _ (closed_bindPage h _ _ _)
  · exact closed_bindPage h _ _ _
  · exact h.refuse _

end Directive

/-! ## Templates -/

namespace Stmt

mutual

/-- The directives in a statement. -/
def directives : Stmt → List Directive
  | .raw _ => []
  | .output _ _ => []
  | .include _ _ => []
  | .ifElse _ _ thenBody elseBody => allDirectives thenBody ++ elseDirectives elseBody
  | .forLoop _ _ body => allDirectives body
  | .directive d => [d]
  | .block start body stop => start :: stop :: allDirectives body
  | .cached _ body _ => allDirectives body

/-- The directives in some statements. -/
def allDirectives : List Stmt → List Directive
  | [] => []
  | s :: ss => directives s ++ allDirectives ss

/-- The directives in a second branch. -/
def elseDirectives : Option (List Stmt) → List Directive
  | none => []
  | some ss => allDirectives ss

end

/-- The directives in some statements are those in each of them. -/
theorem mem_allDirectives {d : Directive} {ss : List Stmt} :
    d ∈ allDirectives ss ↔ ∃ s ∈ ss, d ∈ s.directives := by
  induction ss with
  | nil => simp [allDirectives]
  | cons s ss ih => simp [allDirectives, ih]

theorem mem_allDirectives_reverse {d : Directive} {ss : List Stmt} :
    d ∈ allDirectives ss.reverse ↔ d ∈ allDirectives ss := by
  rw [mem_allDirectives, mem_allDirectives]
  simp only [List.mem_reverse]

end Stmt

/-- The directives in a template. -/
def Template.directives (t : Template) : List Directive := Stmt.allDirectives t.body

section

variable (P : Script Flow → Prop)

/-- All scripts of some statements have a property. -/
def Stmt.AllMake (ss : List Stmt) : Prop := ∀ d ∈ allDirectives ss, d.Makes P

/-- All scripts of a template have a property. -/
def Template.Makes (t : Template) : Prop := ∀ d ∈ t.directives, d.Makes P

/-- All scripts in an open block have a property, and so will those of its end. -/
def OpenBlock.Makes : OpenBlock → Prop
  | .thenBranch _ _ before => Stmt.AllMake P before
  | .elseBranch _ _ thenBody before => Stmt.AllMake P thenBody ∧ Stmt.AllMake P before
  | .loop _ _ _ before => Stmt.AllMake P before
  | .paired start stop before => start.Makes P ∧ Compile.Makes P stop ∧ Stmt.AllMake P before
  | .cached _ before => Stmt.AllMake P before

/-- All scripts of what has been read have a property. -/
structure Builder.Makes (b : Builder) : Prop where
  current : Stmt.AllMake P b.current
  blocks : ∀ block ∈ b.blocks, block.Makes P

end

variable {P : Script Flow → Prop}

theorem Stmt.allMake_cons {s : Stmt} {ss : List Stmt} (hs : ∀ d ∈ s.directives, d.Makes P)
    (h : AllMake P ss) : AllMake P (s :: ss) := by
  intro d hd
  rw [allDirectives, List.mem_append] at hd
  exact hd.elim (hs d) (h d)

theorem Stmt.allMake_reverse {ss : List Stmt} (h : AllMake P ss) : AllMake P ss.reverse :=
  fun d hd => h d (mem_allDirectives_reverse.1 hd)

namespace Builder

variable {b b' : Builder}

theorem makes_empty : empty.Makes P := ⟨by simp [empty, Stmt.AllMake, Stmt.allDirectives],
  by simp [empty]⟩

theorem Makes.add (h : b.Makes P) {s : Stmt} (hs : ∀ d ∈ s.directives, d.Makes P) :
    (b.add s).Makes P :=
  ⟨Stmt.allMake_cons hs h.current, h.blocks⟩

theorem Makes.push (h : b.Makes P) {block : OpenBlock} (hb : block.Makes P) :
    Builder.Makes P ⟨[], block :: b.blocks⟩ :=
  ⟨nofun, List.forall_mem_cons.2 ⟨hb, h.blocks⟩⟩

theorem Makes.addElse (h : b.Makes P) (eq : b.addElse = some b') : b'.Makes P := by
  unfold Builder.addElse at eq
  split at eq
  · next clause nested before rest blocks =>
    obtain ⟨first, others⟩ := List.forall_mem_cons.1 (blocks ▸ h.blocks)
    cases eq
    exact ⟨nofun, List.forall_mem_cons.2 ⟨⟨Stmt.allMake_reverse h.current, first⟩, others⟩⟩
  · cases eq

theorem Makes.addElseIf (h : b.Makes P) {clause : Clause} (eq : b.addElseIf clause = some b') :
    b'.Makes P := by
  obtain ⟨b₁, added, rfl⟩ := Option.map_eq_some_iff.1 eq
  exact (h.addElse added).push nofun

theorem makes_of_closeClauses {current : List Stmt} {blocks : List OpenBlock}
    (eq : closeClauses current blocks = some b) (hc : Stmt.AllMake P current)
    (hb : ∀ block ∈ blocks, block.Makes P) : b.Makes P := by
  -- on the open blocks; a condition in the second branch of another one is closed with it
  induction blocks generalizing current with
  | nil => cases eq
  | cons block rest ih =>
    obtain ⟨first, others⟩ := List.forall_mem_cons.1 hb
    have last := Stmt.allMake_reverse hc
    cases block with
    | thenBranch clause nested before =>
      rw [closeClauses] at eq
      have closed : Stmt.AllMake P
          (.ifElse clause.negated clause.cond current.reverse none :: before) := by
        refine Stmt.allMake_cons (fun d hd => ?_) first
        rw [Stmt.directives, Stmt.elseDirectives, List.append_nil] at hd
        exact last d hd
      cases nested with
      | true => exact ih eq closed others
      | false =>
        cases eq
        exact ⟨closed, others⟩
    | elseBranch clause nested thenBody before =>
      rw [closeClauses] at eq
      have closed : Stmt.AllMake P
          (.ifElse clause.negated clause.cond thenBody (some current.reverse) :: before) := by
        refine Stmt.allMake_cons (fun d hd => ?_) first.2
        rw [Stmt.directives, Stmt.elseDirectives, List.mem_append] at hd
        exact hd.elim (first.1 d) (last d)
      cases nested with
      | true => exact ih eq closed others
      | false =>
        cases eq
        exact ⟨closed, others⟩
    | loop vars iterable span before => cases eq
    | paired start stop before => cases eq
    | cached start before => cases eq

theorem Makes.closeFor (h : b.Makes P) (eq : b.closeFor = some b') : b'.Makes P := by
  unfold Builder.closeFor at eq
  split at eq
  · next vars iterable span before rest blocks =>
    obtain ⟨first, others⟩ := List.forall_mem_cons.1 (blocks ▸ h.blocks)
    cases eq
    exact ⟨Stmt.allMake_cons (Stmt.allMake_reverse h.current) first, others⟩
  · cases eq

end Builder

namespace Parse

variable {r : Reader} {s : Surroundings} {b b' : Builder} {name : Ident} {raw span : Span}

theorem makes_applyTag {tag : BlockTag} (hb : b.Makes P) (h : applyTag s b span tag = .ok b') :
    b'.Makes P := by
  cases tag with
  | ifTag negated cond =>
    cases h
    exact hb.push hb.current
  | elseTag => exact hb.addElse (placed_eq_ok h)
  | elseIfTag negated cond => exact hb.addElseIf (placed_eq_ok h)
  | endifTag => exact Builder.makes_of_closeClauses (placed_eq_ok h) hb.current hb.blocks
  | forTag vars iterable =>
    cases h
    exact hb.push hb.current
  | endforTag => exact hb.closeFor (placed_eq_ok h)
  | includeTag name globals =>
    cases h
    exact hb.add nofun

theorem makes_directive {compile : Compile} {o : Occurrence} {d : Directive}
    (hc : Compile.Makes P compile) (h : directive r compile name o span = .ok d) : d.Makes P := by
  obtain ⟨fragment, compiled, run⟩ := exists_fragment h
  intro args
  rw [run]
  exact hc o fragment compiled args

theorem makes_applied (hl : r.language.Makes P) (hb : b.Makes P)
    (h : Applied r b name raw span b') : b'.Makes P := by
  cases h with
  | closed blocks occurs compiled =>
    obtain ⟨⟨start, stop, before⟩, others⟩ := List.forall_mem_cons.1 (blocks ▸ hb.blocks)
    have ended := makes_directive stop compiled
    refine ⟨Stmt.allMake_cons ?_ before, others⟩
    exact List.forall_mem_cons.2
      ⟨start, List.forall_mem_cons.2 ⟨ended, Stmt.allMake_reverse hb.current⟩⟩
  | closedCached blocks occurs invoked =>
    obtain ⟨before, others⟩ := List.forall_mem_cons.1 (blocks ▸ hb.blocks)
    exact ⟨Stmt.allMake_cons (Stmt.allMake_reverse hb.current) before, others⟩
  | single found occurs compiled =>
    exact hb.add (List.forall_mem_singleton.2 (makes_directive (hl _ _ found) compiled))
  | opened found occurs compiled =>
    obtain ⟨start, stop⟩ := hl _ _ found
    exact hb.push ⟨makes_directive start compiled, stop, hb.current⟩
  | openedCached found occurs invoked => exact hb.push hb.current

theorem makes_stated {t : Token} {ts ts' : List Token} (hl : r.language.Makes P)
    (hb : b.Makes P) (h : Stated r b t ts b' ts') : b'.Makes P := by
  cases h with
  | raw => exact hb.add nofun
  | comment suffix => exact hb
  | output x span suffix => exact hb.add nofun
  | directive named args applied =>
    exact makes_applied hl hb (applied_of_applyDirective applied)
  | tag suffix applied => exact makes_applyTag hb applied

/-- The scripts of the statements of some tokens have a property if those read before and those of
the language have it. -/
theorem makes_statements {n : Nat} {ts : List Token} {body : List Stmt} (hl : r.language.Makes P)
    (hb : b.Makes P) (h : statements r n b ts = .ok body) : Stmt.AllMake P body := by
  induction n generalizing b ts with
  | zero => cases h
  | succ n ih =>
    obtain ⟨found, -, h⟩ := bind_eq_ok h
    cases found with
    | none =>
      simp only [finish] at h
      split at h
      · cases h
        exact Stmt.allMake_reverse hb.current
      · cases h
    | some taken =>
      obtain ⟨⟨b₁, ts₁⟩, stated, h⟩ : ∃ next, statement r b taken.1 taken.2 = .ok next ∧
          statements r n next.1 next.2 = .ok body := bind_eq_ok h
      exact ih (makes_stated hl hb (stated_of_statement stated)) h

end Parse

/-- The scripts of a template have every property that those of its language have. -/
theorem Template.makes_of_compile {l : Language} {name : Option String} {source : String}
    {t : Template} (hl : l.Makes P) (h : Template.compile l name source = .ok t) : t.Makes P := by
  unfold Template.compile at h
  split at h
  · next body read =>
    cases h
    exact Parse.makes_statements hl Builder.makes_empty read
  · cases h

/-! ## Engines -/

/-- All scripts of an engine and of its templates have a property. -/
structure Engine.Makes (P : Script Flow → Prop) (e : Engine) : Prop where
  language : e.language.Makes P
  templates : ∀ name u, e.template? name = some u → u.Makes P

namespace Engine

variable {e e' : Engine}

theorem Makes.compile (h : e.Makes P) {source : String} {t : Template}
    (eq : e.compile source = .ok t) : t.Makes P :=
  Template.makes_of_compile h.language eq

theorem Makes.addTemplate (h : e.Makes P) {name source : String}
    (eq : e.addTemplate name source = .ok e') : e'.Makes P := by
  unfold Engine.addTemplate at eq
  split at eq
  · next t compiled =>
    cases eq
    refine ⟨h.language, fun name' u hu => ?_⟩
    rw [template?, Dict.get?_insert] at hu
    split at hu
    · cases hu
      exact Template.makes_of_compile h.language compiled
    · exact h.templates name' u hu
  · cases eq

theorem Makes.addDirective (h : e.Makes P) (name : String) {d : Definition} (hd : d.Makes P) :
    (e.addDirective name d).Makes P := by
  refine ⟨fun name' d' hd' => ?_, h.templates⟩
  rw [Engine.language, Engine.addDirective, Dict.get?_insert] at hd'
  split at hd'
  · cases hd'
    exact hd
  · exact h.language name' d' hd'

/-- The scripts of the standard directives have every property that is closed. -/
theorem makes_standardDirectives {P : Script Flow → Prop} (h : Script.Closed P) (name : String)
    (d : Definition) (found : Dict.get? name standardDirectives = some d) : d.Makes P := by
  refine Dict.forall_of_ofList ?_ name d found
  simp only [List.forall_mem_cons, List.not_mem_nil, false_imp_iff, implies_true, and_true]
  exact ⟨Directive.makes_set h, Directive.makes_header h, Directive.makes_redirect h,
    Directive.makes_markdown h _, Directive.makes_ofCall fun _ => Directive.closed_require h _ _,
    Directive.makes_ofCall fun _ => Directive.closed_require h _ _,
    Directive.makes_ofCall fun _ => Directive.closed_require h _ _,
    Directive.makes_requirePermission h, Directive.makes_condition h _,
    Directive.makes_condition h _, trivial, Directive.makes_includeLocalized h,
    Directive.makes_paginate h⟩

/-- The scripts of a new engine have every property that is closed. -/
theorem makes_new {P : Script Flow → Prop} (h : Script.Closed P) (delimiters : Delimiters) :
    (new delimiters).Makes P :=
  ⟨makes_standardDirectives h, nofun⟩

end Engine

end Stencil
