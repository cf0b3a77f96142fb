import Stencil.Proofs.Provenance

/-!
# Directives and the store

A directive may call the store by itself. The standard ones do not, and a template makes no such
calls if the directives that it was compiled with make none.

- `Script.CallsOnly`: which calls a script may make.
- `Script.Quiet`, `Directive.Quiet`, `Definition.Quiet`: a directive makes no call by itself.
- `Template.Quiet`, `Template.quiet_of_compile`: nor does any directive of a template.
- `Engine.Quiet`: nor do the directives of an engine and of its templates; the engine may be
  changed with such directives, and keeps templates compiled with them.
-/

namespace Stencil

/-! ## Scripts -/

namespace Script

variable {α : Type} {P : StoreCall → Prop}

/-- Every call that the script may make to the store is one of the given ones. -/
def CallsOnly (P : StoreCall → Prop) : Script α → Prop
  | .done _ => True
  | .fail _ => True
  | .full => True
  | .look next => ∀ v, (next v).CallsOnly P
  | .write _ next => ∀ accepted, (next accepted).CallsOnly P
  | .assign _ _ next => next.CallsOnly P
  | .respond _ next => next.CallsOnly P
  | .limit _ _ next => next.CallsOnly P
  | .ask c next => P c ∧ ∀ answer, (next answer).CallsOnly P

/-- The script makes no call to the store. -/
def Quiet (s : Script α) : Prop := s.CallsOnly fun _ => False

theorem callsOnly_any : ∀ s : Script α, s.CallsOnly fun _ => True
  | .done _ => trivial
  | .fail _ => trivial
  | .full => trivial
  | .look next => fun v => callsOnly_any (next v)
  | .write _ next => fun accepted => callsOnly_any (next accepted)
  | .assign _ _ next => callsOnly_any next
  | .respond _ next => callsOnly_any next
  | .limit _ _ next => callsOnly_any next
  | .ask _ next => ⟨trivial, fun answer => callsOnly_any (next answer)⟩

/-- The standard directives make no calls to the store. -/
theorem closed_quiet : Closed fun s => s.Quiet where
  goOn _ := trivial
  redirect _ _ _ := trivial
  fail _ := trivial
  view h := h
  put _ _ h := fun
    | true => h
    | false => trivial
  set _ _ _ h := h
  setHeader _ _ _ h := h
  limit _ _ h := h

end Script

/-- The directive makes no call to the store by itself. -/
def Directive.Quiet (d : Directive) : Prop := ∀ args, (d.run args).Quiet

/-- No directive that is compiled so makes a call to the store by itself. -/
def Compile.Quiet (compile : Compile) : Prop :=
  ∀ o f, compile o = .ok f → ∀ args, (f.run args).Quiet

/-- No directive of the definition makes a call to the store by itself. -/
def Definition.Quiet : Definition → Prop
  | .single compile => Compile.Quiet compile
  | .paired start stop => Compile.Quiet start ∧ Compile.Quiet stop
  | .cached => True

theorem Definition.quiet_iff {d : Definition} : d.Quiet ↔ d.Makes Script.Quiet := by
  cases d with
  | single compile => exact Iff.rfl
  | paired start stop => exact Iff.rfl
  | cached => exact Iff.rfl

/-! ## Templates -/

namespace Stmt

mutual

/-- No directive in the statement makes a call to the store by itself. -/
def Quiet : Stmt → Prop
  | .raw _ => True
  | .output _ _ => True
  | .include _ _ => True
  | .ifElse _ _ thenBody elseBody => AllQuiet thenBody ∧ ElseQuiet elseBody
  | .forLoop _ _ body => AllQuiet body
  | .directive d => d.Quiet
  | .block start body stop => start.Quiet ∧ AllQuiet body ∧ stop.Quiet
  | .cached _ body _ => AllQuiet body

/-- `Quiet` on some statements. -/
def AllQuiet : List Stmt → Prop
  | [] => True
  | s :: ss => Quiet s ∧ AllQuiet ss

/-- `Quiet` on a second branch. -/
def ElseQuiet : Option (List Stmt) → Prop
  | none => True
  | some ss => AllQuiet ss

end

mutual

theorem quiet_iff : ∀ {s : Stmt}, s.Quiet ↔ ∀ d ∈ s.directives, d.Quiet
  | .raw _ => ⟨nofun, fun _ => trivial⟩
  | .output _ _ => ⟨nofun, fun _ => trivial⟩
  | .include _ _ => ⟨nofun, fun _ => trivial⟩
  | .ifElse _ _ thenBody elseBody => by
    rw [Quiet, directives, List.forall_mem_append, allQuiet_iff, elseQuiet_iff]
  | .forLoop _ _ body => by
    rw [Quiet, directives, allQuiet_iff]
  | .directive d => by
    rw [Quiet, directives, List.forall_mem_singleton]
  | .block start body stop => by
    rw [Quiet, directives, List.forall_mem_cons, List.forall_mem_cons, allQuiet_iff,
      and_comm (b := stop.Quiet)]
  | .cached _ body _ => by
    rw [Quiet, directives, allQuiet_iff]

theorem allQuiet_iff : ∀ {ss : List Stmt}, AllQuiet ss ↔ ∀ d ∈ allDirectives ss, d.Quiet
  | [] => ⟨nofun, fun _ => trivial⟩
  | s :: ss => by
    rw [AllQuiet, allDirectives, List.forall_mem_append, quiet_iff, allQuiet_iff]

theorem elseQuiet_iff :
    ∀ {ss : Option (List Stmt)}, ElseQuiet ss ↔ ∀ d ∈ elseDirectives ss, d.Quiet
  | none => ⟨nofun, fun _ => trivial⟩
  | some ss => by
    rw [ElseQuiet, elseDirectives, allQuiet_iff]

end

end Stmt

/-- A cached block with a key of its own. -/
def Stmt.cachedAs (key : String) (body : List Stmt) : Stmt :=
  .cached
    ⟨⟨"cache", ⟨0, 0⟩⟩, .call [.literal (.map [("key", .text key)]) ⟨0, 0⟩], ⟨"", 1, 1⟩, ⟨0, 0⟩⟩
    body
    ⟨⟨"endcache", ⟨0, 0⟩⟩, .none, ⟨"", 1, 1⟩, ⟨0, 0⟩⟩

/-- No directive in the template makes a call to the store by itself. -/
def Template.Quiet (t : Template) : Prop := Stmt.AllQuiet t.body

/-- No directive of the language makes a call to the store by itself. -/
def Language.Quiet (l : Language) : Prop :=
  ∀ name d, Dict.get? name l.directives = some d → d.Quiet

theorem Template.quiet_iff {t : Template} : t.Quiet ↔ t.Makes Script.Quiet := Stmt.allQuiet_iff

theorem Language.quiet_iff {l : Language} : l.Quiet ↔ l.Makes Script.Quiet :=
  ⟨fun h name d found => Definition.quiet_iff.1 (h name d found),
    fun h name d found => Definition.quiet_iff.2 (h name d found)⟩

/-- A template that is compiled with quiet directives is quiet. -/
theorem Template.quiet_of_compile {l : Language} {name : Option String} {source : String}
    {t : Template} (hl : l.Quiet) (h : Template.compile l name source = .ok t) : t.Quiet :=
  Template.quiet_iff.2 (Template.makes_of_compile (Language.quiet_iff.1 hl) h)

/-! ## Engines -/

/-- No directive of an engine or of its templates makes a call to the store by itself. -/
structure Engine.Quiet (e : Engine) : Prop where
  language : e.language.Quiet
  templates : ∀ name u, e.template? name = some u → u.Quiet

namespace Engine

variable {e e' : Engine}

theorem quiet_iff : e.Quiet ↔ e.Makes Script.Quiet := by
  constructor
  · rintro ⟨language, templates⟩
    exact ⟨Language.quiet_iff.1 language, fun name u found =>
      Template.quiet_iff.1 (templates name u found)⟩
  · rintro ⟨language, templates⟩
    exact ⟨Language.quiet_iff.2 language, fun name u found =>
      Template.quiet_iff.2 (templates name u found)⟩

theorem Quiet.compile (h : e.Quiet) {source : String} {t : Template}
    (eq : e.compile source = .ok t) : t.Quiet :=
  Template.quiet_of_compile h.language eq

theorem Quiet.addTemplate (h : e.Quiet) {name source : String}
    (eq : e.addTemplate name source = .ok e') : e'.Quiet :=
  quiet_iff.2 ((quiet_iff.1 h).addTemplate eq)

theorem Quiet.addDirective (h : e.Quiet) (name : String) {d : Definition} (hd : d.Quiet) :
    (e.addDirective name d).Quiet :=
  quiet_iff.2 ((quiet_iff.1 h).addDirective name (Definition.quiet_iff.1 hd))

theorem Quiet.withStore (h : e.Quiet) (store : Option CacheStore) : (e.withStore store).Quiet :=
  ⟨h.language, h.templates⟩

/-- The standard directives make no calls to the store by themselves. -/
theorem quiet_new (delimiters : Delimiters) : (new delimiters).Quiet :=
  quiet_iff.2 (makes_new Script.closed_quiet delimiters)

end Engine

end Stencil
