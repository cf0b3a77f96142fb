import Stencil.Proofs.Bindings
import Stencil.Proofs.Pages

/-!
# Pages of a query, once more

A query is paged with its own limit unless a size is configured, and it loses this limit. So a
query that is paged for a second time has the standard size of pages if it had a limit before; in
all other cases it gives the same rows and the same facts again, since nothing else about it can
change.

- `Script.Limits`: which limits a script sets.
- `Machine.Path.holds`: along a path, a query keeps its rows and gets only limits that are set.
- `Directive.pageBindings`: the rows of a page and the facts about it under their names.
- `Machine.Config.Paginates`: the machine is about to page a query.
- `Machine.Path.paginate_again`: a query that is paged a second time.
-/

namespace Stencil

open Render

/-! ## Limits -/

namespace Query

variable {q q' : Query} {l : Option Nat}

@[simp] theorem setLimit_setLimit (l' : Option Nat) : (q.setLimit l).setLimit l' = q.setLimit l' :=
  rfl

end Query

namespace Script

variable {α : Type} {P : Option Nat → Prop}

/-- Every limit that the script sets is one of the given ones. -/
def Limits (P : Option Nat → Prop) : Script α → Prop
  | .done _ => True
  | .fail _ => True
  | .full => True
  | .look next => ∀ v, (next v).Limits P
  | .write _ next => ∀ accepted, (next accepted).Limits P
  | .assign _ _ next => next.Limits P
  | .respond _ next => next.Limits P
  | .limit _ l next => P l ∧ next.Limits P
  | .ask _ next => ∀ answer, (next answer).Limits P

theorem limits_any : ∀ s : Script α, s.Limits fun _ => True
  | .done _ => trivial
  | .fail _ => trivial
  | .full => trivial
  | .look next => fun v => limits_any (next v)
  | .write _ next => fun accepted => limits_any (next accepted)
  | .assign _ _ next => limits_any next
  | .respond _ next => limits_any next
  | .limit _ _ next => ⟨trivial, limits_any next⟩
  | .ask _ next => fun answer => limits_any (next answer)

@[simp] theorem lift_ok_bind {β : Type} (a : α) (k : α → Script β) :
    (lift (.ok a) >>= k) = k a := rfl

theorem run_view_bind {β : Type} {k : View → Script β} {e : Engine} {origin : Origin}
    {st : RenderState} :
    ((view >>= k).run e origin).run st = ((k (st.view e origin)).run e origin).run st := rfl

/-- A script that goes on with the result of a computation has one. -/
theorem run_lift_bind_eq_ok {β : Type} {r : Except Error α} {k : α → Script β} {e : Engine}
    {origin : Origin} {st st' : RenderState} {b : β}
    (h : ((lift r >>= k).run e origin).run st = (.ok b, st')) :
    ∃ a, r = .ok a ∧ ((k a).run e origin).run st = (.ok b, st') := by
  cases r with
  | ok a => exact ⟨a, rfl, h⟩
  | error err => cases h

/-- The script sets no limit other than none. -/
def Unlimiting (s : Script α) : Prop := s.Limits fun l => l = none

/-- The standard directives only take limits away. -/
theorem closed_unlimiting : Closed fun s => s.Unlimiting where
  goOn _ := trivial
  redirect _ _ _ := trivial
  fail _ := trivial
  view h := h
  put _ _ h := fun
    | true => h
    | false => trivial
  set _ _ _ h := h
  setHeader _ _ _ h := h
  limit _ _ h := ⟨rfl, h⟩

end Script

namespace RenderState

/-- A query has its rows still, and its limit unless it has been set to one of the given ones. -/
def Holds (P : Option Nat → Prop) (name : String) (q : Query) (s : RenderState) : Prop :=
  ∃ l, (l = q.limit ∨ P l) ∧ Dict.get? name s.queries = some (q.setLimit l)

variable {P : Option Nat → Prop} {name : String} {q : Query} {s s' : RenderState}

theorem Holds.congr (h : s.Holds P name q) (same : s'.queries = s.queries) : s'.Holds P name q := by
  obtain ⟨l, limit, found⟩ := h
  exact ⟨l, limit, same ▸ found⟩

theorem Holds.setLimit (h : s.Holds P name q) (query : String) {l : Option Nat} (hl : P l)
    {u : Unit} (run : (setLimit query l).run s = (.ok u, s')) : s'.Holds P name q := by
  obtain ⟨l', limit, found⟩ := h
  rw [Render.setLimit, run_modify] at run
  obtain rfl := congrArg Prod.snd run
  dsimp only
  cases hq : Dict.get? query s.queries with
  | none => exact ⟨l', limit, found⟩
  | some r =>
    by_cases same : query = name
    · subst same
      cases hq.symm.trans found
      refine ⟨l, .inr hl, ?_⟩
      dsimp only
      rw [Dict.get?_insert, if_pos rfl, Query.setLimit_setLimit]
    · refine ⟨l', limit, ?_⟩
      dsimp only
      rw [Dict.get?_insert, if_neg same]
      exact found

end RenderState

theorem Script.Limits.holds {α : Type} {P : Option Nat → Prop} {name : String} {q : Query}
    {e : Engine} {origin : Origin} {a : α} {st' : RenderState} :
    ∀ {s : Script α} {st : RenderState}, s.Limits P → (s.run e origin).run st = (.ok a, st') →
      st.Holds P name q → st'.Holds P name q
  | .done _, _, _, run, h => by
    cases run
    exact h
  | .fail _, _, _, run, _ => by cases run
  | .full, _, _, run, _ => by cases run
  | .look next, _, limits, run, h => holds (s := next _) (limits _) run h
  | .write text next, st, limits, run, h => by
    obtain ⟨accepted, st₁, offered, run⟩ := bind_eq_ok run
    have kept := keeps_lasting_offer text _ _ _ offered
    simp only [RenderState.lasting, Prod.mk.injEq] at kept
    exact holds (limits accepted) run (h.congr kept.2.1)
  | .assign name value next, st, limits, run, h => by
    obtain ⟨_, st₁, bound, run⟩ := bind_eq_ok run
    cases bound
    exact holds (s := next) limits run (h.congr rfl)
  | .respond change next, st, limits, run, h => by
    obtain ⟨_, st₁, responded, run⟩ := bind_eq_ok run
    cases responded
    exact holds (s := next) limits run (h.congr rfl)
  | .limit query l next, st, limits, run, h => by
    obtain ⟨_, st₁, set, run⟩ := bind_eq_ok run
    exact holds (s := next) limits.2 run (h.setLimit query limits.1 set)
  | .ask c next, st, limits, run, h => by
    obtain ⟨answer, w, asked⟩ := exists_run_ask e.store c st
    obtain ⟨answer', st₁, asked', run⟩ := bind_eq_ok run
    cases asked.symm.trans asked'
    exact holds (limits answer) run (h.congr rfl)

namespace Machine

variable {e : Engine} {limit : Nat} {c c' : Config} {ps : List Passage} {P : Option Nat → Prop}
  {name : String} {q : Query}

/-- Every limit that a directive sets in a step is one of the given ones. -/
def Passage.Limits (P : Option Nat → Prop) (p : Passage) : Prop :=
  ∀ d, p.before.next?.bind Instr.directive? = some d → d.Makes fun s => s.Limits P

theorem Passage.limits_any (p : Passage) : p.Limits fun _ => True :=
  fun d _ args => (d.run args).limits_any

theorem Moves.holds (move : Moves e limit c c') (limits : (Passage.mk c c').Limits P)
    (h : c.state.Holds P name q) : c'.state.Holds P name q := by
  cases directive : c.next?.bind Instr.directive? with
  | none => exact h.congr (move.reframes_of_none directive).queries
  | some d =>
    have made := limits d directive
    cases hstack : c.stack with
    | nil => exact absurd hstack move.1
    | cons a rest =>
      rw [Config.next?, hstack] at directive
      obtain ⟨flow, s, performed, reframes⟩ := move.reframes_of_directive hstack directive
      obtain ⟨args, -, run⟩ := Step.perform_eq_ok performed
      exact ((made args).holds run h).congr reframes.queries

/-- Along a path, a query keeps its rows and gets only limits that are set. -/
theorem Path.holds (path : Path e limit c ps c') (limits : ∀ p ∈ ps, p.Limits P)
    (h : c.state.Holds P name q) : c'.state.Holds P name q := by
  induction path with
  | nil => exact h
  | snoc _ move ih =>
    refine move.holds (limits _ (List.mem_append_right _ (List.mem_singleton_self _))) ?_
    exact ih fun p hp => limits p (List.mem_append_left _ hp)

/-- What holds of the directives of all templates holds of those in the steps of a render. -/
theorem Path.limits_of_makes {t : Template} {job : Job} {data : Value}
    (path : Path e limit (.start t job data) ps c)
    (ht : t.Makes fun s => s.Limits P)
    (he : ∀ name u, e.template? name = some u → u.Makes fun s => s.Limits P) :
    ∀ p ∈ ps, p.Limits P := by
  induction path with
  | nil =>
    intro p hp
    cases hp
  | @snoc ps c₁ c₂ path move ih =>
    intro p hp
    rcases List.mem_append.1 hp with hp | hp
    · exact ih p hp
    cases List.mem_singleton.1 hp
    intro d next
    cases hstack : c₁.stack with
    | nil => exact absurd hstack move.1
    | cons a rest =>
      rw [Config.next?, hstack] at next
      exact path.makes_of_next? ht he hstack next

/-- Standard directives set no limits. -/
theorem Path.limits_of_isStandard {t : Template} {job : Job} {data : Value}
    (path : Path e limit (.start t job data) ps c) (ht : t.IsStandard) (he : e.IsStandard) :
    ∀ p ∈ ps, p.Limits fun l => l = none :=
  path.limits_of_makes (ht.makes Script.closed_unlimiting) fun name u found =>
    (he.templates name u found).makes Script.closed_unlimiting

theorem Path.request (path : Path e limit c ps c') : c'.state.request = c.state.request := by
  induction path with
  | nil => rfl
  | snoc _ move ih => rw [move.request, ih]

end Machine

/-! ## Pages -/

namespace Query

variable {q : Query} {config : PageConfig} {requested : Option Int} {size : Nat} {l : Option Nat}

/-- A page depends on the limit of the query only through the size of pages. -/
theorem page_setLimit (same : (q.setLimit l).pageSizeOf config size = q.pageSizeOf config size) :
    (q.setLimit l).page config requested size = q.page config requested size := by
  unfold pageSizeOf at same
  unfold page
  rw [same]
  rfl

/-- Without its limit, a query has pages of the same size if the size is configured, and if the
limit has been the size that is given. -/
theorem pageSizeOf_setLimit_none :
    (q.setLimit none).pageSizeOf config size = q.pageSizeOf config size ↔
      config.pageSize.isSome ∨ max 1 (q.limit.getD size) = max 1 size := by
  unfold pageSizeOf
  cases config.pageSize with
  | none => simp [eq_comm]
  | some n => simp

/-- The facts about a page have its size. -/
theorem pageSize_of_page {rows : List Value} {info : PageInfo}
    (h : q.page config requested size = .ok (rows, info)) :
    info.pageSize = q.pageSizeOf config size ∧ info.extra = config.extra := by
  obtain ⟨total, -, h⟩ := Parse.bind_eq_ok h
  obtain ⟨rows', -, h⟩ := Parse.bind_eq_ok h
  cases h
  exact ⟨rfl, rfl⟩

end Query

namespace Value

theorem keys_entriesOfJson (members : List (String × Json)) :
    Dict.keys (entriesOfJson members) = members.map Prod.fst := by
  induction members with
  | nil => rfl
  | cons m members ih => exact congrArg (m.1 :: ·) ih

theorem keys_entriesToJson (entries : Dict Value) :
    (entriesToJson entries).map Prod.fst = Dict.keys entries := by
  induction entries with
  | nil => rfl
  | cons entry entries ih => exact congrArg (entry.1 :: ·) ih

theorem entriesOfJson_append (members members' : List (String × Json)) :
    entriesOfJson (members ++ members') = entriesOfJson members ++ entriesOfJson members' := by
  induction members with
  | nil => rfl
  | cons m members ih => exact congrArg (_ :: ·) ih

end Value

/-- What is passed on to the facts about a page has none of their names. -/
theorem PageConfig.extra_of_read {v : Value} {config : PageConfig} (h : read v = .ok config)
    {name : String} (reserved : reserved.contains name) : name ∉ Dict.keys config.extra := by
  unfold read at h
  split at h
  · cases h
    exact List.not_mem_nil
  · obtain ⟨pageSize, -, h⟩ := Parse.bind_eq_ok h
    obtain ⟨currentPage, -, h⟩ := Parse.bind_eq_ok h
    cases h
    intro among
    obtain ⟨entry, passed, rfl⟩ := List.mem_map.1 among
    have unreserved := (List.mem_filter.1 passed).2
    rw [reserved] at unreserved
    cases unreserved
  · cases h

/-- The size of a page is found among the facts about it, as far as it is a number with a sign. -/
theorem PageInfo.get?_pageSize {i : PageInfo} (unset : "pageSize" ∉ Dict.keys i.extra)
    (fits : i.pageSize < Word.signedBound) :
    i.value.map?.bind (Dict.get? "pageSize") = some (.int (Int64.ofNat i.pageSize)) := by
  have passed : Dict.get? "pageSize" (Value.entriesOfJson (Value.entriesToJson i.extra)).reverse =
      none := by
    refine Dict.get?_eq_none ?_
    rw [Dict.keys, List.map_reverse, List.mem_reverse]
    show "pageSize" ∉ Dict.keys _
    rw [Value.keys_entriesOfJson, Value.keys_entriesToJson]
    exact unset
  show Dict.get? "pageSize" (Dict.ofList (Value.entriesOfJson _)) = _
  rw [Dict.ofList, Dict.get?_foldl_insert, Value.entriesOfJson_append, List.reverse_append,
    Dict.get?_append, passed]
  show some (Value.ofJson (.int i.pageSize)) = _
  have signed : Word.fitsSigned i.pageSize := by
    rw [Word.fitsSigned, Bool.and_eq_true, decide_eq_true_iff, decide_eq_true_iff]
    simp only [Int.ofNat_eq_natCast]
    omega
  rw [Value.ofJson, if_pos signed]
  rfl

namespace Directive

/-- The rows of a page of a query and the facts about it, under the names that they are bound to. -/
def pageBindings (settings : Settings) (request : Request) (args : List Value) (q : Query) :
    Except Error (List (String × Value)) := do
  let rowsName ← bindingName args[1]? settings.resultsKey
  let infoName ← bindingName args[2]? settings.pageInfoKey
  let config ← PageConfig.read (args[3]?.getD .none)
  let (rows, info) ← q.page config (request.page.map Int64.toInt) settings.defaultPageSize
  .ok [(rowsName, .list rows), (infoName, info.value)]

variable {settings : Settings} {request : Request} {args : List Value} {q : Query}
  {bindings : List (String × Value)}

theorem exists_page (h : pageBindings settings request args q = .ok bindings) :
    ∃ rowsName infoName config rows info,
      bindingName args[1]? settings.resultsKey = .ok rowsName ∧
      bindingName args[2]? settings.pageInfoKey = .ok infoName ∧
      PageConfig.read (args[3]?.getD .none) = .ok config ∧
      q.page config (request.page.map Int64.toInt) settings.defaultPageSize = .ok (rows, info) ∧
      bindings = [(rowsName, .list rows), (infoName, info.value)] := by
  obtain ⟨rowsName, hrows, h⟩ := Parse.bind_eq_ok h
  obtain ⟨infoName, hinfo, h⟩ := Parse.bind_eq_ok h
  obtain ⟨config, hconfig, h⟩ := Parse.bind_eq_ok h
  obtain ⟨⟨rows, info⟩, hpage, h⟩ := Parse.bind_eq_ok h
  cases h
  exact ⟨rowsName, infoName, config, rows, info, hrows, hinfo, hconfig, hpage, rfl⟩

theorem pageBindings_of_page {rowsName infoName : String} {config : PageConfig}
    {rows : List Value} {info : PageInfo}
    (hrows : bindingName args[1]? settings.resultsKey = .ok rowsName)
    (hinfo : bindingName args[2]? settings.pageInfoKey = .ok infoName)
    (hconfig : PageConfig.read (args[3]?.getD .none) = .ok config)
    (hpage : q.page config (request.page.map Int64.toInt) settings.defaultPageSize =
      .ok (rows, info)) :
    pageBindings settings request args q =
      .ok [(rowsName, .list rows), (infoName, info.value)] := by
  rw [pageBindings, hrows, hinfo, hconfig]
  show (q.page config _ _ >>= _) = _
  rw [hpage]
  rfl

variable {e : Engine} {origin : Origin} {name : String} {s s' : RenderState} {flow : Flow}

/-- What a query is paged with is read first; then it loses its limit. -/
theorem runPaginate_eq (origin : Origin) {args : List Value} {rowsName infoName : String}
    {config : PageConfig} (given : name ≠ "") (found : Dict.get? name s.queries = some q)
    (hrows : bindingName (Value.text name :: args)[1]? e.settings.resultsKey = .ok rowsName)
    (hinfo : bindingName (Value.text name :: args)[2]? e.settings.pageInfoKey = .ok infoName)
    (hconfig : PageConfig.read ((Value.text name :: args)[3]?.getD .none) = .ok config) :
    ∃ next, runPaginate (.text name :: args) = .look next ∧
      next (s.view e origin) = .limit name none (bindPage rowsName infoName
        (q.page config (s.request.page.map Int64.toInt) e.settings.defaultPageSize)) := by
  refine ⟨_, rfl, ?_⟩
  simp only [Script.bind, RenderState.view, hrows, hinfo, hconfig, Script.lift_ok_bind,
    List.head?_cons, String.isEmpty_iff, given, found, if_false]

/-- A query that can be paged is paged: its rows and the facts about them are bound. -/
theorem run_paginate (origin : Origin) {args : List Value} (given : name ≠ "")
    (found : Dict.get? name s.queries = some q)
    (page : pageBindings e.settings s.request (.text name :: args) q = .ok bindings) :
    ((runPaginate (.text name :: args)).run e origin).run s =
        (.ok .next,
          { s with
            frames := RenderState.boundAll bindings s.frames
            queries := Dict.insert name (q.setLimit none) s.queries }) ∧
      (runPaginate (.text name :: args)).bindings e origin s = bindings := by
  obtain ⟨rowsName, infoName, config, rows, info, hrows, hinfo, hconfig, hpage, rfl⟩ :=
    exists_page page
  obtain ⟨next, script, limited⟩ :=
    runPaginate_eq origin given found hrows hinfo hconfig
  have bound : bindPage rowsName infoName (.ok (rows, info)) =
    .assign rowsName (.list rows) (.assign infoName info.value (.done .next)) := rfl
  rw [hpage, bound] at limited
  constructor
  · rw [script]
    show ((next (s.view e origin)).run e origin).run s = _
    rw [limited]
    show ((do
      setLimit name none
      bindVariable rowsName (.list rows)
      bindVariable infoName info.value
      pure .next : Render Flow)).run s = _
    simp only [setLimit, bindVariable, run_modify_bind, found]
    rfl
  · rw [script]
    show (next (s.view e origin)).bindings e origin s = _
    rw [limited]
    rfl

/-- A query that has been paged is attached, and has a page. -/
theorem run_paginate_eq_ok {args : List Value}
    (h : ((runPaginate (.text name :: args)).run e origin).run s = (.ok flow, s')) :
    name ≠ "" ∧ ∃ q bindings, Dict.get? name s.queries = some q ∧
      pageBindings e.settings s.request (.text name :: args) q = .ok bindings := by
  rw [runPaginate, Script.run_view_bind] at h
  obtain ⟨rowsName, hrows, h⟩ := Script.run_lift_bind_eq_ok h
  obtain ⟨infoName, hinfo, h⟩ := Script.run_lift_bind_eq_ok h
  obtain ⟨config, hconfig, h⟩ := Script.run_lift_bind_eq_ok h
  rw [List.head?_cons] at h
  dsimp only at h
  split at h
  · cases h
  · next given =>
    refine ⟨fun empty => given (String.isEmpty_iff.2 empty), ?_⟩
    split at h
    · cases h
    · next q found =>
      obtain ⟨_, s₁, -, h⟩ := bind_eq_ok h
      obtain ⟨⟨rows, info⟩, hpage, -⟩ := Script.run_lift_bind_eq_ok h
      exact ⟨q, _, found, pageBindings_of_page hrows hinfo hconfig hpage⟩

/-- With another limit, a query has the same page if the size of pages is the same. -/
theorem pageBindings_setLimit {l : Option Nat} {config : PageConfig}
    (hconfig : PageConfig.read (args[3]?.getD .none) = .ok config)
    (same : (q.setLimit l).pageSizeOf config settings.defaultPageSize =
      q.pageSizeOf config settings.defaultPageSize)
    (h : pageBindings settings request args q = .ok bindings) :
    pageBindings settings request args (q.setLimit l) = .ok bindings := by
  obtain ⟨_, _, config', _, _, hrows, hinfo, hconfig', hpage, rfl⟩ := exists_page h
  cases hconfig.symm.trans hconfig'
  exact pageBindings_of_page hrows hinfo hconfig ((Query.page_setLimit same).trans hpage)

/-- The facts about the page tell how large pages are. -/
theorem pageSizeOf_eq_of_pageBindings {l : Option Nat} {config : PageConfig} {request' : Request}
    {bindings' : List (String × Value)}
    (hconfig : PageConfig.read (args[3]?.getD .none) = .ok config)
    (h : pageBindings settings request args q = .ok bindings)
    (h' : pageBindings settings request' args (q.setLimit l) = .ok bindings')
    (fits : q.pageSizeOf config settings.defaultPageSize < Word.signedBound)
    (fits' : (q.setLimit l).pageSizeOf config settings.defaultPageSize < Word.signedBound)
    (same : bindings' = bindings) :
    (q.setLimit l).pageSizeOf config settings.defaultPageSize =
      q.pageSizeOf config settings.defaultPageSize := by
  obtain ⟨_, _, config₁, _, info, -, -, hconfig₁, hpage, rfl⟩ := exists_page h
  obtain ⟨_, _, config₂, _, info', -, -, hconfig₂, hpage', rfl⟩ := exists_page h'
  cases hconfig.symm.trans hconfig₁
  cases hconfig.symm.trans hconfig₂
  obtain ⟨size, extra⟩ := Query.pageSize_of_page hpage
  obtain ⟨size', extra'⟩ := Query.pageSize_of_page hpage'
  have unset : "pageSize" ∉ Dict.keys config.extra := PageConfig.extra_of_read hconfig (by decide)
  simp only [List.cons.injEq, Prod.mk.injEq] at same
  have facts := PageInfo.get?_pageSize (extra ▸ unset) (size ▸ fits)
  have facts' := PageInfo.get?_pageSize (extra' ▸ unset) (size' ▸ fits')
  rw [same.2.1.2, facts, Option.some.injEq, Value.int.injEq] at facts'
  have numbers := congrArg Int64.toInt facts'
  rw [Int64.toInt_ofNat_of_lt (size ▸ fits), Int64.toInt_ofNat_of_lt (size' ▸ fits'), size,
    size'] at numbers
  exact (Int.natCast_inj.1 numbers).symm

end Directive

/-! ## Once more -/

namespace Machine

variable {e : Engine} {limit : Nat} {c c' : Config} {ps before behind : List Passage}
  {p : Passage} {t : Template} {job : Job} {data : Value} {name : String} {args : List Value}

/-- The machine is about to page with some arguments. -/
def Config.Paginates (e : Engine) (c : Config) (args : List Value) : Prop :=
  ∃ a rest d names, c.stack = a :: rest ∧ a.next?.bind Instr.directive? = some d ∧
    d.run = (Fragment.call Directive.runPaginate).run ∧
    d.args.evaluate (c.state.scope e) a.template.source = .ok ⟨args, names⟩

/-- When the machine has paged a query, its page is bound, and it has lost its limit. -/
theorem Config.Paginates.bindings (paginates : c.Paginates e (.text name :: args))
    (move : Moves e limit c c') :
    name ≠ "" ∧ ∃ q, Dict.get? name c.state.queries = some q ∧
      Directive.pageBindings e.settings c.state.request (.text name :: args) q =
        .ok ((Passage.mk c c').bindings e) ∧
      Dict.get? name c'.state.queries = some (q.setLimit none) := by
  obtain ⟨a, rest, d, names, stack, next, script, evaluated⟩ := paginates
  obtain ⟨flow, s, performed, reframes⟩ := move.reframes_of_directive stack next
  obtain ⟨values, evaluated', run⟩ := Step.perform_eq_ok performed
  cases evaluated.symm.trans evaluated'
  rw [script] at run
  obtain ⟨given, q, bindings, found, page⟩ := Directive.run_paginate_eq_ok run
  obtain ⟨paged, bound⟩ := Directive.run_paginate d.origin given found page
  cases run.symm.trans paged
  refine ⟨given, q, found, ?_, ?_⟩
  · rw [Passage.bindings_of_directive (p := ⟨c, c'⟩) stack next, Step.bindings, evaluated, page]
    show Except.ok bindings = .ok ((d.run _).bindings e d.origin c.state)
    rw [script]
    exact congrArg Except.ok bound.symm
  · rw [reframes.queries]
    show Dict.get? name (Dict.insert name _ _) = _
    rw [Dict.get?_insert, if_pos rfl]

/-- A query that can be paged is paged. -/
theorem Config.Paginates.exists_moves (paginates : c.Paginates e (.text name :: args)) {q : Query}
    {bindings : List (String × Value)} (given : name ≠ "")
    (found : Dict.get? name c.state.queries = some q)
    (page : Directive.pageBindings e.settings c.state.request (.text name :: args) q =
      .ok bindings) :
    ∃ c', Moves e limit c c' ∧ (Passage.mk c c').bindings e = bindings := by
  obtain ⟨a, rest, d, names, stack, next, script, evaluated⟩ := paginates
  obtain ⟨paged, bound⟩ := Directive.run_paginate d.origin given found page
  have run : d.run ⟨.text name :: args, names⟩ = Directive.runPaginate (.text name :: args) :=
    congrFun script _
  rw [← run] at paged bound
  refine ⟨_, exists_moves_of_perform stack next (Step.run_perform evaluated paged), ?_⟩
  rw [Passage.bindings_of_directive (p := ⟨c, _⟩) stack next, Step.bindings, evaluated]
  exact bound

/-- A query that is paged a second time with the same arguments, whatever has been rendered in
between, has the rows that it has had. It has no limit now unless a directive has set one, and
standard directives set none. Its page is bound just as the first time if and only if the size of
pages is the same; with the limit gone, this is so if the size is configured, or if the limit has
given the size that is set for the engine. -/
theorem Path.paginate_again (path : Path e limit (.start t job data) ps c)
    (steps : ps = before ++ p :: behind) (first : p.before.Paginates e (.text name :: args))
    (again : c.Paginates e (.text name :: args)) :
    ∃ q config l, Dict.get? name p.before.state.queries = some q ∧
      Directive.pageBindings e.settings p.before.state.request (.text name :: args) q =
        .ok (p.bindings e) ∧
      PageConfig.read (args[2]?.getD .none) = .ok config ∧
      Dict.get? name c.state.queries = some (q.setLimit l) ∧
      (t.IsStandard ∧ e.IsStandard ∨ (∀ p' ∈ behind, p'.Limits fun l => l = none) → l = none) ∧
      let size (q : Query) := q.pageSizeOf config e.settings.defaultPageSize
      (size (q.setLimit l) = size q →
        ∃ c', Moves e limit c c' ∧ (Passage.mk c c').bindings e = p.bindings e) ∧
      (size q < Word.signedBound → size (q.setLimit l) < Word.signedBound →
        ∀ c', Moves e limit c c' → (Passage.mk c c').bindings e = p.bindings e →
          size (q.setLimit l) = size q) ∧
      (l = none → (size (q.setLimit l) = size q ↔ config.pageSize.isSome ∨
        max 1 (q.limit.getD e.settings.defaultPageSize) = max 1 e.settings.defaultPageSize)) := by
  subst steps
  have move := (path.moves (List.mem_append_right before List.mem_cons_self)).2.1
  obtain ⟨given, q, found, page, unlimited⟩ := first.bindings move
  obtain ⟨_, _, config, _, _, -, -, hconfig, -, -⟩ := Directive.exists_page page
  -- between the two, the query gets no limits but those that are set
  have holds {P : Option Nat → Prop} (limits : ∀ p' ∈ behind, p'.Limits P) :
      c.state.Holds P name (q.setLimit none) :=
    path.behind.holds limits ⟨none, .inl rfl, unlimited⟩
  obtain ⟨l, -, found'⟩ := holds fun p' _ => p'.limits_any
  rw [Query.setLimit_setLimit] at found'
  refine ⟨q, config, l, found, page, hconfig, found', ?_, ?_, ?_, ?_⟩
  · intro unlimiting
    have limits : ∀ p' ∈ behind, p'.Limits fun l => l = none := by
      rcases unlimiting with ⟨ht, he⟩ | limits
      · intro p' hp'
        exact path.limits_of_isStandard ht he p'
          (List.mem_append_right before (List.mem_cons_of_mem p hp'))
      · exact limits
    obtain ⟨l', none, found''⟩ := holds limits
    rw [found', Option.some.injEq, Query.setLimit_setLimit] at found''
    rcases none with rfl | rfl
    · exact congrArg Query.limit found''
    · exact congrArg Query.limit found''
  · intro same
    have request : c.state.request = p.before.state.request := by
      rw [path.behind.request, move.request]
    refine again.exists_moves given found' ?_
    rw [request]
    exact Directive.pageBindings_setLimit hconfig same page
  · intro fits fits' c' move' same
    obtain ⟨-, q', found'', page', -⟩ := again.bindings move'
    rw [found', Option.some.injEq] at found''
    subst found''
    exact Directive.pageSizeOf_eq_of_pageBindings hconfig page page' fits fits' same
  · rintro rfl
    exact Query.pageSizeOf_setLimit_none

/-- A directive that pages with some values. -/
def paging (args : List Value) : Directive where
  name := ⟨"paginate", ⟨0, 0⟩⟩
  args := .call (args.map fun v => .literal v ⟨0, 0⟩)
  origin := ⟨"", 1, 1⟩
  span := ⟨0, 0⟩
  run := (Fragment.call Directive.runPaginate).run

/-- A template that pages twice. -/
def pagingTwice (args : List Value) : Template :=
  ⟨none, "", [.directive (paging args), .directive (paging args)]⟩

/-- Three rows, two of which are on a page. -/
def threeRows : Job :=
  { Job.ofData .none with queries := [("q", .ofRows [.int 1, .int 2, .int 3] (some 2))] }

/-- The machine before it pages for the first time. -/
def unpaged (args : List Value) : Config := .start (pagingTwice args) threeRows .none

/-- The machine when it has paged for the first time. -/
def pagedOnce (args : List Value) : Config :=
  ⟨[⟨pagingTwice args, Stmt.layoutAll 0 (pagingTwice args).body, 1, false⟩],
    ((step (.new .standard) 1 (unpaged args).stack).run (unpaged args).state).2⟩

/-- With a size in the arguments, a query with a limit has the same page again. -/
theorem paginate_again_configured :
    let args := [Value.text "q", .none, .none, .map [("pageSize", .int 2)]]
    Path (.new .standard) 1 (unpaged args) [⟨unpaged args, pagedOnce args⟩] (pagedOnce args) ∧
      ∃ c, Moves (.new .standard) 1 (pagedOnce args) c ∧
        (Passage.mk (pagedOnce args) c).bindings (.new .standard) =
          (Passage.mk (unpaged args) (pagedOnce args)).bindings (.new .standard) := by
  intro args
  have path : Path (.new .standard) 1 (unpaged args) [⟨unpaged args, pagedOnce args⟩]
    (pagedOnce args) := .snoc .nil ⟨nofun, rfl⟩
  have steps : [Passage.mk (unpaged args) (pagedOnce args)] =
    [] ++ ⟨unpaged args, pagedOnce args⟩ :: [] := rfl
  have first : (unpaged args).Paginates (.new .standard) args := ⟨_, _, _, _, rfl, rfl, rfl, rfl⟩
  have again : (pagedOnce args).Paginates (.new .standard) args := ⟨_, _, _, _, rfl, rfl, rfl, rfl⟩
  obtain ⟨q, config, l, -, -, hconfig, -, -, repeated, -⟩ :=
    path.paginate_again steps first again
  cases hconfig
  exact ⟨path, repeated rfl⟩

/-- Without a size in its arguments, the same directive binds two rows of a query with a limit at
first, and all three of them the second time. -/
theorem not_paginate_again_limited :
    (unpaged [.text "q"]).Paginates (.new .standard) [.text "q"] ∧
      (pagedOnce [.text "q"]).Paginates (.new .standard) [.text "q"] ∧
      Moves (.new .standard) 1 (unpaged [.text "q"]) (pagedOnce [.text "q"]) ∧
      ∃ c, Moves (.new .standard) 1 (pagedOnce [.text "q"]) c ∧
        (Passage.mk (pagedOnce [.text "q"]) c).bindings (.new .standard) ≠
          (Passage.mk (unpaged [.text "q"]) (pagedOnce [.text "q"])).bindings (.new .standard) := by
  obtain ⟨info, once⟩ : ∃ info,
      (Passage.mk (unpaged [.text "q"]) (pagedOnce [.text "q"])).bindings (.new .standard) =
        [("elements", .list [.int 1, .int 2]), ("pageInfo", info)] := ⟨_, rfl⟩
  obtain ⟨info', twice⟩ : ∃ info,
      (Passage.mk (pagedOnce [.text "q"]) (pagedOnce [.text "q"])).bindings (.new .standard) =
        [("elements", .list [.int 1, .int 2, .int 3]), ("pageInfo", info)] := ⟨_, rfl⟩
  refine ⟨⟨_, _, _, _, rfl, rfl, rfl, rfl⟩, ⟨_, _, _, _, rfl, rfl, rfl, rfl⟩, ⟨nofun, rfl⟩,
    ⟨[_], _⟩, ⟨nofun, rfl⟩, fun same => ?_⟩
  rw [once] at same
  have rows := twice.symm.trans same
  cases (List.cons.inj rows).1

end Machine

end Stencil
