import Stencil.Proofs.Documents
import Stencil.Proofs.RepeatedPages

/-!
# The map of the facts about a page

The facts about a page are bound as a map, together with what the configuration has besides. What
the configuration has under the name of a fact is not passed on: it may ask for a size and for a
page, and no more. So the facts are always those that follow from the query.

- `PageInfo.facts`: the facts under their names.
- `PageInfo.Genuine`: a map of facts in which nothing has been forged.
- `PageConfig.genuine_of_read`: so is the map that is bound.
- `Directive.pagedQuery?`: the query that the first argument gives.
- `Directive.paginate_genuine`: what the directive for pages binds.
-/

namespace Stencil

open Render

/-! ## Dictionaries -/

namespace Dict

variable {α : Type} {key : String} {d d' : Dict α}

/-- Entries win over those before them. -/
theorem get?_ofList_append :
    get? key (ofList (d ++ d')) = (get? key (ofList d')).or (get? key (ofList d)) := by
  simp only [ofList, List.foldl_append, get?_foldl_insert, get?_nil, Option.or_none]

/-- Of entries under different keys none wins over another one. -/
theorem get?_ofList_of_nodup (distinct : (keys d).Nodup) : get? key (ofList d) = get? key d := by
  rw [ofList, get?_foldl_insert, get?_nil, Option.or_none]
  induction d with
  | nil => rfl
  | cons e d ih =>
    obtain ⟨k, v⟩ := e
    obtain ⟨new, distinct⟩ := List.nodup_cons.1 distinct
    rw [List.reverse_cons, get?_append, ih distinct, get?_cons, get?_cons]
    by_cases same : k = key
    · rw [if_pos same, if_pos same, get?_eq_none (same ▸ new), Option.none_or]
    · rw [if_neg same, if_neg same, get?_nil, Option.or_none]

theorem get?_filter (p : String → Bool) :
    get? key (d.filter fun e => p e.1) = if p key then get? key d else none := by
  induction d with
  | nil =>
    split
    · rfl
    · rfl
  | cons e d ih =>
    obtain ⟨k, v⟩ := e
    rw [List.filter_cons, get?_cons]
    by_cases same : k = key
    · subst same
      cases passes : p k with
      | true => simp
      | false => simp [ih, passes]
    · rw [if_neg same, ← ih]
      split
      · rw [get?_cons, if_neg same]
      · rfl

end Dict

namespace Value

variable {entries : Dict Value}

theorem get?_normalEntries (key : String) (entries : Dict Value) :
    Dict.get? key (normalEntries entries) = (Dict.get? key entries).map normal := by
  induction entries with
  | nil => rfl
  | cons e entries ih =>
    obtain ⟨k, v⟩ := e
    rw [normalEntries, Dict.get?_cons, Dict.get?_cons, ih]
    split
    · rfl
    · rfl

/-- Some of the entries of a map are ordered if all are. -/
theorem ordered_filter {p : String × Value → Bool} (h : (Value.map entries).Ordered) :
    (Value.map (entries.filter p)).Ordered := by
  refine ⟨h.1.filter p, orderedEntries_iff.2 ?_⟩
  intro e mem
  exact orderedEntries_iff.1 h.2 e (List.mem_filter.1 mem).1

end Value

/-! ## Facts -/

namespace PageInfo

open PageConfig (reserved)

/-- The facts about a page under their names. -/
def facts (i : PageInfo) : List (String × Value) :=
  [("total", .ofJson (.int i.total)), ("pageSize", .ofJson (.int i.pageSize)),
    ("currentPage", .ofJson (.int i.currentPage)), ("totalPages", .ofJson (.int i.totalPages)),
    ("first", .ofJson (.int i.first)), ("last", .ofJson (.int i.last)),
    ("prevPage", .ofJson (pageJson i.prevPage)), ("nextPage", .ofJson (pageJson i.nextPage))]

/-- The names of the facts are those that are not passed on. -/
theorem keys_facts (i : PageInfo) : Dict.keys i.facts = reserved := rfl

theorem nodup_reserved : reserved.Nodup := by decide

/-- The entries of the map of the facts, with what is passed on. -/
def entries (i : PageInfo) : Dict Value :=
  Dict.ofList (i.facts ++ Value.entriesOfJson (Value.entriesToJson i.extra))

theorem value_eq (i : PageInfo) : i.value = .map i.entries := by
  show Value.ofEntries (Value.entriesOfJson _) = _
  rw [Value.entriesOfJson_append]
  rfl

/-- A map of the facts about a page in which nothing has been forged: besides the facts it has what
a configuration has under other names, as it is by way of a document. -/
structure Genuine (configured : Dict Value) (i : PageInfo) (d : Dict Value) : Prop where
  sorted : Dict.Sorted d
  mem_keys : ∀ key, key ∈ Dict.keys d ↔ key ∈ reserved ∨ key ∈ Dict.keys configured
  /-- The facts are those about the page, whatever is configured. -/
  computed : ∀ fact ∈ i.facts, Dict.get? fact.1 d = some fact.2
  passed : ∀ key, key ∉ reserved →
    Dict.get? key d = (Dict.get? key configured).map Value.normal
  /-- A value without doubles that are infinite or undefined is passed on as it is. -/
  unchanged : ∀ key v, key ∉ reserved → Dict.get? key configured = some v → v.Finite →
    Dict.get? key d = some v

variable {i : PageInfo} {key : String}

theorem get?_facts {fact : String × Value} (mem : fact ∈ i.facts) :
    Dict.get? fact.1 (Dict.ofList i.facts) = some fact.2 := by
  have distinct : (Dict.keys i.facts).Nodup := nodup_reserved
  rw [Dict.get?_ofList_of_nodup distinct, Dict.get?_of_mem distinct mem]

theorem get?_facts_eq_none (other : key ∉ reserved) :
    Dict.get? key (Dict.ofList i.facts) = none := by
  have distinct : (Dict.keys i.facts).Nodup := nodup_reserved
  rw [Dict.get?_ofList_of_nodup distinct]
  exact Dict.get?_eq_none other

/-- The map has what is passed on, and the facts under all other keys. -/
theorem get?_entries (ordered : (Value.map i.extra).Ordered) :
    Dict.get? key i.entries =
      ((Dict.get? key i.extra).map Value.normal).or (Dict.get? key (Dict.ofList i.facts)) := by
  rw [entries, Dict.get?_ofList_append, Value.entriesOfJson_eq_normalEntries ordered.2,
    Dict.ofList_of_sorted (Value.sorted_normalEntries ordered.1), Value.get?_normalEntries]

/-- If a configuration is passed on but for the names of facts, nothing is forged. -/
theorem genuine_entries {configured : Dict Value} (ordered : (Value.map configured).Ordered)
    (extra : i.extra = configured.filter fun e => !reserved.contains e.1) :
    i.Genuine configured i.entries := by
  have found (key : String) : Dict.get? key i.entries =
      (if reserved.contains key then none else (Dict.get? key configured).map Value.normal).or
        (Dict.get? key (Dict.ofList i.facts)) := by
    rw [get?_entries (extra ▸ Value.ordered_filter ordered), extra,
      Dict.get?_filter fun key => !reserved.contains key]
    cases reserved.contains key with
    | true => rfl
    | false => rfl
  have passed (key : String) (other : key ∉ reserved) :
      Dict.get? key i.entries = (Dict.get? key configured).map Value.normal := by
    rw [found, if_neg (by simpa using other), get?_facts_eq_none other, Option.or_none]
  have computed (fact : String × Value) (mem : fact ∈ i.facts) :
      Dict.get? fact.1 i.entries = some fact.2 := by
    have named : fact.1 ∈ reserved := List.mem_map_of_mem (f := Prod.fst) mem
    rw [found, if_pos (List.contains_iff_mem.2 named), Option.none_or, get?_facts mem]
  constructor
  case sorted => exact Dict.sorted_ofList _
  case mem_keys =>
    intro key
    rw [← Dict.isSome_get?]
    by_cases name : key ∈ reserved
    · obtain ⟨fact, mem, rfl⟩ : ∃ fact ∈ i.facts, fact.1 = key := List.mem_map.1 name
      rw [computed fact mem]
      exact iff_of_true rfl (.inl name)
    · rw [passed key name, Option.isSome_map, Dict.isSome_get?]
      exact (or_iff_right name).symm
  case computed => exact computed
  case passed => exact passed
  case unchanged =>
    intro key v other configured finite
    rw [passed key other, configured, Option.map_some, Value.normal_of_finite finite]

end PageInfo

/-- A configuration that is read asks for a size and a page by their names, and is passed on but for
the names of facts. -/
theorem PageConfig.read_eq_ok {entries : Dict Value} {config : PageConfig}
    (h : read (.map entries) = .ok config) :
    positiveAt entries "pageSize" .pageSize = .ok config.pageSize ∧
      (∃ n, positiveAt entries "currentPage" .currentPage = .ok n ∧
        config.currentPage = n.map Int.ofNat) ∧
      config.extra = entries.filter fun e => !reserved.contains e.1 := by
  obtain ⟨pageSize, size, h⟩ := Parse.bind_eq_ok h
  obtain ⟨currentPage, number, h⟩ := Parse.bind_eq_ok h
  cases h
  exact ⟨size, ⟨currentPage, number, rfl⟩, rfl⟩

/-! ## The directive -/

/-- A query that can be counted and sliced has a page. -/
theorem Query.page_of_slice {q : Query} {config : PageConfig} {requested : Option Int}
    {size total : Nat} {rows : List Value} (count : q.count = .ok total) :
    let pageSize := q.pageSizeOf config size
    let number :=
      PageInfo.clamp (config.askedPage requested) (PageInfo.pageCount total pageSize)
    q.slice (PageInfo.offset number pageSize) pageSize = .ok rows →
      q.page config requested size =
        .ok (rows, .of total pageSize number rows.length config.extra) := by
  intro pageSize number slice
  unfold page
  simp only [count, bind, Except.bind]
  rw [show max 1 ((config.pageSize.or q.limit).getD size) = pageSize from rfl,
    show PageInfo.clamp ((config.currentPage.or requested).getD 1)
      (PageInfo.pageCount total pageSize) = number from rfl, slice]

namespace Directive

variable {e : Engine} {origin : Origin} {s : RenderState} {args : List Value} {q : Query}
  {bindings : List (String × Value)}

/-- The query that the first argument gives: an attached one by its name, or the rows of a list. -/
def pagedQuery? (args : List Value) (queries : Dict Query) : Option Query :=
  match args.head? with
  | some (.text name) => if name.isEmpty then none else Dict.get? name queries
  | some (.list rows) => some (.ofRows rows none)
  | _ => none

/-- A list that can be paged is paged: its rows and the facts about them are bound. -/
theorem run_paginate_rows {rows : List Value}
    (page : pageBindings e.settings s.request (.list rows :: args) (.ofRows rows none) =
      .ok bindings) :
    ((runPaginate (.list rows :: args)).run e origin).run s =
      (.ok .next, { s with frames := RenderState.boundAll bindings s.frames }) := by
  obtain ⟨rowsName, infoName, config, results, info, hrows, hinfo, hconfig, hpage, rfl⟩ :=
    exists_page page
  rw [runPaginate, Script.run_view_bind]
  simp only [RenderState.view, hrows, hinfo, hconfig, Script.lift_ok_bind, List.head?_cons, hpage]
  rfl

/-- What gives a query that can be paged is paged. -/
theorem exists_run_paginate (origin : Origin) (query : pagedQuery? args s.queries = some q)
    (page : pageBindings e.settings s.request args q = .ok bindings) :
    ∃ s', ((runPaginate args).run e origin).run s = (.ok .next, s') ∧
      s'.frames = RenderState.boundAll bindings s.frames := by
  unfold pagedQuery? at query
  split at query
  · next name head =>
    obtain ⟨rest, rfl⟩ := List.head?_eq_some_iff.1 head
    split at query
    · cases query
    · next given =>
      have given : name ≠ "" := fun empty => given (String.isEmpty_iff.2 empty)
      exact ⟨_, (run_paginate origin given query page).1, rfl⟩
  · next rows head =>
    obtain ⟨rest, rfl⟩ := List.head?_eq_some_iff.1 head
    cases query
    exact ⟨_, run_paginate_rows page, rfl⟩
  · cases query

/-- With a configuration that is accepted and a query that can be counted and sliced, the directive
for pages binds the rows of the page and a map of the facts about it in which nothing has been
forged: the configuration gives a size and a page to ask for, and what it has under other names than
those of the facts. -/
theorem paginate_genuine {rowsName infoName : String} {configured : Dict Value}
    {config : PageConfig} {total : Nat} {rows : List Value}
    (rowsNamed : bindingName args[1]? e.settings.resultsKey = .ok rowsName)
    (infoNamed : bindingName args[2]? e.settings.pageInfoKey = .ok infoName)
    (given : args[3]? = some (.map configured)) (ordered : (Value.map configured).Ordered)
    (accepted : PageConfig.read (.map configured) = .ok config)
    (query : pagedQuery? args s.queries = some q) (count : q.count = .ok total) :
    let size := q.pageSizeOf config e.settings.defaultPageSize
    let number := PageInfo.clamp (config.askedPage (s.request.page.map Int64.toInt))
      (PageInfo.pageCount total size)
    q.slice (PageInfo.offset number size) size = .ok rows →
      PageConfig.positiveAt configured "pageSize" .pageSize = .ok config.pageSize ∧
      (∃ n, PageConfig.positiveAt configured "currentPage" .currentPage = .ok n ∧
        config.currentPage = n.map Int.ofNat) ∧
      ∃ d s', ((runPaginate args).run e origin).run s = (.ok .next, s') ∧
        s'.frames =
          RenderState.boundAll [(rowsName, .list rows), (infoName, .map d)] s.frames ∧
        (PageInfo.of total size number rows.length []).Genuine configured d := by
  intro size number slice
  obtain ⟨sized, numbered, extra⟩ := PageConfig.read_eq_ok accepted
  have page := Query.page_of_slice count slice
  let info := PageInfo.of total size number rows.length config.extra
  have bound : pageBindings e.settings s.request args q =
      .ok [(rowsName, .list rows), (infoName, info.value)] := by
    refine pageBindings_of_page rowsNamed infoNamed ?_ page
    rw [given]
    exact accepted
  obtain ⟨s', run, frames⟩ := exists_run_paginate origin query bound
  rw [PageInfo.value_eq] at frames
  -- the facts are the same with nothing passed on
  have genuine : info.Genuine configured info.entries := PageInfo.genuine_entries ordered extra
  refine ⟨sized, numbered, info.entries, s', run, frames, ?_⟩
  exact ⟨genuine.sorted, genuine.mem_keys, genuine.computed, genuine.passed, genuine.unchanged⟩

/-- A configuration with the name of a fact, and with a map under another name. -/
def forged : Dict Value :=
  [("pageSize", .int 2), ("tags", .map [("x", .list [.int 1])]), ("total", .int 99)]

/-- A list of three rows, and the configuration. -/
def forgedArgs : List Value := [.list [.int 1, .int 2, .int 3], .none, .none, .map forged]

/-- Of three rows there are three still if another number is configured, and what is configured
besides is passed on. -/
theorem paginate_genuine_forged :
    ∃ d s', ((runPaginate forgedArgs).run (.new .standard) ⟨"", 1, 1⟩).run
        ((Job.ofData .none).initial .none) = (.ok .next, s') ∧
      s'.frames = RenderState.boundAll
        [("elements", .list [.int 1, .int 2]), ("pageInfo", .map d)] [[]] ∧
      Dict.get? "total" d = some (.int 3) ∧
      Dict.get? "tags" d = some (.map [("x", .list [.int 1])]) := by
  have rowsNamed : bindingName forgedArgs[1]? (Engine.new .standard).settings.resultsKey =
    .ok "elements" := rfl
  have infoNamed : bindingName forgedArgs[2]? (Engine.new .standard).settings.pageInfoKey =
    .ok "pageInfo" := rfl
  have ordered : (Value.map forged).Ordered := by
    refine ⟨?_, trivial, ⟨List.pairwise_singleton _ _, ⟨trivial, trivial⟩, trivial⟩, trivial,
      trivial⟩
    show List.Pairwise _ _
    decide
  have accepted : PageConfig.read (.map forged) = .ok ⟨some 2, none, [forged[1]]⟩ := rfl
  have query : pagedQuery? forgedArgs ((Job.ofData .none).initial .none).queries =
    some (.ofRows [.int 1, .int 2, .int 3] none) := rfl
  obtain ⟨-, -, d, s', run, frames, genuine⟩ :=
    paginate_genuine rowsNamed infoNamed rfl ordered accepted query rfl rfl
  have total : Dict.get? "total" d = some (.ofJson (.int 3)) :=
    genuine.computed ("total", .ofJson (.int 3)) List.mem_cons_self
  have three : Value.ofJson (.int 3) = .int 3 := by
    rw [Value.ofJson, if_pos (by decide)]
    rfl
  have tags : Dict.get? "tags" d = some (.map [("x", .list [.int 1])]) :=
    genuine.unchanged "tags" _ (by decide) rfl ⟨⟨trivial, trivial⟩, trivial⟩
  exact ⟨d, s', run, frames, three ▸ total, tags⟩

end Directive

end Stencil
