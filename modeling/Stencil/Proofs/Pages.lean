import Mathlib.Algebra.Order.Floor.Div
import Stencil.Pagination

/-!
# Pages of a list

The pages of a list of rows are cut out of it one after the other. Page numbers have a sign and
numbers of rows have none, and both have 64 bits; with fewer rows than page numbers can count, no
step between the two loses anything, however large the pages are.

- `Query.pageSizeOf`, `PageConfig.askedPage`: the size of the pages and the page that is asked for.
- `PageInfo.lastPage`: the number of pages.
- `PageInfo.Faithful`: the facts about a page as they follow from the rows, with nothing cut off.
- `Query.page_partition`: a page of a list and the facts about it; the pages together are the list.
-/

namespace Stencil

/-- The size of the pages of a query: the configured one, else the limit of the query, else the
given one, and one row at least. -/
def Query.pageSizeOf (q : Query) (config : PageConfig) (defaultSize : Nat) : Nat :=
  max 1 ((config.pageSize.or q.limit).getD defaultSize)

/-- The page that is asked for: the configured one, else the requested one, else the first. -/
def PageConfig.askedPage (config : PageConfig) (requested : Option Int) : Int :=
  (config.currentPage.or requested).getD 1

namespace PageInfo

/-- The number of pages of so many rows; there is always one. -/
def lastPage (total size : Nat) : Nat := max 1 (total ⌈/⌉ size)

/-- The facts about a page as they follow from the rows. -/
structure Faithful (i : PageInfo) (rows results : List Value) (size : Nat) (asked : Int) :
    Prop where
  total_eq : i.total = rows.length
  pageSize_eq : i.pageSize = size
  totalPages_eq : i.totalPages = lastPage rows.length size
  currentPage_eq : i.currentPage = max 1 (min asked i.totalPages)
  results_eq : results =
    rows.extract ((i.currentPage.toNat - 1) * size) (min (i.currentPage.toNat * size) rows.length)
  first_eq : i.first = if rows = [] then 0 else (i.currentPage.toNat - 1) * size + 1
  last_eq : i.last = if rows = [] then 0 else min (i.currentPage.toNat * size) rows.length
  /-- The rows stand between the two positions. -/
  ends : rows ≠ [] → i.first ≤ i.last ∧ results = rows.extract (i.first - 1) i.last
  prevPage_eq : i.prevPage = if i.currentPage = 1 then none else some (i.currentPage - 1)
  nextPage_eq : i.nextPage = if i.last = i.total then none else some (i.currentPage + 1)
  /-- The number of pages is not cut off, and is a number with a sign. -/
  pageCount_exact : pageCount rows.length size = lastPage rows.length size ∧
    lastPage rows.length size < Word.signedBound
  /-- There is a page with the number, and there is one behind it if it is said so. -/
  currentPage_mem : 1 ≤ i.currentPage ∧ i.currentPage ≤ i.totalPages ∧
    ∀ n ∈ i.nextPage, n ≤ i.totalPages
  /-- The number of rows before the page is not cut off, and the last of its rows is there. -/
  offset_exact : offset i.currentPage size = (i.currentPage.toNat - 1) * size ∧
    offset i.currentPage size + results.length ≤ rows.length

/-! ## The numbers of pages -/

variable {total size p : Nat}

/-- All rows stand on the pages up to the last one. -/
theorem le_lastPage_mul (pos : 0 < size) : total ≤ lastPage total size * size := by
  have enough : total ≤ size * (total ⌈/⌉ size) := (ceilDiv_le_iff_le_mul pos).1 le_rfl
  have more : total ⌈/⌉ size ≤ lastPage total size := Nat.le_max_right ..
  calc total ≤ size * (total ⌈/⌉ size) := enough
    _ ≤ size * lastPage total size := Nat.mul_le_mul_left size more
    _ = lastPage total size * size := Nat.mul_comm ..

/-- As long as there are rows at all, the rows before a page are not all of them. -/
theorem mul_lt_total (pos : 0 < size) (some : 0 < total) (le : p ≤ lastPage total size) :
    (p - 1) * size < total := by
  by_cases behind : 1 < p
  · have more : ¬ total ⌈/⌉ size ≤ p - 1 := by
      intro few
      have last : lastPage total size ≤ p - 1 := Nat.max_le.2 ⟨by omega, few⟩
      omega
    rw [ceilDiv_le_iff_le_mul pos, Nat.not_le, Nat.mul_comm] at more
    exact more
  · have first : p - 1 = 0 := by omega
    rw [first, Nat.zero_mul]
    exact some

theorem mul_le_total (pos : 0 < size) (le : p ≤ lastPage total size) : (p - 1) * size ≤ total := by
  obtain rfl | some := Nat.eq_zero_or_pos total
  · rw [lastPage, zero_ceilDiv] at le
    have first : p - 1 = 0 := by omega
    rw [first, Nat.zero_mul]
  · exact (mul_lt_total pos some le).le

/-- A page is the last one if and only if it reaches to the last row. -/
theorem eq_lastPage_iff (pos : 0 < size) (one_le : 1 ≤ p) (le : p ≤ lastPage total size) :
    p = lastPage total size ↔ total ≤ p * size := by
  constructor
  · rintro rfl
    exact le_lastPage_mul pos
  · intro reaches
    have few : total ⌈/⌉ size ≤ p := (ceilDiv_le_iff_le_mul pos).2 (by rwa [Nat.mul_comm])
    exact Nat.le_antisymm le (Nat.max_le.2 ⟨one_le, few⟩)

theorem lastPage_le (pos : 0 < size) : lastPage total size ≤ max 1 total := by
  refine Nat.max_le.2 ⟨Nat.le_max_left .., Nat.le_trans ?_ (Nat.le_max_right ..)⟩
  exact (ceilDiv_le_iff_le_mul pos).2 (Nat.le_mul_of_pos_left total pos)

/-- The number of pages is not cut off. -/
theorem pageCount_eq (pos : 0 < size) (few : total < Word.signedBound) :
    pageCount total size = lastPage total size ∧ lastPage total size < Word.signedBound := by
  have le : lastPage total size ≤ max 1 total := lastPage_le pos
  have two : 1 < Word.signedBound := by decide
  have fits : lastPage total size < Word.signedBound := by omega
  refine ⟨?_, fits⟩
  rw [pageCount, ← Nat.ceilDiv_eq_add_pred_div, ← lastPage, Nat.min_eq_left (by omega)]
  rfl

/-- The page that is nearest to the one that is asked for. -/
theorem clamp_eq (asked : Int) {n : Nat} (one_le : 1 ≤ n) :
    ∃ p : Nat, clamp asked n = p ∧ 1 ≤ p ∧ p ≤ n := by
  refine ⟨(clamp asked n).toNat, ?_, ?_, ?_⟩ <;> unfold clamp <;> omega

/-- The number of rows before a page is not cut off. -/
theorem offset_eq (pos : 0 < size) (few : total < Word.signedBound)
    (le : p ≤ lastPage total size) : offset p size = (p - 1) * size := by
  have before := mul_le_total pos le
  have narrow : Word.signedBound < Word.bound := by decide
  have number : ((p : Int) - 1).toNat = p - 1 := by omega
  rw [offset, number, Nat.min_eq_left (by omega)]

end PageInfo

/-! ## The rows of pages -/

/-- A page begins where the one before it ends. -/
theorem mul_eq_add (size : Nat) {p : Nat} (one_le : 1 ≤ p) :
    p * size = (p - 1) * size + size := by
  rw [← Nat.succ_mul, Nat.succ_eq_add_one, Nat.sub_add_cancel one_le]

/-- The rows of a page end where the next page begins, or with the last row. -/
theorem take_drop_eq_extract {α : Type} (rows : List α) (size : Nat) {p : Nat} (one_le : 1 ≤ p) :
    (rows.drop ((p - 1) * size)).take size =
      rows.extract ((p - 1) * size) (min (p * size) rows.length) := by
  have next := mul_eq_add size one_le
  rw [List.extract_eq_take_drop, next]
  by_cases full : (p - 1) * size + size ≤ rows.length
  · rw [Nat.min_eq_left full, Nat.add_sub_cancel_left]
  · rw [Nat.min_eq_right (by omega), List.take_of_length_le, List.take_of_length_le]
    · rw [List.length_drop]
    · rw [List.length_drop]
      omega

/-- So many pages one after the other. -/
theorem flatten_pages {α : Type} (rows : List α) (size n : Nat) :
    ((List.range n).map fun k => (rows.drop (k * size)).take size).flatten =
      rows.take (n * size) := by
  induction n with
  | zero => rw [Nat.zero_mul]; rfl
  | succ n ih =>
    rw [List.range_succ, List.map_append, List.flatten_append, ih, Nat.succ_mul, List.take_add]
    simp only [List.map_cons, List.map_nil, List.flatten_cons, List.flatten_nil, List.append_nil]

namespace Query

open PageInfo (lastPage)

variable {rows : List Value}

theorem pageSizeOf_pos {q : Query} {config : PageConfig} {defaultSize : Nat} :
    0 < q.pageSizeOf config defaultSize := Nat.le_max_left ..

/-- A page of a list, with its number. -/
theorem page_eq (limit : Option Nat) (config : PageConfig) (requested : Option Int)
    (defaultSize : Nat) (few : rows.length < Word.signedBound) :
    let size := (ofRows rows limit).pageSizeOf config defaultSize
    ∃ p : Nat, 1 ≤ p ∧ p ≤ lastPage rows.length size ∧
      (p : Int) = max 1 (min (config.askedPage requested) (lastPage rows.length size)) ∧
      (ofRows rows limit).page config requested defaultSize =
        .ok ((rows.drop ((p - 1) * size)).take size,
          .of rows.length size p ((rows.drop ((p - 1) * size)).take size).length config.extra) := by
  intro size
  have pos : 0 < size := pageSizeOf_pos
  obtain ⟨p, clamped, one_le, le⟩ :=
    PageInfo.clamp_eq (config.askedPage requested) (Nat.le_max_left 1 (rows.length ⌈/⌉ size))
  refine ⟨p, one_le, le, clamped.symm, ?_⟩
  have shown : PageInfo.clamp ((config.currentPage.or requested).getD 1)
      (PageInfo.pageCount rows.length size) = p := by
    rw [(PageInfo.pageCount_eq pos few).1]
    exact clamped
  have before := PageInfo.offset_eq pos few le
  unfold page
  simp only [ofRows, bind, Except.bind]
  rw [show max 1 ((config.pageSize.or limit).getD defaultSize) = size from rfl, shown, before]

section

variable {size p : Nat} (one_le : 1 ≤ p)
include one_le

theorem length_page : ((rows.drop ((p - 1) * size)).take size).length =
    min (p * size) rows.length - (p - 1) * size := by
  have next := mul_eq_add size one_le
  rw [List.length_take, List.length_drop, next]
  omega

variable (pos : 0 < size) (le : p ≤ lastPage rows.length size)
include pos le

/-- A page has a row unless there is none at all. -/
theorem length_page_eq_zero_iff :
    ((rows.drop ((p - 1) * size)).take size).length = 0 ↔ rows = [] := by
  rw [length_page one_le]
  constructor
  · intro zero
    by_contra rest
    have some := PageInfo.mul_lt_total pos (List.length_pos_iff.2 rest) le
    have next := mul_eq_add size one_le
    omega
  · rintro rfl
    rw [List.length_nil, Nat.min_zero, Nat.zero_sub]

/-- The last row of a page is the last one of all if and only if the page is the last one. -/
theorem end_eq_length_iff :
    (if rows = [] then 0 else min (p * size) rows.length) = rows.length ↔
      p = lastPage rows.length size := by
  rw [PageInfo.eq_lastPage_iff pos one_le le]
  by_cases nothing : rows = []
  · rw [if_pos nothing, nothing]
    exact iff_of_true rfl (Nat.zero_le _)
  · rw [if_neg nothing]
    omega

variable (few : rows.length < Word.signedBound) (extra : Dict Value)
include few

theorem first_of_page :
    (PageInfo.of rows.length size p ((rows.drop ((p - 1) * size)).take size).length extra).first =
      if rows = [] then 0 else (p - 1) * size + 1 := by
  show (if _ = 0 then 0 else PageInfo.offset p size + 1) = _
  rw [PageInfo.offset_eq pos few le]
  exact if_congr (length_page_eq_zero_iff one_le pos le) rfl rfl

theorem last_of_page :
    (PageInfo.of rows.length size p ((rows.drop ((p - 1) * size)).take size).length extra).last =
      if rows = [] then 0 else min (p * size) rows.length := by
  have inside := PageInfo.mul_le_total pos le
  have next := mul_eq_add size one_le
  have ends : (p - 1) * size + ((rows.drop ((p - 1) * size)).take size).length =
      min (p * size) rows.length := by
    rw [length_page one_le]
    omega
  show (if _ = 0 then 0 else PageInfo.offset p size + _) = _
  rw [PageInfo.offset_eq pos few le, ends]
  exact if_congr (length_page_eq_zero_iff one_le pos le) rfl rfl

/-- The facts about a page of a list say what follows from the rows. -/
theorem faithful_of {asked : Int}
    (nearest : (p : Int) = max 1 (min asked (lastPage rows.length size))) :
    (PageInfo.of rows.length size p ((rows.drop ((p - 1) * size)).take size).length
      extra).Faithful rows ((rows.drop ((p - 1) * size)).take size) size asked := by
  have number : (p : Int).toNat = p := Int.toNat_natCast p
  have count := PageInfo.pageCount_eq pos few
  have inside := PageInfo.mul_le_total pos le
  have cut := take_drop_eq_extract rows size one_le
  have first_eq := first_of_page one_le pos le few extra
  have last_eq := last_of_page one_le pos le few extra
  have ended := end_eq_length_iff one_le pos le
  constructor
  case total_eq => rfl
  case pageSize_eq => rfl
  case totalPages_eq => exact count.1
  case currentPage_eq =>
    show (p : Int) = max 1 (min asked (PageInfo.pageCount rows.length size))
    rw [count.1]
    exact nearest
  case results_eq =>
    show _ = rows.extract (((p : Int).toNat - 1) * size) (min ((p : Int).toNat * size) _)
    rw [number]
    exact cut
  case first_eq =>
    show _ = if rows = [] then 0 else ((p : Int).toNat - 1) * size + 1
    rw [number]
    exact first_eq
  case last_eq =>
    show _ = if rows = [] then 0 else min ((p : Int).toNat * size) rows.length
    rw [number]
    exact last_eq
  case ends =>
    intro rest
    have some := PageInfo.mul_lt_total pos (List.length_pos_iff.2 rest) le
    have next := mul_eq_add size one_le
    rw [first_eq, last_eq, if_neg rest, if_neg rest]
    exact ⟨by omega, cut⟩
  case prevPage_eq =>
    show (if 1 < (p : Int) then _ else _) = if (p : Int) = 1 then _ else _
    by_cases first : p = 1
    · rw [if_neg (by omega), if_pos (by omega)]
    · rw [if_pos (by omega), if_neg (by omega)]
      rfl
  case nextPage_eq =>
    show (if (p : Int) < PageInfo.pageCount rows.length size then _ else _) =
      if _ = rows.length then _ else _
    rw [count.1, last_eq]
    by_cases final : p = lastPage rows.length size
    · rw [if_neg (by omega), if_pos (ended.2 final)]
    · rw [if_pos (by omega), if_neg fun h => final (ended.1 h)]
      rfl
  case pageCount_exact => exact count
  case currentPage_mem =>
    show 1 ≤ (p : Int) ∧ (p : Int) ≤ PageInfo.pageCount rows.length size ∧
      ∀ n ∈ (if (p : Int) < PageInfo.pageCount rows.length size then some ((p : Int) + 1)
        else none), n ≤ PageInfo.pageCount rows.length size
    rw [count.1]
    refine ⟨by omega, by omega, fun n mem => ?_⟩
    split at mem
    · cases mem
      omega
    · cases mem
  case offset_exact =>
    show PageInfo.offset p size = ((p : Int).toNat - 1) * size ∧ PageInfo.offset p size + _ ≤ _
    rw [number, PageInfo.offset_eq pos few le, length_page one_le]
    exact ⟨rfl, by omega⟩

end

/-- A page of a list is the part of its rows that follows from the size of the pages and from the
page that is asked for, the facts about it are those that follow from the rows, and all pages one
after the other are the list. -/
theorem page_partition (rows : List Value) (limit : Option Nat) (config : PageConfig)
    (requested : Option Int) (defaultSize : Nat) (few : rows.length < Word.signedBound) :
    let q := ofRows rows limit
    let size := q.pageSizeOf config defaultSize
    (∃ results info, q.page config requested defaultSize = .ok (results, info) ∧
      info.Faithful rows results size (config.askedPage requested) ∧ info.extra = config.extra) ∧
    ∃ parts : List (List Value),
      parts.length = lastPage rows.length size ∧ parts.flatten = rows ∧
      ∀ (k : Nat) (inside : k < parts.length) (config' : PageConfig) (requested' : Option Int),
        config'.pageSize = config.pageSize → config'.askedPage requested' = k + 1 →
          (q.page config' requested' defaultSize).map Prod.fst = .ok parts[k] := by
  intro q size
  have pos : 0 < size := pageSizeOf_pos
  constructor
  · obtain ⟨p, one_le, le, nearest, page⟩ := page_eq limit config requested defaultSize few
    exact ⟨_, _, page, faithful_of one_le pos le few config.extra nearest, rfl⟩
  · refine ⟨(List.range (lastPage rows.length size)).map fun k => (rows.drop (k * size)).take size,
      by rw [List.length_map, List.length_range], ?_, ?_⟩
    · rw [flatten_pages]
      exact List.take_of_length_le (PageInfo.le_lastPage_mul pos)
    · intro k inside config' requested' same asked
      rw [List.length_map, List.length_range] at inside
      obtain ⟨p, -, -, nearest, page⟩ := page_eq limit config' requested' defaultSize few
      have size_eq : q.pageSizeOf config' defaultSize = size := by
        rw [pageSizeOf, same]
        rfl
      rw [size_eq, asked] at nearest
      have number : p - 1 = k := by omega
      rw [page, List.getElem_map, List.getElem_range]
      show Except.ok _ = _
      rw [size_eq, number]

/-- Of three rows on pages of two, the page behind the last one is asked for. -/
theorem page_partition_three :
    let rows : List Value := [.bool true, .none, .bool false]
    let page := (ofRows rows none).page ⟨some 2, none, []⟩ (some 9) 50
    rows.length < Word.signedBound ∧
      (∃ results info, page = .ok (results, info) ∧ info.Faithful rows results 2 9 ∧
        info.extra = []) ∧
      page.map (fun p => (p.1, p.2.first, p.2.last, p.2.prevPage, p.2.nextPage)) =
        .ok ([.bool false], 3, 3, some 1, none) := by
  intro rows page
  have few : rows.length < Word.signedBound := by decide
  have second : ((ofRows [.bool true, .none, .bool false] none).page ⟨some 2, none, []⟩ (some 9)
      50).map (fun p => (p.1, p.2.first, p.2.last, p.2.prevPage, p.2.nextPage)) =
        .ok ([.bool false], 3, 3, some 1, none) := rfl
  exact ⟨few, (page_partition rows none ⟨some 2, none, []⟩ (some 9) 50 few).1, second⟩

end Query

end Stencil
