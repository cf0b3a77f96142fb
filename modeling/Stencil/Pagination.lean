import Stencil.Error
import Stencil.Query
import Stencil.Text.Blank
import Stencil.Value.Document
import Stencil.Word

/-!
# Pages of queries

- `PageConfig`: which page is asked for, and what is passed on to the facts about it.
- `PageConfig.read`: reads the configuration map.
- `PageInfo`: the facts about a page.
- `PageInfo.of`: the facts that follow from the number of rows, the size and the number of the page.
- `Query.page`: the rows of a page and the facts about it.

Specification: sections 4.5 and E4; `Config.parse`, `positive` and `PageInfo`.
-/

namespace Stencil

/-- Which page is asked for. -/
structure PageConfig where
  pageSize : Option Nat
  currentPage : Option Int
  /-- What is passed on to the facts about the page. -/
  extra : Dict Value

/-- The facts about a page. Pages are counted from one, and so are rows; without rows `first` and
`last` are zero. -/
structure PageInfo where
  total : Nat
  pageSize : Nat
  currentPage : Int
  totalPages : Int
  first : Nat
  last : Nat
  prevPage : Option Int
  nextPage : Option Int
  extra : Dict Value

/-! ## Configuration -/

namespace PageConfig

/-- Nothing is configured. -/
def default : PageConfig := ⟨none, none, []⟩

/-- The names of the facts, which are not passed on. -/
def reserved : List String :=
  ["total", "pageSize", "currentPage", "totalPages", "first", "last", "prevPage", "nextPage"]

/-- A positive number of 64 bits, written as a number or as text. -/
def positive? (v : Value) : Option Nat :=
  let n := match v with
    | .int n => some n.toInt
    | .text s => Decimal.readInt64 (Text.trim s.toList)
    | _ => none
  (n.filter (0 < ·)).map Int.toNat

/-- A positive number among the entries, if there is one other than none. -/
def positiveAt (entries : Dict Value) (name : String) (fault : ArgumentFault) :
    Except Error (Option Nat) :=
  match (Dict.get? name entries).getD .none with
  | .none => .ok none
  | v =>
    match positive? v with
    | some n => .ok (some n)
    | none => .error (.arguments fault)

/-- Reads a configuration; none configures nothing. -/
def read : Value → Except Error PageConfig
  | .none => .ok default
  | .map entries => do
    let pageSize ← positiveAt entries "pageSize" .pageSize
    let currentPage ← positiveAt entries "currentPage" .currentPage
    .ok ⟨pageSize, currentPage.map Int.ofNat, entries.filter fun e => !reserved.contains e.1⟩
  | v => .error (.arguments (.paginateConfig v.kind))

end PageConfig

/-! ## Pages -/

namespace PageInfo

/-- The number of pages; there is always one. -/
def pageCount (total pageSize : Nat) : Int :=
  Int.ofNat (min (max 1 ((total + pageSize - 1) / pageSize)) (Word.signedBound - 1))

/-- A page number moved to the nearest page that there is. -/
def clamp (page totalPages : Int) : Int := max 1 (min page totalPages)

/-- The number of rows before a page, as far as 64 bits reach. -/
def offset (currentPage : Int) (pageSize : Nat) : Nat :=
  min ((currentPage - 1).toNat * pageSize) (Word.bound - 1)

/-- The facts about a page with a number of rows on it. -/
def of (total pageSize : Nat) (currentPage : Int) (rows : Nat) (extra : Dict Value) : PageInfo :=
  let totalPages := pageCount total pageSize
  let offset := offset currentPage pageSize
  { total, pageSize, currentPage, totalPages, extra
    first := if rows = 0 then 0 else offset + 1
    last := if rows = 0 then 0 else offset + rows
    prevPage := if 1 < currentPage then some (currentPage - 1) else none
    nextPage := if currentPage < totalPages then some (currentPage + 1) else none }

/-- A page number as a document, `null` if there is none. -/
def pageJson : Option Int → Json
  | none => .null
  | some n => .int n

/-- The document of the facts, with what is passed on beside them. -/
def document (i : PageInfo) : Json :=
  .object ([("total", .int i.total), ("pageSize", .int i.pageSize),
    ("currentPage", .int i.currentPage), ("totalPages", .int i.totalPages),
    ("first", .int i.first), ("last", .int i.last), ("prevPage", pageJson i.prevPage),
    ("nextPage", pageJson i.nextPage)] ++ Value.entriesToJson i.extra)

/-- The facts as a value. -/
def value (i : PageInfo) : Value := .ofJson i.document

end PageInfo

/-- The rows of a page and the facts about it. The size of the page is the configured one, else the
limit of the query, else the given one; the number of the page is the configured one, else the
requested one, else one. -/
def Query.page (q : Query) (config : PageConfig) (requested : Option Int) (defaultSize : Nat) :
    Except Error (List Value × PageInfo) := do
  let failing {α : Type} : Except String α → Except Error α
    | .ok a => .ok a
    | .error text => .error (.ofCause (.store text))
  let pageSize := max 1 ((config.pageSize.or q.limit).getD defaultSize)
  let total ← failing q.count
  let currentPage :=
    PageInfo.clamp ((config.currentPage.or requested).getD 1) (PageInfo.pageCount total pageSize)
  let rows ← failing (q.slice (PageInfo.offset currentPage pageSize) pageSize)
  .ok (rows, .of total pageSize currentPage rows.length config.extra)

end Stencil
