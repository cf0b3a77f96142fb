import Stencil.Directive
import Stencil.Pagination

/-!
# The directive for pages

- `Directive.paginate`: binds the rows of a page and the facts about it. The rows are those of a
  list, or of a query that is given by its name; the query then loses its limit.

Specification: sections 4.5 and E4; `paginate`, `run` and `binding`.
-/

namespace Stencil.Directive

/-- The name of a binding; none stands for the standard one. -/
def bindingName (argument : Option Value) (standard : String) : Except Error String :=
  match argument with
  | none => .ok standard
  | some .none => .ok standard
  | some (.text s) =>
    if s.isEmpty then .error (.arguments (.paginateBinding (Value.text s).kind)) else .ok s
  | some v => .error (.arguments (.paginateBinding v.kind))

/-- Binds the rows of a page and the facts about it. -/
def bindPage (rowsName infoName : String) (page : Except Error (List Value × PageInfo)) :
    Script Flow := do
  let (rows, info) ← Script.lift page
  Script.set rowsName (.list rows)
  Script.set infoName info.value
  pure .next

/-- Binds the rows of a page of a query or a list, and the facts about it. -/
def runPaginate (args : List Value) : Script Flow := do
  let v ← Script.view
  let rowsName ← Script.lift (bindingName args[1]? v.settings.resultsKey)
  let infoName ← Script.lift (bindingName args[2]? v.settings.pageInfoKey)
  let config ← Script.lift (PageConfig.read (args[3]?.getD .none))
  let page (q : Query) :=
    q.page config (v.request.page.map Int64.toInt) v.settings.defaultPageSize
  match args.head? with
  | some (.text name) =>
    if name.isEmpty then .refuse (.arguments .paginateQuery)
    else match v.query? name with
      | none => .refuse (.arguments (.unknownQuery name))
      | some q => .limit name none (bindPage rowsName infoName (page q))
  | some (.list rows) => bindPage rowsName infoName (page (.ofRows rows none))
  | _ => .refuse (.arguments .paginateQuery)

/-- Binds the rows of a page. -/
def paginate : Definition := .single fun _ => .ok (.call runPaginate)

end Stencil.Directive
