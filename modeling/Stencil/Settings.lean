import Stencil.Json.Record

/-!
# Settings

- `Settings`: what an engine is set up with.
- `Settings.ofJson?`: reads settings.

Specification: section E7; `Settings`.
-/

namespace Stencil

/-- What an engine is set up with. -/
structure Settings where
  /-- The page size where neither the arguments nor the query give one. -/
  defaultPageSize : Nat
  /-- The name under which the rows of a page are bound. -/
  resultsKey : String
  /-- The name under which the facts about a page are bound. -/
  pageInfoKey : String
  /-- The markdown flavor where none is given. -/
  markdownFlavor : String
  /-- How many templates may be active at once. -/
  maxIncludeDepth : Nat
deriving DecidableEq

namespace Settings

/-- The settings of a new engine. -/
def default : Settings := ⟨100, "elements", "pageInfo", "original", 64⟩

/-- Reads settings; fields that are missing keep their defaults. -/
def ofJson? (j : Json) : Option Settings := do
  let fields ← j.fields?
    ["defaultPageSize", "resultsKey", "pageInfoKey", "markdownFlavor", "maxIncludeDepth"]
  let defaultPageSize ← Json.field fields 0 Json.word? default.defaultPageSize
  let resultsKey ← Json.field fields 1 Json.string? default.resultsKey
  let pageInfoKey ← Json.field fields 2 Json.string? default.pageInfoKey
  let markdownFlavor ← Json.field fields 3 Json.string? default.markdownFlavor
  let maxIncludeDepth ← Json.field fields 4 Json.word? default.maxIncludeDepth
  some ⟨defaultPageSize, resultsKey, pageInfoKey, markdownFlavor, maxIncludeDepth⟩

end Settings

end Stencil
