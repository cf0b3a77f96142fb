import Stencil.User

/-!
# Requests

- `Request`: what a template is rendered for.
- `Request.ofJson?`: reads a request.

Specification: section E3; `Request`.
-/

namespace Stencil

/-- What a template is rendered for. The locale is empty if there is none. -/
structure Request where
  locale : String
  page : Option Int64
  preview : Bool
  token : Option String
  user : Option User
deriving DecidableEq

namespace Request

/-- The request without any of its parts. -/
def default : Request := ⟨"", none, false, none, none⟩

/-- The request shows unpublished content. -/
def isPreview (r : Request) : Bool := r.preview || r.token.isSome

/-- Reads a request: the fields `locale`, `page`, `preview`, `token` and `user`. -/
def ofJson? (j : Json) : Option Request := do
  let fields ← j.fields? ["locale", "page", "preview", "token", "user"]
  let locale ← Json.field fields 0 Json.string? ""
  let page ← Json.field fields 1 (Json.optional? Json.int64?) none
  let preview ← Json.field fields 2 Json.bool? false
  let token ← Json.field fields 3 (Json.optional? Json.string?) none
  let user ← Json.field fields 4 (Json.optional? User.ofJson?) none
  some ⟨locale, page, preview, token, user⟩

end Request

end Stencil
