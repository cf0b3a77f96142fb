import Stencil.Text.LetterCase

/-!
# Responses

- `Response`: the headers and the redirect that a render asks for.
- `Response.setHeader`: sets a header in place of an earlier one of the same name.
- `Response.header?`: the value of a header.

Names of headers are compared up to the case of ASCII letters.

Specification: section E3; `Response.set_header`, `Response.header` and `Response.redirect`.
-/

namespace Stencil

/-- Where a redirect leads and with which status. -/
structure Redirect where
  url : String
  status : Nat
deriving DecidableEq

/-- What a render asks for besides its text. -/
structure Response where
  headers : List (String × String)
  redirect : Option Redirect
deriving DecidableEq

namespace Response

/-- No header and no redirect. -/
def empty : Response := ⟨[], none⟩

/-- Puts a header in the place of the first one of the same name, or at the end. -/
def putHeader (name value : String) : List (String × String) → List (String × String)
  | [] => [(name, value)]
  | h :: hs =>
    if Text.sameLetters h.1 name then (name, value) :: hs else h :: putHeader name value hs

/-- Sets a header, replacing one of the same name. -/
def setHeader (r : Response) (name value : String) : Response :=
  { r with headers := putHeader name value r.headers }

/-- The value of a header. -/
def header? (r : Response) (name : String) : Option String :=
  (r.headers.find? fun h => Text.sameLetters h.1 name).map Prod.snd

/-- Asks for a redirect. -/
def setRedirect (r : Response) (url : String) (status : Nat) : Response :=
  { r with redirect := some ⟨url, status⟩ }

@[simp] theorem redirect_setHeader (r : Response) (name value : String) :
    (r.setHeader name value).redirect = r.redirect := rfl

@[simp] theorem headers_setRedirect (r : Response) (url : String) (status : Nat) :
    (r.setRedirect url status).headers = r.headers := rfl

end Response

end Stencil
