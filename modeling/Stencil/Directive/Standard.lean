import Stencil.Decimal.Reading
import Stencil.Directive

/-!
# Standard directives

- `Directive.set`: binds variables.
- `Directive.header`, `Directive.redirect`: change the response; a redirect ends the render.
- `Directive.requireLogin`, `Directive.requireGuest`, `Directive.requireAdmin`,
  `Directive.requirePermission`: fail unless the request has the rights.
- `Directive.auth`, `Directive.guest`: blocks for users, and for those who are none.

Specification: sections 4.2 and E4; `set`, `header`, `redirect`, `status_code`, `require_login`,
`require_guest`, `require_admin`, `require_permission` and `condition`.
-/

namespace Stencil.Directive

/-- A single directive that takes expressions. -/
def ofCall (run : List Value → Script Flow) : Definition := .single fun _ => .ok (.call run)

/-- Binds the names in order. -/
def bindAll : List (String × Value) → Script Flow
  | [] => pure .next
  | (name, value) :: rest => do
    Script.set name value
    bindAll rest

/-- Binds variables. -/
def set : Definition := .single fun _ => .ok (.assign bindAll)

/-! ## The response -/

/-- The name and the value of a header line: its parts before and behind the first colon, without
blanks at their ends. -/
def headerParts (line : String) : String × String :=
  let cs := line.toList
  (String.ofList (Text.trim (cs.takeWhile (· != ':'))),
    String.ofList (Text.trim ((cs.dropWhile (· != ':')).drop 1)))

/-- Sets a header from a line such as `Name: value`. -/
def runHeader (args : List Value) : Script Flow :=
  match args with
  | [] => .refuse (.arguments .headerMissing)
  | .text line :: _ =>
    let (name, value) := headerParts line
    if name.isEmpty then .refuse (.arguments .headerName)
    else do
      Script.modifyResponse (·.setHeader name value)
      pure .next
  | v :: _ => .refuse (.arguments (.headerKind v.kind))

/-- Sets a header. -/
def header : Definition := ofCall runHeader

/-- The whole number of a value: a number without a fraction, or a text of digits. -/
def whole? : Value → Option Int
  | .int n => some n.toInt
  | .float x => if x - x == 0.0 && x.floor == x then some x.toInt64.toInt else none
  | .text s => Decimal.readInt64 (Text.trim s.toList)
  | _ => none

/-- The status of a redirect, a number of three digits; it is 302 if none is given. -/
def status : Option Value → Except Error Nat
  | none => .ok 302
  | some .none => .ok 302
  | some v =>
    match whole? v with
    | some n =>
      if 100 ≤ n ∧ n ≤ 999 then .ok n.toNat else .error (.arguments .redirectStatus)
    | none => .error (.arguments .redirectStatus)

/-- Redirects and ends the render. -/
def runRedirect (args : List Value) : Script Flow :=
  match args with
  | .text url :: rest =>
    if url.isEmpty then .refuse (.arguments .redirectTarget)
    else do
      let code ← Script.lift (status rest.head?)
      Script.modifyResponse (·.setRedirect url code)
      pure .halt
  | _ => .refuse (.arguments .redirectTarget)

/-- Redirects and ends the render. -/
def redirect : Definition := ofCall runRedirect

/-! ## Rights -/

/-- Goes on if the request passes a test, and fails with a cause else. -/
def require (passes : Request → Bool) (cause : Cause) : Script Flow := do
  let v ← Script.view
  if passes v.request then pure .next else .refuse (.ofCause cause)

/-- Fails unless there is a user. -/
def requireLogin : Definition :=
  ofCall fun _ => require (·.user.isSome) (.unauthorized "Login required.")

/-- Fails if there is a user. -/
def requireGuest : Definition :=
  ofCall fun _ => require (·.user.isNone) (.forbidden "Guest access required.")

/-- Fails unless the user is an administrator. -/
def requireAdmin : Definition :=
  ofCall fun _ => require (·.user.any User.admin) (.forbidden "Admin access required.")

/-- Fails unless the user holds the permission. -/
def requirePermission : Definition :=
  ofCall fun
    | .text permission :: _ =>
      require (·.user.any (User.can · permission)) (.forbidden "Insufficient permissions.")
    | _ => .refuse (.arguments .permissionName)

/-- A block for users. -/
def auth : Definition := .condition fun r _ => r.user.isSome

/-- A block for those who are no users. -/
def guest : Definition := .condition fun r _ => r.user.isNone

end Stencil.Directive
