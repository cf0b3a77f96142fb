import Stencil.Json.Record
import Stencil.Text.LetterCase

/-!
# Users

- `User`: a logged in user with a set of permissions, kept in order without repetition.
- `User.grant`: adds a permission in lower case.
- `User.can`: whether the user holds a permission, up to the case of ASCII letters.

Specification: section E3; `User.with_permission` and `User.can`.
-/

namespace Stencil

/-- A logged in user. -/
structure User where
  id : String
  admin : Bool
  permissions : List String
deriving DecidableEq

namespace User

/-- A text put in its place in an ordered list without repetition. -/
def insertText (s : String) : List String → List String
  | [] => [s]
  | t :: ts => if s = t then t :: ts else if s < t then s :: t :: ts else t :: insertText s ts

@[simp] theorem mem_insertText {s t : String} {ts : List String} :
    t ∈ insertText s ts ↔ t = s ∨ t ∈ ts := by
  induction ts with
  | nil => simp [insertText]
  | cons u us ih =>
    by_cases h : s = u
    · subst h
      simp [insertText]
    · by_cases hlt : s < u
      · simp [insertText, h, hlt]
      · simp only [insertText, h, hlt, if_false, List.mem_cons, ih]
        grind

/-- A user without rights. -/
def ofId (id : String) : User := ⟨id, false, []⟩

/-- Adds a permission exactly as it is written. -/
def addPermission (u : User) (permission : String) : User :=
  { u with permissions := insertText permission u.permissions }

/-- Adds a permission in lower case. -/
def grant (u : User) (permission : String) : User := u.addPermission (Text.lower permission)

/-- The user is an administrator or holds the permission, up to the case of ASCII letters. -/
def can (u : User) (permission : String) : Bool :=
  u.admin || u.permissions.any fun p => Text.sameLetters p permission

/-- Reads a user: the fields `id`, `admin` and `permissions`. -/
def ofJson? (j : Json) : Option User := do
  let fields ← j.fields? ["id", "admin", "permissions"]
  let id ← Json.field fields 0 Json.string? ""
  let admin ← Json.field fields 1 Json.bool? false
  let permissions ← Json.field fields 2 (Json.listOf? Json.string?) []
  some ⟨id, admin, permissions.foldl (fun ps p => insertText p ps) []⟩

/-- An administrator holds every permission. -/
theorem can_of_admin {u : User} (h : u.admin = true) (permission : String) :
    u.can permission = true := by simp [can, h]

end User

end Stencil
