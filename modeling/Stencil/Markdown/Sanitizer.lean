import Stencil.Error
import Stencil.Markdown.Character
import Stencil.Text.LetterCase

/-!
# What survives in generated HTML

- `Markdown.Sanitizer`: whether raw HTML is kept, and which schemes links may have.
- `Markdown.Sanitizer.read`: reads the configuration map.
- `Markdown.scheme?`: the scheme of an absolute address.
- `Markdown.Sanitizer.clean`: an address, or the one that replaces it.

Specification: section E4; `Sanitizer.from_value`, `allows_url`, `clean_url` and `scheme`.
-/

namespace Stencil.Markdown

/-- What survives in generated HTML. -/
structure Sanitizer where
  allowsHtml : Bool
  /-- The schemes that links may have; without a list every link is kept. -/
  schemes : Option (List String)
deriving DecidableEq

/-- The text before the first colon, if it is a scheme. -/
def scheme? (url : List Char) : Option (List Char) :=
  let name := url.takeWhile (· != ':')
  if name.length < url.length && name.head?.any isLetter && name.all inScheme then some name
  else none

namespace Sanitizer

/-- No raw HTML, and the usual schemes. -/
def default : Sanitizer := ⟨false, some ["http", "https", "mailto"]⟩

/-- Everything survives. -/
def permissive : Sanitizer := ⟨true, none⟩

/-- Reads a configuration; none is the default one. -/
def read : Value → Except Error Sanitizer
  | .none => .ok default
  | .map entries =>
    let allowsHtml := match Dict.get? "allowHtml" entries with
      | none => default.allowsHtml
      | some v => v.isTruthy
    match Dict.get? "allowedSchemes" entries with
    | none => .ok ⟨allowsHtml, default.schemes⟩
    | some (.list items) =>
      let schemes := (items.filterMap Value.text?).map fun name =>
        String.ofList (lowerAscii name.toList)
      .ok ⟨allowsHtml, some schemes⟩
    | some _ => .error (.arguments .allowedSchemes)
  | v => .error (.arguments (.sanitizerConfig v.kind))

/-- A link to the address is kept. -/
def allows (s : Sanitizer) (url : List Char) : Bool :=
  match scheme? url, s.schemes with
  | none, _ => true
  | _, none => true
  | some name, some schemes => schemes.any fun x => Text.sameLetters x (String.ofList name)

/-- An address that is allowed, or the one that replaces it. -/
def clean (s : Sanitizer) (url : List Char) : List Char := if s.allows url then url else ['#']

end Sanitizer

end Stencil.Markdown
