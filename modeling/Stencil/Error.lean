import Stencil.Json
import Stencil.Source.Token
import Stencil.Value.Inspect

/-!
# Errors

An error is a cause, which may be located in a template source and named after a template.

- `SyntaxFault`, `RenderFault`, `ArgumentFault`: the causes that have several forms, each with its
  wording in `message`.
- `Cause`, `ErrorKind`: why an operation failed, by category.
- `Error`: a cause with its place. The first place and the first name that are attached stay.
- `Failure`: an error, or a computation that breaks off without one.

Specification: section E5; `Error`, `ErrorKind`, `enrich` and `with_template_name`.
-/

namespace Stencil

/-- What is wrong with a template source. -/
inductive SyntaxFault where
  | unclosedTag (tag : TagKind)
  | unexpectedTag (kind : TokenKind)
  | unexpectedCharacter
  | undelimitedString
  /-- Something else was needed than the token that was found; none is found at the end. -/
  | expected (wanted : String) (found : Option TokenKind)
  | expectedKeyword (wanted found : Keyword)
  | unexpectedKeyword (found : Keyword)
  | unexpectedBlock (name : String)
  | unclosedBlock (name : String)
  | unknownDirective (name : String)
  | unwantedArguments (directive : String)
  | invalidDigit (radix : Nat)
  | integerOutOfRange (radix : Nat)
  | indexOutOfRange
  | invalidFloat
  | unknownEscape
deriving DecidableEq

/-- The wording of a fault in a template source. -/
def SyntaxFault.message : SyntaxFault → String
  | .unclosedTag tag => "unclosed " ++ (TokenKind.opening tag).word
  | .unexpectedTag kind => "unexpected " ++ kind.word
  | .unexpectedCharacter => "unexpected character"
  | .undelimitedString => "undelimited string"
  | .expected wanted found =>
    "expected " ++ wanted ++ ", found " ++ (found.map TokenKind.word).getD "EOF"
  | .expectedKeyword wanted found =>
    "expected keyword `" ++ wanted.text ++ "`, found keyword `" ++ found.text ++ "`"
  | .unexpectedKeyword found => "unexpected keyword `" ++ found.text ++ "`"
  | .unexpectedBlock name => "unexpected `" ++ name ++ "` block"
  | .unclosedBlock name => "unclosed `" ++ name ++ "` block"
  | .unknownDirective name => "unknown directive `" ++ name ++ "`"
  | .unwantedArguments directive => "directive `" ++ directive ++ "` takes no arguments"
  | .invalidDigit radix => "invalid digit for base " ++ toString radix ++ " literal"
  | .integerOutOfRange radix =>
    "base " ++ toString radix ++ " literal out of range for 64-bit integer"
  | .indexOutOfRange => "base 10 literal out of range for unsigned 64-bit integer"
  | .invalidFloat => "invalid float literal"
  | .unknownEscape => "unknown escape character"

/-- Why a template could not be rendered. -/
inductive RenderFault where
  | notBool (kind : String)
  | notIterable (kind : String)
  | listItemIntoTwo
  | mapItemIntoOne
  | notInScope
  | listIndexedByName
  | notIndexable (kind : String)
  | indexOutOfBounds
  | notInMap
  | unknownFilter
  | unknownFunction
  | formatterAsFilter
  | unknownTemplate (name : Option String)
  | unformattable (kind : String)
  | formatting
  | filterArity (filter : String) (most given : Nat)
  | filterOnString (filter kind : String)
  | filterFlavor (kind : String)
  | noOpenBlock
  | custom (text : String)
deriving DecidableEq

/-- The wording of a fault while rendering. -/
def RenderFault.message : RenderFault → String
  | .notBool kind => "expected bool, but expression evaluated to " ++ kind
  | .notIterable kind => "expected iterable, but expression evaluated to " ++ kind
  | .listItemIntoTwo => "cannot unpack list item into two variables"
  | .mapItemIntoOne => "cannot unpack map item into one variable"
  | .notInScope => "not found in this scope"
  | .listIndexedByName => "cannot index list with string"
  | .notIndexable kind => "cannot index into " ++ kind
  | .indexOutOfBounds => "index out of bounds"
  | .notInMap => "not found in map"
  | .unknownFilter => "unknown filter"
  | .unknownFunction => "unknown filter or formatter"
  | .formatterAsFilter => "expected filter, found formatter"
  | .unknownTemplate none => "unknown template"
  | .unknownTemplate (some name) => "unknown template `" ++ name ++ "`"
  | .unformattable kind => "expression evaluated to unformattable type " ++ kind
  | .formatting => "failed to format value"
  | .filterArity filter most given =>
    "filter `" ++ filter ++ "` expected at most " ++ toString most ++ " argument(s), found " ++
      toString given
  | .filterOnString filter kind => "filter `" ++ filter ++ "` expected string, found " ++ kind
  | .filterFlavor kind => "filter `markdown` expected string flavor, found " ++ kind
  | .noOpenBlock => "`endcache` without an open `cache` block"
  | .custom text => text

/-- What is wrong with the arguments of a directive. -/
inductive ArgumentFault where
  | cacheOptions (kind : String)
  | cacheKey (kind : String)
  | cacheDuration (found : Value)
  | cacheExpiration (found : Value)
  | headerKind (kind : String)
  | headerMissing
  | headerName
  | redirectTarget
  | redirectStatus
  | markdownText (kind : String)
  | markdownFlavor (kind : String)
  | unknownFlavor (name : String)
  | sanitizerConfig (kind : String)
  | allowedSchemes
  | permissionName
  | viewName
  | viewData (kind : String)
  | viewArity
  | unknownQuery (name : String)
  | paginateQuery
  | paginateBinding (kind : String)
  | paginateConfig (kind : String)
  | pageSize
  | currentPage
  | custom (text : String)

/-- The wording of a fault in the arguments of a directive. -/
def ArgumentFault.message : ArgumentFault → String
  | .cacheOptions kind => "`cache` options must be a map, found " ++ kind
  | .cacheKey kind => "`cache` key must be a string, found " ++ kind
  | .cacheDuration found =>
    "`cache` duration must be seconds or a string like \"1 hour\", found " ++ found.inspect
  | .cacheExpiration found =>
    "`cache` expiration must be an RFC 3339 date or a unix timestamp, found " ++ found.inspect
  | .headerKind kind => "`header` expected a string argument, found " ++ kind
  | .headerMissing => "`header` requires an argument"
  | .headerName => "`header` requires a header name"
  | .redirectTarget => "`redirect` requires a URL as the first argument"
  | .redirectStatus => "`redirect` status code must be an integer"
  | .markdownText kind => "`markdown` expected a string, found " ++ kind
  | .markdownFlavor kind => "`markdown` flavor must be a string, found " ++ kind
  | .unknownFlavor name => "unknown markdown flavor `" ++ name ++ "`"
  | .sanitizerConfig kind => "markdown sanitizer config must be a map, found " ++ kind
  | .allowedSchemes => "`allowedSchemes` must be a list of strings"
  | .permissionName => "`requirePermission` requires a permission name"
  | .viewName => "`includeLocalized` requires a view name as the first argument"
  | .viewData kind => "`includeLocalized` data must be a map, found " ++ kind
  | .viewArity => "`includeLocalized` takes at most two arguments"
  | .unknownQuery name => "no query named `" ++ name ++ "` is attached"
  | .paginateQuery => "`paginate` requires a query as the first argument"
  | .paginateBinding kind => "`paginate` binding names must be strings, found " ++ kind
  | .paginateConfig kind => "`paginate` config must be a map, found " ++ kind
  | .pageSize => "`pageSize` must be a positive integer"
  | .currentPage => "`currentPage` must be a positive integer"
  | .custom text => text

/-- Why an operation failed, by category. -/
inductive Cause where
  | invalidSource (fault : SyntaxFault)
  | rendering (fault : RenderFault)
  | arguments (fault : ArgumentFault)
  | unauthorized (text : String)
  | forbidden (text : String)
  | viewNotFound (candidates : List String)
  | store (text : String)
  | includeDepth (limit : Nat)
  | io (text : String)
  | serialization (text : String)

/-- The categories of causes. -/
inductive ErrorKind where
  | invalidSource
  | rendering
  | arguments
  | unauthorized
  | forbidden
  | viewNotFound
  | store
  | includeDepth
  | io
  | serialization
deriving DecidableEq

namespace Cause

/-- The category of a cause. -/
def kind : Cause → ErrorKind
  | .invalidSource _ => .invalidSource
  | .rendering _ => .rendering
  | .arguments _ => .arguments
  | .unauthorized _ => .unauthorized
  | .forbidden _ => .forbidden
  | .viewNotFound _ => .viewNotFound
  | .store _ => .store
  | .includeDepth _ => .includeDepth
  | .io _ => .io
  | .serialization _ => .serialization

/-- The wording of a cause. -/
def message : Cause → String
  | .invalidSource fault => fault.message
  | .rendering fault => fault.message
  | .arguments fault => fault.message
  | .unauthorized text => text
  | .forbidden text => text
  | .viewNotFound candidates => "view not found, tried " ++ ", ".intercalate candidates
  | .store text => "store error: " ++ text
  | .includeDepth limit => "reached the maximum include depth (" ++ toString limit ++ ")"
  | .io text => "io error: " ++ text
  | .serialization text => "failed to serialize value: " ++ text

/-- The text of the failure of another component that the cause reports. -/
def reported? : Cause → Option String
  | .store text => some text
  | .io text => some text
  | .serialization text => some text
  | _ => none

end Cause

/-- A region of a template source. -/
structure Excerpt where
  source : String
  span : Span
deriving DecidableEq

/-- A cause with its place. -/
structure Error where
  cause : Cause
  excerpt : Option Excerpt
  template : Option String

namespace Error

/-- An error without a place. -/
def ofCause (cause : Cause) : Error := ⟨cause, none, none⟩

/-- Attaches a place, unless the error has one already or the source is empty. -/
def locate (e : Error) (source : String) (span : Span) : Error :=
  if e.excerpt.isNone && !source.isEmpty then { e with excerpt := some ⟨source, span⟩ } else e

/-- Attaches the name of a template, unless the error has one already. -/
def inTemplate (e : Error) : Option String → Error
  | none => e
  | some name => if e.template.isNone then { e with template := some name } else e

/-- A fault in a source at a place. -/
def syntaxAt (fault : SyntaxFault) (source : String) (span : Span) : Error :=
  (ofCause (.invalidSource fault)).locate source span

/-- A fault while rendering at a place. -/
def renderAt (fault : RenderFault) (source : String) (span : Span) : Error :=
  (ofCause (.rendering fault)).locate source span

/-- An error with a text of its own. -/
def custom (text : String) : Error := ofCause (.rendering (.custom text))

/-- Malformed arguments. -/
def arguments (fault : ArgumentFault) : Error := ofCause (.arguments fault)

@[simp] theorem inTemplate_none (e : Error) : e.inTemplate none = e := rfl

@[simp] theorem cause_locate (e : Error) (source : String) (span : Span) :
    (e.locate source span).cause = e.cause := by
  unfold locate; split <;> rfl

@[simp] theorem cause_inTemplate (e : Error) (name : Option String) :
    (e.inTemplate name).cause = e.cause := by
  cases name with
  | none => rfl
  | some n => simp only [inTemplate]; split <;> rfl

/-- A place that is attached stays. -/
theorem locate_of_isSome {e : Error} (h : e.excerpt.isSome) (source : String) (span : Span) :
    e.locate source span = e := by
  unfold locate
  cases hx : e.excerpt with
  | none => simp [hx] at h
  | some x => simp

/-- A name that is attached stays. -/
theorem inTemplate_of_isSome {e : Error} (h : e.template.isSome) (name : Option String) :
    e.inTemplate name = e := by
  cases name with
  | none => rfl
  | some n =>
    cases hx : e.template with
    | none => simp [hx] at h
    | some x => simp [inTemplate, hx]

end Error

/-- Why a computation has no result: an error, or a text cut where no character begins or ends,
after which the computation breaks off without an error. -/
inductive Failure where
  | error (e : Error)
  | broken

/-- The error of a failure named after a template. -/
def Failure.inTemplate (name : Option String) : Failure → Failure
  | .error e => .error (e.inTemplate name)
  | .broken => .broken

end Stencil
