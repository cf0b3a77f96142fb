import Stencil.Directive
import Stencil.Function
import Stencil.Markdown.Library
import Stencil.Markdown.Sanitizer

/-!
# Markdown

The conversion of a text takes the events that a library reads, changes some of them, and has the
library write the others.

- `Event.sanitize`: an event as it is written.
- `Library.sanitized`, `Library.render`: the events and the HTML of a text.
- `Markdown.inline`: HTML without the paragraph around it, if it is a single one.
- `Filter.markdown`, `Directive.markdown`: the filter, which keeps raw HTML and every link, and the
  directive, which writes sanitized HTML.

Specification: sections 4.2 and E4; `render`, `to_html` and `clean_url`.
-/

namespace Stencil

namespace Markdown

/-- An event as it is written. Raw HTML that is not allowed becomes text, line breaks are kept, and
the targets of links and images are checked. -/
def Event.sanitize (s : Sanitizer) (allowsHtml keepsBreaks : Bool) : Event → Event
  | .html cs => if allowsHtml then .html cs else .text cs
  | .inlineHtml cs => if allowsHtml then .inlineHtml cs else .text cs
  | .softBreak => if keepsBreaks then .hardBreak else .softBreak
  | .start (.link kind t) => .start (.link kind { t with url := s.clean t.url })
  | .start (.image kind t) => .start (.image kind { t with url := s.clean t.url })
  | e => e

namespace Library

/-- The events of a text as they are written. -/
def sanitized (L : Library) (text : String) (flavor : Flavor) (s : Sanitizer) : List Event :=
  let allowsHtml := s.allowsHtml && flavor != .preEncode
  (L.events flavor.extensions text).map (Event.sanitize s allowsHtml (flavor == .gfmComment))

/-- The HTML of a text. -/
def render (L : Library) (text : String) (flavor : Flavor) (s : Sanitizer) : String :=
  L.html (L.sanitized text flavor s)

end Library

/-- What stands between a given start and end of a text. -/
def between? (start stop cs : List Char) : Option (List Char) :=
  if start.isPrefixOf cs && stop.isSuffixOf (cs.drop start.length) then
    some ((cs.drop start.length).take (cs.length - start.length - stop.length))
  else none

/-- HTML without the paragraph around it. What is around it must be the tags of one paragraph, and
no other paragraph may begin within. -/
def inline (html : String) : String :=
  let start := "<p>".toList
  match between? start "</p>".toList (Text.trimEnd html.toList) with
  | some inner => if (afterFirst? start inner).isSome then html else String.ofList inner
  | none => html

end Markdown

/-- The HTML of a text. The arguments are the flavor, and whether a single paragraph loses its
tags. -/
def Filter.markdown (L : Markdown.Library) : Filter := fun v args => do
  Filter.atMost 2 "markdown" args
  let text ← match v with
    | .none => .ok ""
    | v => Filter.subject "markdown" v
  let flavor ← match args.head? with
    | none => .ok Markdown.Flavor.classic
    | some .none => .ok Markdown.Flavor.classic
    | some (.text name) => Markdown.Flavor.read name
    | some v => .error (.ofCause (.rendering (.filterFlavor v.kind)))
  let html := L.render text flavor .permissive
  if args[1]?.any Value.isTruthy then .ok (.text (Markdown.inline html)) else .ok (.text html)

namespace Directive

/-- The text that is given to the directive. -/
def markdownText : Option Value → Except Error String
  | none => .ok ""
  | some .none => .ok ""
  | some (.text s) => .ok s
  | some v => .error (.arguments (.markdownText v.kind))

/-- The flavor that is given to the directive, else the one of the settings. -/
def markdownFlavor (standard : String) : Option Value → Except Error Markdown.Flavor
  | none => Markdown.Flavor.read standard
  | some .none => Markdown.Flavor.read standard
  | some (.text name) => Markdown.Flavor.read name
  | some v => .error (.arguments (.markdownFlavor v.kind))

/-- Writes the sanitized HTML of a text. -/
def runMarkdown (L : Markdown.Library) (args : List Value) : Script Flow := do
  let v ← Script.view
  let text ← Script.lift (markdownText args.head?)
  let flavor ← Script.lift (markdownFlavor v.settings.markdownFlavor args[1]?)
  let sanitizer ← Script.lift (Markdown.Sanitizer.read (args[2]?.getD .none))
  Script.put (L.render text flavor sanitizer)
  pure .next

/-- Writes the sanitized HTML of a text. -/
def markdown (L : Markdown.Library) : Definition := .single fun _ => .ok (.call (runMarkdown L))

end Directive

end Stencil
