import Stencil.Function
import Stencil.Store
import Stencil.Template.Parser

/-!
# Engines

- `Engine`: what templates are compiled and rendered with.
- `Engine.language`: the part of it that decides how a source is read.
- `Engine.addTemplate?`, `Engine.removeTemplate`, `Engine.share`, `Engine.addDirective`,
  `Engine.addFunction`, `Engine.withStore`: its changes. A template keeps the directives it was
  compiled with.
- `Engine.inspect`: an overview as text.

Specification: section E1; `Engine`.
-/

namespace Stencil

/-- What templates are compiled and rendered with. -/
structure Engine where
  delimiters : Delimiters
  directives : Dict Definition
  functions : Dict Function
  defaultFormatter : Formatter
  shared : Dict Value
  store : Option CacheStore
  resolver : Option ViewResolver
  settings : Settings
  templates : Dict Template

namespace Engine

/-- What decides how a source is read. -/
def language (e : Engine) : Language := ⟨e.delimiters, e.directives⟩

/-- The template of a source that is not kept. -/
def compile (e : Engine) (source : String) : Except Failure Template :=
  Template.compile e.language none source

/-- Keeps the template of a source under a name. -/
def addTemplate (e : Engine) (name source : String) : Except Failure Engine :=
  match Template.compile e.language (some name) source with
  | .ok t => .ok { e with templates := Dict.insert name t e.templates }
  | .error f => .error f

/-- The template that is kept under a name. -/
def template? (e : Engine) (name : String) : Option Template := Dict.get? name e.templates

/-- Removes the template of a name. -/
def removeTemplate (e : Engine) (name : String) : Engine :=
  { e with templates := Dict.erase name e.templates }

/-- Makes a value visible to every render. -/
def share (e : Engine) (name : String) (value : Value) : Engine :=
  { e with shared := Dict.insert name value e.shared }

/-- Registers a directive, in place of one of the same name. -/
def addDirective (e : Engine) (name : String) (d : Definition) : Engine :=
  { e with directives := Dict.insert name d e.directives }

/-- Registers a function, in place of one of the same name. -/
def addFunction (e : Engine) (name : String) (f : Function) : Engine :=
  { e with functions := Dict.insert name f e.functions }

/-- Asks another store, or none. -/
def withStore (e : Engine) (store : Option CacheStore) : Engine := { e with store }

/-! ## Overview -/

/-- Texts in quotes with commas between them, in square brackets. -/
def quotedList (names : List String) : String :=
  "[" ++ ", ".intercalate (names.map Text.quoted) ++ "]"

/-- The settings with the names of their fields. -/
def inspectSettings (s : Settings) : String :=
  "Settings \x7b default_page_size: " ++ toString s.defaultPageSize ++ ", results_key: " ++
    Text.quoted s.resultsKey ++ ", page_info_key: " ++ Text.quoted s.pageInfoKey ++
    ", markdown_flavor: " ++ Text.quoted s.markdownFlavor ++ ", max_include_depth: " ++
    toString s.maxIncludeDepth ++ " \x7d"

/-- An overview: the names of the directives, functions and templates, what is shared, and the
settings. -/
def inspect (e : Engine) : String :=
  "Engine \x7b directives: " ++ quotedList (Dict.keys e.directives) ++ ", functions: " ++
    quotedList (Dict.keys e.functions) ++ ", shared: " ++ Value.inspectDict e.shared ++
    ", settings: " ++ inspectSettings e.settings ++ ", templates: " ++
    quotedList (Dict.keys e.templates) ++ ", .. \x7d"

end Engine

end Stencil
