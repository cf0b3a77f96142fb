import Stencil.Directive
import Stencil.Value.Document

/-!
# Further directives

Directives that an engine may be given besides the standard ones. They show what a directive can
see and do.

- `Gallery.ids`, `Gallery.probe`: write what they see.
- `Gallery.bind`, `Gallery.strict`, `Gallery.count`, `Gallery.fail`: bind variables, look at their
  arguments, fail.
- `Gallery.stop`, `Gallery.skip`, `Gallery.jump`, `Gallery.hidden`, `Gallery.loud`,
  `Gallery.frame`, `Gallery.cut`: go on in one of the ways there are.
- `Gallery.can`: a block for a permission.
- `Gallery.directives`: all of them under their names.
-/

namespace Stencil.Gallery

/-- Documents with semicolons between them. -/
def documents (args : List Value) : String := ";".intercalate (args.map Value.json)

/-- A truth value as text. -/
def truth (b : Bool) : String := if b then "true" else "false"

/-- The text of the first value, the empty one if it is none. -/
def firstText (args : List Value) : String := (args.head?.bind Value.text?).getD ""

/-- Writes a text and goes on. -/
def say (text : String) : Script Flow := do
  Script.put text
  pure .next

/-- A single directive without arguments. -/
def bare (run : Script Flow) : Definition := .single fun _ => .ok (.bare run)

/-- A single directive that takes expressions. -/
def call (run : List Value → Script Flow) : Definition := .single fun _ => .ok (.call run)

/-- The end of a block where nothing is done. -/
def quietEnd : Compile := fun _ => .ok (.bare (pure .next))

/-- Writes the identities of the open cached blocks. -/
def ids : Definition :=
  bare do
    let v ← Script.view
    say ("[" ++ ",".intercalate (v.blockIds.map toString) ++ "]")

/-- Writes where it stands, how it is written, and its arguments. -/
def probe : Definition := .single fun o =>
  .ok (.call fun args =>
    say ("<" ++ o.origin.text ++ "|" ++ o.raw ++ "|" ++ truth o.isEmpty ++ "|" ++
      truth args.isEmpty ++ "|" ++ documents args ++ ">"))

/-- Binds names from the last to the first. -/
def bindReversed (bindings : List (String × Value)) : Script Flow :=
  bindings.foldr (fun b rest => do
    let flow ← rest
    Script.set b.1 b.2
    pure flow) (pure .next)

/-- Writes its bindings and binds them from the last to the first. -/
def bind : Definition := .single fun _ =>
  .ok (.assign fun bindings => do
    Script.put (String.join (bindings.map fun b => "(" ++ b.1 ++ "=" ++ b.2.json ++ ")"))
    bindReversed bindings)

/-- Cannot be written without arguments, and takes none. -/
def strict : Definition := .single fun o =>
  if o.isEmpty then .error (.arguments (.custom "`strict` requires an argument"))
  else .ok (.bare (pure .next))

/-- Writes the number of its arguments. -/
def count : Definition := call fun args => say (toString args.length ++ " args")

/-- Ends the render. -/
def stop : Definition := bare (pure .halt)

/-- Asks to skip a block, though it begins none. -/
def skip : Definition := bare (pure .skip)

/-- Visits the template named by the first argument, with the second one as its variables. -/
def runJump (args : List Value) : Script Flow :=
  match args with
  | .text name :: rest => pure (.visit name (rest.head?.getD .none))
  | _ => pure .next

/-- Visits a template. -/
def jump : Definition := call runJump

/-- Fails with the text of its argument. -/
def fail : Definition := call fun args => .refuse (.custom (firstText args))

/-- A block that is skipped. -/
def hidden : Definition := .paired (fun _ => .ok (.call fun _ => pure .skip)) quietEnd

/-- A block that writes the arguments of its start and of its end. -/
def loud : Definition :=
  .paired (fun _ => .ok (.call fun args => say ("<" ++ toString args.length ++ ":")))
    (fun o => .ok (.call fun args =>
      let place := toString o.origin.line ++ ":" ++ toString o.origin.column
      say (":" ++ place ++ documents args ++ ">")))

/-- A block whose start and end visit templates. -/
def frame : Definition := .paired (fun _ => .ok (.call runJump)) (fun _ => .ok (.call runJump))

/-- A block that ends the render. -/
def cut : Definition := .paired (fun _ => .ok (.call fun _ => pure .halt)) quietEnd

/-- A block for users who hold a permission. -/
def can : Definition := .condition fun r args => r.user.any (User.can · (firstText args))

/-- The further directives. -/
def directives : Dict Definition :=
  Dict.ofList
    [("ids", ids), ("probe", probe), ("bind", bind), ("strict", strict), ("header", count),
      ("stop", stop), ("skip", skip), ("jump", jump), ("fail", fail), ("hidden", hidden),
      ("loud", loud), ("frame", frame), ("cut", cut), ("can", can)]

end Stencil.Gallery
