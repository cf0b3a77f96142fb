import Stencil.Markdown.Character

/-!
# Tags of HTML within markdown

- `Tag.read?`: an opening or closing tag, a comment, an instruction, a declaration or a section of
  character data at the start of a text.
- `Tag.blockEnd?`: what ends a block of HTML that begins with a text.
-/

namespace Stencil.Markdown.Tag

/-- The blanks and line ends at the start of a text, and what follows. -/
def spanGap (cs : List Char) : List Char × List Char := cs.span isGap

/-- The name of a tag at the start of a text, and what follows. -/
def name? : List Char → Option (List Char × List Char)
  | c :: cs =>
    if isLetter c then
      let (rest, after) := cs.span fun d => isAlphanumeric d || d == '-'
      some (c :: rest, after)
    else none
  | [] => none

/-- The characters with which the name of an attribute begins. -/
def startsAttribute (c : Char) : Bool := isLetter c || c == '_' || c == ':'

/-- The characters of the name of an attribute. -/
def inAttribute (c : Char) : Bool :=
  isAlphanumeric c || c == '_' || c == ':' || c == '.' || c == '-'

/-- The characters of a value without quotes. -/
def inBareValue (c : Char) : Bool :=
  !isGap c && c != '"' && c != '\'' && c != '=' && c != '<' && c != '>' && c != '`'

/-- What follows the value of an attribute. -/
def afterValue? : List Char → Option (List Char)
  | '"' :: cs =>
    match cs.dropWhile (· != '"') with
    | _ :: rest => some rest
    | [] => none
  | '\'' :: cs =>
    match cs.dropWhile (· != '\'') with
    | _ :: rest => some rest
    | [] => none
  | c :: cs => if inBareValue c then some (cs.dropWhile inBareValue) else none
  | [] => none

/-- What follows the attributes of a tag. The first argument bounds their number. -/
def afterAttributes? : Nat → List Char → Option (List Char)
  | 0, cs => some cs
  | n + 1, cs =>
    match spanGap cs with
    | ([], rest) => some rest
    | (_, c :: rest) =>
      if startsAttribute c then
        let named := rest.dropWhile inAttribute
        match spanGap named with
        | (_, '=' :: value) =>
          match afterValue? (spanGap value).2 with
          | some rest => afterAttributes? n rest
          | none => none
        | _ => afterAttributes? n named
      else some (c :: rest)
    | (_, []) => none

/-- What follows an opening tag, behind its `<`. -/
def afterOpening? (cs : List Char) : Option (List Char) := do
  let (_, cs) ← name? cs
  let cs ← afterAttributes? (cs.length + 1) cs
  match cs with
  | '/' :: '>' :: rest => some rest
  | '>' :: rest => some rest
  | _ => none

/-- What follows a closing tag, behind its `</`. -/
def afterClosing? (cs : List Char) : Option (List Char) := do
  let (_, cs) ← name? cs
  match (spanGap cs).2 with
  | '>' :: rest => some rest
  | _ => none

/-- What follows a piece of HTML, behind its `<`. -/
def after? (cs : List Char) : Option (List Char) :=
  match cs with
  | '/' :: cs => afterClosing? cs
  | '!' :: '-' :: '-' :: '>' :: rest => some rest
  | '!' :: '-' :: '-' :: '-' :: '>' :: rest => some rest
  | '!' :: '-' :: '-' :: cs => afterFirst? ['-', '-', '>'] cs
  | '?' :: cs => afterFirst? ['?', '>'] cs
  | '!' :: '[' :: 'C' :: 'D' :: 'A' :: 'T' :: 'A' :: '[' :: cs => afterFirst? [']', ']', '>'] cs
  | '!' :: c :: cs => if isLetter c then afterFirst? ['>'] cs else none
  | cs => afterOpening? cs

/-- The piece of HTML at the start of a text behind a `<`, and what follows. -/
def read? (cs : List Char) : Option (List Char × List Char) :=
  (after? cs).map fun rest => ('<' :: cs.take (cs.length - rest.length), rest)

/-! ## Blocks -/

/-- The elements whose blocks end with their closing tag. -/
def rawElements : List String := ["pre", "style", "script", "textarea"]

/-- The elements whose blocks end with a blank line. -/
def blockElements : List String :=
  ["address", "article", "aside", "base", "basefont", "blockquote", "body", "caption", "center",
    "col", "colgroup", "dd", "details", "dialog", "dir", "div", "dl", "dt", "fieldset",
    "figcaption", "figure", "footer", "form", "frame", "frameset", "h1", "h2", "h3", "h4", "h5",
    "h6", "head", "header", "hr", "html", "iframe", "legend", "li", "link", "main", "menu",
    "menuitem", "nav", "noframes", "ol", "optgroup", "option", "p", "param", "search", "section",
    "summary", "table", "tbody", "td", "tfoot", "th", "thead", "title", "tr", "track", "ul"]

/-- What ends a block of HTML. -/
inductive BlockEnd where
  /-- The line that holds a text, in any case of its letters. -/
  | text (cs : List Char)
  /-- A blank line. -/
  | blank
deriving DecidableEq

/-- The closing tag of an element. -/
def closing (element : String) : List Char := '<' :: '/' :: element.toList ++ ['>']

/-- What ends the block that begins with a tag of a name. -/
def namedEnd? (isClosing : Bool) (cs : List Char) : Option BlockEnd := do
  let (n, rest) ← name? cs
  let n := String.ofList (lowerAscii n)
  if rawElements.contains n then
    if !isClosing && (rest.isEmpty || rest.head?.any fun c => isGap c || c == '>') then
      some (.text (closing n))
    else none
  else if blockElements.contains n then
    if rest.isEmpty || rest.head?.any (fun c => isGap c || c == '>') ||
        (['/', '>'].isPrefixOf rest) then some .blank
    else none
  else none

/-- What ends the block that a complete tag alone on a line begins. -/
def loneEnd? (cs : List Char) : Option BlockEnd := do
  let rest ← match cs with
    | '/' :: cs => afterClosing? cs
    | cs => afterOpening? cs
  if rest.all isSpace then some .blank else none

/-- What ends the block of HTML that begins with a text behind a `<`. A complete tag alone on its
line does not interrupt a paragraph. -/
def blockEnd? (inParagraph : Bool) (cs : List Char) : Option BlockEnd :=
  let special : Option BlockEnd :=
    match cs with
    | '!' :: '-' :: '-' :: _ => some (.text ['-', '-', '>'])
    | '?' :: _ => some (.text ['?', '>'])
    | '!' :: '[' :: 'C' :: 'D' :: 'A' :: 'T' :: 'A' :: '[' :: _ => some (.text [']', ']', '>'])
    | '!' :: c :: _ => if isLetter c then some (.text ['>']) else none
    | '/' :: cs => namedEnd? true cs
    | cs => namedEnd? false cs
  match special with
  | some e => some e
  | none => if inParagraph then none else loneEnd? cs

/-- The line ends a block of HTML. -/
def BlockEnd.isAt (e : BlockEnd) (line : List Char) : Bool :=
  match e with
  | .text cs => (afterFirst? cs (lowerAscii line)).isSome
  | .blank => false

end Stencil.Markdown.Tag
