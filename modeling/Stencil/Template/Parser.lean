import Stencil.Expr.Parser
import Stencil.Source.Lexer
import Stencil.Template

/-!
# From tokens to templates

Statements are collected in a builder, which keeps the blocks that are open around the statement
being read. Every open block holds the statements before it, so that no state of the builder is
without a place to put a statement.

- `Language`: the delimiters and the directives in use.
- `OpenBlock`, `Builder`: what has been read so far.
- `Builder.addElse`, `Builder.addElseIf`, `Builder.closeIf`, `Builder.closeFor`: the tags of blocks.
- `Parse.template`: the statements of a source.
- `Template.compile`: the template of a source.

Specification: section E1; `parse_template`, `parse_block`, `parse_directive` and `build_directive`.
-/

namespace Stencil

/-- The delimiters and the directives in use. -/
structure Language where
  delimiters : Delimiters
  directives : Dict Definition

/-! ## Open blocks -/

/-- The condition of a clause and the place of its tag. -/
structure Clause where
  negated : Bool
  cond : Expr
  span : Span

/-- A block that is open, with the statements before it in reverse. -/
inductive OpenBlock where
  /-- The first branch of a condition; `nested` if it was opened by an `else if`. -/
  | thenBranch (clause : Clause) (nested : Bool) (before : List Stmt)
  /-- The second branch of a condition. -/
  | elseBranch (clause : Clause) (nested : Bool) (thenBody : List Stmt) (before : List Stmt)
  | loop (vars : LoopVars) (iterable : Expr) (span : Span) (before : List Stmt)
  | paired (start : Directive) (stop : Compile) (before : List Stmt)
  | cached (start : Invocation) (before : List Stmt)

/-- The fault and the place of a block that is never closed. -/
def OpenBlock.unclosed : OpenBlock → String × Span
  | .thenBranch clause _ _ => ("if", clause.span)
  | .elseBranch clause _ _ _ => ("if", clause.span)
  | .loop _ _ span _ => ("for", span)
  | .paired start _ _ => (start.name.name, start.span)
  | .cached start _ => (start.name.name, start.span)

/-- The statements read since the innermost open block began, in reverse, and the open blocks, the
innermost first. -/
structure Builder where
  current : List Stmt
  blocks : List OpenBlock

namespace Builder

/-- Nothing has been read. -/
def empty : Builder := ⟨[], []⟩

/-- Adds a statement to the innermost open block. -/
def add (b : Builder) (s : Stmt) : Builder := { b with current := s :: b.current }

/-- Opens the first branch of a condition. -/
def openIf (b : Builder) (clause : Clause) : Builder :=
  ⟨[], .thenBranch clause false b.current :: b.blocks⟩

/-- Opens a loop. -/
def openFor (b : Builder) (vars : LoopVars) (iterable : Expr) (span : Span) : Builder :=
  ⟨[], .loop vars iterable span b.current :: b.blocks⟩

/-- Goes from the first branch of the innermost condition to its second one. -/
def addElse (b : Builder) : Option Builder :=
  match b.blocks with
  | .thenBranch clause nested before :: rest =>
    some ⟨[], .elseBranch clause nested b.current.reverse before :: rest⟩
  | _ => none

/-- Goes to the second branch of the innermost condition and opens a condition in it. -/
def addElseIf (b : Builder) (clause : Clause) : Option Builder :=
  b.addElse.map fun b => ⟨[], .thenBranch clause true [] :: b.blocks⟩

/-- Closes a condition with the given statements in its last branch, and with it the conditions in
whose second branch it was opened. -/
def closeClauses (current : List Stmt) : List OpenBlock → Option Builder
  | .thenBranch clause nested before :: rest =>
    let s := Stmt.ifElse clause.negated clause.cond current.reverse none
    if nested then closeClauses (s :: before) rest else some ⟨s :: before, rest⟩
  | .elseBranch clause nested thenBody before :: rest =>
    let s := Stmt.ifElse clause.negated clause.cond thenBody (some current.reverse)
    if nested then closeClauses (s :: before) rest else some ⟨s :: before, rest⟩
  | _ => none

/-- Closes the innermost condition. -/
def closeIf (b : Builder) : Option Builder := closeClauses b.current b.blocks

/-- Closes the innermost loop. -/
def closeFor (b : Builder) : Option Builder :=
  match b.blocks with
  | .loop vars iterable _ before :: rest =>
    some ⟨.forLoop vars iterable b.current.reverse :: before, rest⟩
  | _ => none

end Builder

namespace Parse

/-- The language, the identity of the template and the surroundings of its tokens. -/
structure Reader extends Surroundings where
  language : Language
  identity : String

/-! ## Block tags -/

/-- What a block tag that is no directive does. -/
inductive BlockTag where
  | ifTag (negated : Bool) (cond : Expr)
  | elseTag
  | elseIfTag (negated : Bool) (cond : Expr)
  | endifTag
  | forTag (vars : LoopVars) (iterable : Expr)
  | endforTag
  | includeTag (name : Ident) (globals : Option Expr)

/-- A condition, which may be negated. -/
def condition (s : Surroundings) (ts : List Token) :
    Except Failure (Taken (Bool × Expr)) := do
  if ← isNextKeyword s .not ts then
    let (_, ts) ← expectKeyword s .not ts
    let (e, ts) ← expression s ts
    .ok ((true, e), ts)
  else
    let (e, ts) ← expression s ts
    .ok ((false, e), ts)

/-- The variables of a loop. -/
def loopVars (s : Surroundings) (ts : List Token) : Except Failure (Taken LoopVars) := do
  let (key, ts) ← ident s ts
  if ← isNext s .comma ts then
    let (_, ts) ← expect s .comma ts
    let (value, ts) ← ident s ts
    .ok (.entry key value (key.span.join value.span), ts)
  else .ok (.item key, ts)

/-- A block tag from its keyword on, without its closing delimiter. -/
def blockTag (s : Surroundings) (ts : List Token) : Except Failure (Taken BlockTag) := do
  let ((k, span), ts) ← keyword s ts
  match k with
  | .if =>
    let ((negated, cond), ts) ← condition s ts
    .ok (.ifTag negated cond, ts)
  | .else =>
    if ← isNextKeyword s .if ts then
      let (_, ts) ← expectKeyword s .if ts
      let ((negated, cond), ts) ← condition s ts
      .ok (.elseIfTag negated cond, ts)
    else .ok (.elseTag, ts)
  | .endif => .ok (.endifTag, ts)
  | .for =>
    let (vars, ts) ← loopVars s ts
    let (_, ts) ← expectKeyword s .in ts
    let (iterable, ts) ← expression s ts
    .ok (.forTag vars iterable, ts)
  | .endfor => .ok (.endforTag, ts)
  | .include =>
    let (t, ts) ← expect s .string ts
    let name ← Literal.string s.source t.text t.span
    if ← isNextKeyword s .with ts then
      let (_, ts) ← expectKeyword s .with ts
      let (globals, ts) ← expression s ts
      .ok (.includeTag ⟨name, t.span⟩ (some globals), ts)
    else .ok (.includeTag ⟨name, t.span⟩ none, ts)
  | k => fault s (.unexpectedKeyword k) span

/-- The next state of the builder, unless the tag has no place here. -/
def placed (s : Surroundings) (name : String) (span : Span) :
    Option Builder → Except Failure Builder
  | some b => .ok b
  | none => fault s (.unexpectedBlock name) span

/-- What a block tag does to the builder. -/
def applyTag (s : Surroundings) (b : Builder) (span : Span) : BlockTag → Except Failure Builder
  | .ifTag negated cond => .ok (b.openIf ⟨negated, cond, span⟩)
  | .elseTag => placed s "else" span b.addElse
  | .elseIfTag negated cond => placed s "else if" span (b.addElseIf ⟨negated, cond, span⟩)
  | .endifTag => placed s "endif" span b.closeIf
  | .forTag vars iterable => .ok (b.openFor vars iterable span)
  | .endforTag => placed s "endfor" span b.closeFor
  | .includeTag name globals => .ok (b.add (.include name globals))

/-! ## Directive tags -/

/-- The place of the arguments of a directive and of its closing delimiter. Without arguments the
place is the given one, behind the name. -/
def rawArgs (s : Surroundings) (raw : Span) : List Token → Except Failure (Taken (Span × Span))
  | [] =>
    match s.failure with
    | some f => .error f
    | none => faultAtEnd s (TokenKind.closing .block).word
  | t :: ts =>
    if t.kind = .closing .block then .ok ((raw, t.span), ts)
    else rawArgs s (if raw.isEmpty then t.span else raw.join t.span) ts

/-- The occurrence of a directive with its arguments at a place. -/
def occurrence (r : Reader) (raw : Span) : Except Failure Occurrence :=
  match Text.slice raw r.source, Origin.at? r.identity r.source raw.start with
  | some text, some origin => .ok ⟨text, raw, origin⟩
  | _, _ => .error .broken

/-- The arguments of a directive, parsed in its mode. -/
def directiveArgs (r : Reader) (name : Ident) (mode : Mode) (o : Occurrence) :
    Except Failure DirectiveArgs :=
  match mode with
  | .bare =>
    if o.span.isEmpty then .ok .none
    else fault r.toSurroundings (.unwantedArguments name.name) o.span
  | .call =>
    match lexRegion r.language.delimiters r.source o.span with
    | none => .error .broken
    | some l => (callArgs ⟨r.source, l.failure⟩ l.significant).map .call
  | .assign =>
    match lexRegion r.language.delimiters r.source o.span with
    | none => .error .broken
    | some l => (assignArgs ⟨r.source, l.failure⟩ l.significant).map .assign

/-- An invocation whose arguments are parsed in a mode. -/
def invocation (r : Reader) (name : Ident) (mode : Mode) (o : Occurrence) (span : Span) :
    Except Failure Invocation := do
  let args ← directiveArgs r name mode o
  .ok ⟨name, args, o.origin, span⟩

/-- The directive of an occurrence: first it is compiled, then its arguments are parsed. -/
def directive (r : Reader) (compile : Compile) (name : Ident) (o : Occurrence) (span : Span) :
    Except Failure Directive := do
  match compile o with
  | .error e => .error (.error (e.locate r.source span))
  | .ok fragment =>
    let i ← invocation r name fragment.mode o span
    .ok ⟨i, fragment.run⟩

/-- The end of the innermost block, if the tag is named after it. -/
def closeDirective? (r : Reader) (b : Builder) (name : Ident) (raw span : Span) :
    Option (Except Failure Builder) :=
  match b.blocks with
  | .paired start stop before :: rest =>
    if name.name = "end" ++ start.name.name then
      some do
        let o ← occurrence r raw
        let d ← directive r stop name o span
        .ok ⟨.block start b.current.reverse d :: before, rest⟩
    else none
  | .cached start before :: rest =>
    if name.name = "end" ++ start.name.name then
      some do
        let o ← occurrence r raw
        let i ← invocation r name .bare o span
        .ok ⟨.cached start b.current.reverse i :: before, rest⟩
    else none
  | _ => none

/-- The tag is the end of some paired directive. -/
def endsPaired (l : Language) (name : String) : Bool :=
  l.directives.any fun d => d.2.isPaired && name == "end" ++ d.1

/-- What a directive tag does to the builder. -/
def applyDirective (r : Reader) (b : Builder) (name : Ident) (raw span : Span) :
    Except Failure Builder :=
  match closeDirective? r b name raw span with
  | some result => result
  | none =>
    match Dict.get? name.name r.language.directives with
    | some (.single compile) => do
      let o ← occurrence r raw
      let d ← directive r compile name o span
      .ok (b.add (.directive d))
    | some (.paired start stop) => do
      let o ← occurrence r raw
      let d ← directive r start name o span
      .ok ⟨[], .paired d stop b.current :: b.blocks⟩
    | some .cached => do
      let o ← occurrence r raw
      let i ← invocation r name .call o span
      .ok ⟨[], .cached i b.current :: b.blocks⟩
    | none =>
      if endsPaired r.language name.name then
        fault r.toSurroundings (.unexpectedBlock name.name) name.span
      else fault r.toSurroundings (.unknownDirective name.name) name.span

/-! ## Whole templates -/

/-- The end of a source: no block may be open. The outermost open block is reported. -/
def finish (s : Surroundings) (b : Builder) : Except Failure (List Stmt) :=
  match b.blocks.getLast? with
  | none => .ok b.current.reverse
  | some block => fault s (.unclosedBlock block.unclosed.1) block.unclosed.2

/-- What the tag or the text at the start of the tokens does to the builder. -/
def statement (r : Reader) (b : Builder) (t : Token) (ts : List Token) :
    Except Failure (Taken Builder) := do
  let s := r.toSurroundings
  match t.kind with
  | .raw => .ok (b.add (.raw t.span), ts)
  | .opening .comment =>
    let ts ←
      if ← isNext s .raw ts then (expect s .raw ts).map Prod.snd
      else .ok ts
    let (_, ts) ← expect s (.closing .comment) ts
    .ok (b, ts)
  | .opening .expression =>
    let (e, ts) ← expression s ts
    let (close, ts) ← expect s (.closing .expression) ts
    .ok (b.add (.output e (t.span.join close.span)), ts)
  | .opening .block =>
    if ← isNext s .identifier ts then
      let (name, ts) ← ident s ts
      let ((raw, close), ts) ← rawArgs s (Span.point name.span.stop) ts
      let b ← applyDirective r b name raw (t.span.join close)
      .ok (b, ts)
    else
      let (tag, ts) ← blockTag s ts
      let (close, ts) ← expect s (.closing .block) ts
      let b ← applyTag s b (t.span.join close.span) tag
      .ok (b, ts)
  | _ => .error .broken

/-- The statements of the tokens. The first argument bounds their number. -/
def statements (r : Reader) : Nat → Builder → List Token → Except Failure (List Stmt)
  | 0, _, _ => .error .broken
  | n + 1, b, ts => do
    match ← next? r.toSurroundings ts with
    | none => finish r.toSurroundings b
    | some (t, ts) =>
      let (b, ts) ← statement r b t ts
      statements r n b ts

/-- The statements of a source. -/
def template (l : Language) (name : Option String) (source : String) :
    Except Failure (List Stmt) :=
  let lexed := lex l.delimiters source
  let ts := lexed.significant
  statements ⟨⟨source, lexed.failure⟩, l, Origin.identityOf name source⟩ (ts.length + 1) .empty ts

end Parse

/-- The template of a source. An error carries the name of the template. -/
def Template.compile (l : Language) (name : Option String) (source : String) :
    Except Failure Template :=
  match Parse.template l name source with
  | .ok body => .ok ⟨name, source, body⟩
  | .error f => .error (f.inTemplate name)

end Stencil
