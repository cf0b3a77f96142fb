import Stencil.Proofs.Markup

/-!
# Two stacks

The open blocks and the scopes that collect statements can be kept on two stacks, with nothing said
about how they belong together. A block opens one scope, a clause with an `else` has a second one,
and closing a block takes off as many. Some states have no scope to take or to add to, and the
parser panics there. It never comes to them: it is the parser that keeps the statements in the
blocks.

- `Stacks.Panic`: what goes wrong in the parser itself.
- `Stacks.State`: the open blocks and the scopes.
- `Stacks.template`: the statements of a source.
- `Builder.stacks`: the stacks of a builder.
- `Stacks.template_eq`: both parsers give the same.
-/

namespace Stencil

namespace Stacks

open Parse

/-! ## The parser -/

/-- What goes wrong in the parser itself. -/
inductive Panic where
  /-- The end of a directive closes something else. -/
  | expectedDirective
  /-- There is no scope to take, or to add to. -/
  | noScope
  /-- Other than one scope is left. -/
  | scopesLeft
  /-- A token begins neither a text nor a tag. -/
  | strayToken
deriving DecidableEq

/-- Why the parser ends. -/
inductive Crash where
  | failed (f : Failure)
  | panicked (p : Panic)

/-- A block that is open. -/
inductive Block where
  | condition (clause : Clause) (isElseIf hasElse : Bool)
  | loop (vars : LoopVars) (iterable : Expr) (span : Span)
  | paired (start : Directive) (stop : Compile)
  | cached (start : Invocation)

/-- The name and the place of a block that is never closed. -/
def Block.unclosed : Block → String × Span
  | .condition clause _ _ => ("if", clause.span)
  | .loop _ _ span => ("for", span)
  | .paired start _ => (start.name.name, start.span)
  | .cached start => (start.name.name, start.span)

/-- The open blocks and the scopes, the innermost first. -/
structure State where
  blocks : List Block
  scopes : List (List Stmt)

/-- A result or a failure of a reader. -/
def lift {α : Type} (r : Except Failure α) : Except Crash α := r.mapError .failed

/-- Takes the innermost scope. -/
def takeScope : List (List Stmt) → Except Crash (List Stmt × List (List Stmt))
  | [] => .error (.panicked .noScope)
  | scope :: scopes => .ok (scope, scopes)

/-- Adds a statement to the innermost scope. -/
def addTo (stmt : Stmt) : List (List Stmt) → Except Crash (List (List Stmt))
  | [] => .error (.panicked .noScope)
  | scope :: scopes => .ok ((scope ++ [stmt]) :: scopes)

/-- Marks that the innermost block, a condition, has an `else`. -/
def markElse (s : Surroundings) (tag : String) (span : Span) :
    List Block → Except Crash (List Block)
  | .condition clause isElseIf false :: blocks => .ok (.condition clause isElseIf true :: blocks)
  | _ => lift (fault s (.unexpectedBlock tag) span)

/-- Closes the innermost block, a condition, and the ones for which it is an `else if`. -/
def closeIf (s : Surroundings) (span : Span) :
    List Block → List (List Stmt) → Except Crash (State × Stmt)
  | .condition clause isElseIf hasElse :: blocks, scopes => do
    let (elseBody, scopes) ←
      if hasElse then (takeScope scopes).map fun p => (some p.1, p.2)
      else .ok (none, scopes)
    let (thenBody, scopes) ← takeScope scopes
    let stmt := Stmt.ifElse clause.negated clause.cond thenBody elseBody
    if isElseIf then
      let scopes ← addTo stmt scopes
      closeIf s span blocks scopes
    else .ok (⟨blocks, scopes⟩, stmt)
  | _, _ => lift (fault s (.unexpectedBlock "endif") span)

/-- Closes the innermost block, a loop. -/
def closeFor (s : Surroundings) (span : Span) (st : State) : Except Crash (State × Stmt) :=
  match st.blocks with
  | .loop vars iterable _ :: blocks => do
    let (body, scopes) ← takeScope st.scopes
    .ok (⟨blocks, scopes⟩, .forLoop vars iterable body)
  | _ => lift (fault s (.unexpectedBlock "endfor") span)

/-- What a directive tag is. -/
inductive Tag where
  | single (d : Directive)
  | start (d : Directive) (stop : Compile)
  | startCached (i : Invocation)
  | stop (d : Directive)
  | stopCached (i : Invocation)

/-- The end of the innermost block, if the tag is named after it. -/
def stop? (r : Reader) (blocks : List Block) (name : Ident) (raw span : Span) :
    Option (Except Failure Tag) :=
  match blocks with
  | .paired start stop :: _ =>
    if name.name = "end" ++ start.name.name then
      some do
        let o ← occurrence r raw
        let d ← directive r stop name o span
        .ok (.stop d)
    else none
  | .cached start :: _ =>
    if name.name = "end" ++ start.name.name then
      some do
        let o ← occurrence r raw
        let i ← invocation r name .bare o span
        .ok (.stopCached i)
    else none
  | _ => none

/-- Finds out what a directive tag is. -/
def resolve (r : Reader) (blocks : List Block) (name : Ident) (raw span : Span) :
    Except Failure Tag :=
  match stop? r blocks name raw span with
  | some result => result
  | none =>
    match Dict.get? name.name r.language.directives with
    | some (.single compile) => do
      let o ← occurrence r raw
      let d ← directive r compile name o span
      .ok (.single d)
    | some (.paired start stop) => do
      let o ← occurrence r raw
      let d ← directive r start name o span
      .ok (.start d stop)
    | some .cached => do
      let o ← occurrence r raw
      let i ← invocation r name .call o span
      .ok (.startCached i)
    | none =>
      if endsPaired r.language name.name then
        fault r.toSurroundings (.unexpectedBlock name.name) name.span
      else fault r.toSurroundings (.unknownDirective name.name) name.span

/-- What a directive tag does to the stacks, and the statement that it makes, if any. -/
def applyDirective (st : State) : Tag → Except Crash (State × Option Stmt)
  | .single d => .ok (st, some (.directive d))
  | .start d stop => .ok (⟨.paired d stop :: st.blocks, [] :: st.scopes⟩, none)
  | .startCached i => .ok (⟨.cached i :: st.blocks, [] :: st.scopes⟩, none)
  | .stop d =>
    match st.blocks with
    | .paired start _ :: blocks => do
      let (body, scopes) ← takeScope st.scopes
      .ok (⟨blocks, scopes⟩, some (.block start body d))
    | _ => .error (.panicked .expectedDirective)
  | .stopCached i =>
    match st.blocks with
    | .cached start :: blocks => do
      let (body, scopes) ← takeScope st.scopes
      .ok (⟨blocks, scopes⟩, some (.cached start body i))
    | _ => .error (.panicked .expectedDirective)

/-- What another tag does to the stacks, and the statement that it makes, if any. -/
def applyTag (s : Surroundings) (st : State) (span : Span) :
    BlockTag → Except Crash (State × Option Stmt)
  | .ifTag negated cond =>
    .ok (⟨.condition ⟨negated, cond, span⟩ false false :: st.blocks, [] :: st.scopes⟩, none)
  | .elseTag => do
    let blocks ← markElse s "else" span st.blocks
    .ok (⟨blocks, [] :: st.scopes⟩, none)
  | .elseIfTag negated cond => do
    let blocks ← markElse s "else if" span st.blocks
    .ok (⟨.condition ⟨negated, cond, span⟩ true false :: blocks, [] :: [] :: st.scopes⟩, none)
  | .endifTag => (closeIf s span st.blocks st.scopes).map fun p => (p.1, some p.2)
  | .forTag vars iterable =>
    .ok (⟨.loop vars iterable span :: st.blocks, [] :: st.scopes⟩, none)
  | .endforTag => (closeFor s span st).map fun p => (p.1, some p.2)
  | .includeTag name globals => .ok (st, some (.include name globals))

/-- What a text or a tag does to the stacks, and the statement that it makes, if any. -/
def applyMarkup (r : Reader) (st : State) : Markup → Except Crash (State × Option Stmt)
  | .raw span => .ok (st, some (.raw span))
  | .comment => .ok (st, none)
  | .output e span => .ok (st, some (.output e span))
  | .directive name raw span => do
    let tag ← lift (resolve r st.blocks name raw span)
    applyDirective st tag
  | .block tag span => applyTag r.toSurroundings st span tag

/-- Adds the statement that has been made, if any. -/
def push : State × Option Stmt → Except Crash State
  | (st, none) => .ok st
  | (st, some stmt) => (addTo stmt st.scopes).map fun scopes => ⟨st.blocks, scopes⟩

/-- What the tag or the text at the start of the tokens does to the stacks. -/
def statement (r : Reader) (st : State) (t : Token) (ts : List Token) :
    Except Crash (Taken State) :=
  match t.kind with
  | .raw | .opening _ => do
    let (m, ts) ← lift (markup r.toSurroundings t ts)
    let made ← applyMarkup r st m
    let st ← push made
    .ok (st, ts)
  | _ => .error (.panicked .strayToken)

/-- The end of a source: no block may be open, and one scope is left. -/
def finish (s : Surroundings) (st : State) : Except Crash (List Stmt) :=
  match st.blocks.getLast? with
  | some block => lift (fault s (.unclosedBlock block.unclosed.1) block.unclosed.2)
  | none =>
    match st.scopes with
    | [scope] => .ok scope
    | _ => .error (.panicked .scopesLeft)

/-- The statements of the tokens. The first argument bounds their number. -/
def statements (r : Reader) : Nat → State → List Token → Except Crash (List Stmt)
  | 0, _, _ => lift (.error .broken)
  | n + 1, st, ts => do
    match ← lift (next? r.toSurroundings ts) with
    | none => finish r.toSurroundings st
    | some (t, ts) =>
      let (st, ts) ← statement r st t ts
      statements r n st ts

/-- The statements of a source. -/
def template (l : Language) (name : Option String) (source : String) :
    Except Crash (List Stmt) :=
  let lexed := lex l.delimiters source
  let ts := lexed.significant
  statements ⟨⟨source, lexed.failure⟩, l, Origin.identityOf name source⟩ (ts.length + 1)
    ⟨[], [[]]⟩ ts

end Stacks

/-! ## The stacks of a builder -/

/-- The block on the stack. -/
def OpenBlock.block : OpenBlock → Stacks.Block
  | .thenBranch clause nested _ => .condition clause nested false
  | .elseBranch clause nested _ _ => .condition clause nested true
  | .loop vars iterable span _ => .loop vars iterable span
  | .paired start stop _ => .paired start stop
  | .cached start _ => .cached start

/-- The scopes below the one that a block has opened last. -/
def OpenBlock.scopes : OpenBlock → List (List Stmt)
  | .thenBranch _ _ before => [before.reverse]
  | .elseBranch _ _ thenBody before => [thenBody, before.reverse]
  | .loop _ _ _ before => [before.reverse]
  | .paired _ _ before => [before.reverse]
  | .cached _ before => [before.reverse]

/-- The stacks of a builder. -/
def Builder.stacks (b : Builder) : Stacks.State :=
  ⟨b.blocks.map OpenBlock.block, b.current.reverse :: b.blocks.flatMap OpenBlock.scopes⟩

namespace Stacks

open Parse

variable {r : Reader} {s : Surroundings} {b : Builder} {name : Ident} {raw span : Span}

theorem unclosed_block (o : OpenBlock) : o.block.unclosed = o.unclosed := by
  cases o <;> rfl

/-- Making a statement adds it. -/
theorem push_stacks (b : Builder) (stmt : Stmt) :
    push (b.stacks, some stmt) = .ok (b.add stmt).stacks := by
  simp [push, Builder.stacks, addTo, Builder.add, Except.map]

/-- Closing a condition takes off as many scopes as its clauses have opened. -/
theorem closeIf_stacks (blocks : List OpenBlock) (current : List Stmt) :
    ((closeIf s span (blocks.map OpenBlock.block)
        (current.reverse :: blocks.flatMap OpenBlock.scopes)).map
      fun p => (p.1, some p.2)) >>= push =
      lift ((placed s "endif" span (Builder.closeClauses current blocks)).map Builder.stacks) := by
  induction blocks generalizing current with
  | nil => rfl
  | cons o blocks ih =>
    cases o with
    | thenBranch clause nested before =>
      -- the scope of the only branch is taken, and the one below gets the statement
      have added := ih (.ifElse clause.negated clause.cond current.reverse none :: before)
      rw [List.reverse_cons] at added
      cases nested with
      | false => exact push_stacks ⟨before, blocks⟩ _
      | true => exact added
    | elseBranch clause nested thenBody before =>
      have added :=
        ih (.ifElse clause.negated clause.cond thenBody (some current.reverse) :: before)
      rw [List.reverse_cons] at added
      cases nested with
      | false => exact push_stacks ⟨before, blocks⟩ _
      | true => exact added
    | loop vars iterable span' before => rfl
    | paired start stop before => rfl
    | cached start before => rfl

theorem closeFor_stacks :
    ((closeFor s span b.stacks).map fun p => (p.1, some p.2)) >>= push =
      lift ((placed s "endfor" span b.closeFor).map Builder.stacks) := by
  obtain ⟨current, blocks⟩ := b
  cases blocks with
  | nil => rfl
  | cons o blocks =>
    cases o with
    | loop vars iterable span' before =>
      exact push_stacks ⟨before, blocks⟩ (.forLoop vars iterable current.reverse)
    | _ => rfl

theorem applyTag_stacks (tag : BlockTag) :
    applyTag s b.stacks span tag >>= push =
      lift ((Parse.applyTag s b span tag).map Builder.stacks) := by
  cases tag with
  | ifTag negated cond => rfl
  | elseTag =>
    obtain ⟨current, blocks⟩ := b
    cases blocks with
    | nil => rfl
    | cons o blocks => cases o <;> rfl
  | elseIfTag negated cond =>
    obtain ⟨current, blocks⟩ := b
    cases blocks with
    | nil => rfl
    | cons o blocks => cases o <;> rfl
  | endifTag => exact closeIf_stacks b.blocks b.current
  | forTag vars iterable => rfl
  | endforTag => exact closeFor_stacks
  | includeTag name globals => exact push_stacks b _

/-- A directive that does not end the innermost block is found by its name. -/
theorem applyDirective_stacks_of_none (stop : stop? r b.stacks.blocks name raw span = none)
    (close : closeDirective? r b name raw span = none) :
    (lift (resolve r b.stacks.blocks name raw span) >>= applyDirective b.stacks) >>= push =
      lift ((Parse.applyDirective r b name raw span).map Builder.stacks) := by
  simp only [resolve, Parse.applyDirective, stop, close]
  cases Dict.get? name.name r.language.directives with
  | none =>
    dsimp only
    split
    · rfl
    · rfl
  | some definition =>
    cases definition with
    | single compile =>
      dsimp only
      cases occurrence r raw with
      | error f => rfl
      | ok o =>
        simp only [ok_bind]
        cases directive r compile name o span with
        | error f => rfl
        | ok d => exact push_stacks b (.directive d)
    | paired start stop =>
      dsimp only
      cases occurrence r raw with
      | error f => rfl
      | ok o =>
        simp only [ok_bind]
        cases directive r start name o span <;> rfl
    | cached =>
      dsimp only
      cases occurrence r raw with
      | error f => rfl
      | ok o =>
        simp only [ok_bind]
        cases invocation r name .call o span <;> rfl

theorem applyDirective_stacks :
    (lift (resolve r b.stacks.blocks name raw span) >>= applyDirective b.stacks) >>= push =
      lift ((Parse.applyDirective r b name raw span).map Builder.stacks) := by
  obtain ⟨current, blocks⟩ := b
  cases blocks with
  | nil => exact applyDirective_stacks_of_none rfl rfl
  | cons o blocks =>
    cases o with
    | paired start stop before =>
      by_cases ends : name.name = "end" ++ start.name.name
      · simp only [resolve, stop?, Parse.applyDirective, closeDirective?, Builder.stacks,
          List.map_cons, OpenBlock.block, if_pos ends]
        cases occurrence r raw with
        | error f => rfl
        | ok o =>
          simp only [ok_bind]
          cases directive r stop name o span with
          | error f => rfl
          | ok d => exact push_stacks ⟨before, blocks⟩ (.block start current.reverse d)
      · exact applyDirective_stacks_of_none (if_neg ends) (if_neg ends)
    | cached start before =>
      by_cases ends : name.name = "end" ++ start.name.name
      · simp only [resolve, stop?, Parse.applyDirective, closeDirective?, Builder.stacks,
          List.map_cons, OpenBlock.block, if_pos ends]
        cases occurrence r raw with
        | error f => rfl
        | ok o =>
          simp only [ok_bind]
          cases invocation r name .bare o span with
          | error f => rfl
          | ok i => exact push_stacks ⟨before, blocks⟩ (.cached start current.reverse i)
      · exact applyDirective_stacks_of_none (if_neg ends) (if_neg ends)
    | _ => exact applyDirective_stacks_of_none rfl rfl

theorem applyMarkup_stacks (m : Markup) :
    applyMarkup r b.stacks m >>= push =
      lift ((Parse.applyMarkup r b m).map Builder.stacks) := by
  cases m with
  | raw span => exact push_stacks b _
  | comment => rfl
  | output e span => exact push_stacks b _
  | directive name raw span => exact applyDirective_stacks
  | block tag span => exact applyTag_stacks tag

/-- At a text or a tag, the stacks go on as the builder does. -/
theorem statement_stacks {t : Token} {ts : List Token}
    (kind : t.kind = .raw ∨ ∃ tag, t.kind = .opening tag) :
    statement r b.stacks t ts =
      lift ((Parse.statement r b t ts).map fun p => (p.1.stacks, p.2)) := by
  have reads : statement r b.stacks t ts =
      (lift (markup r.toSurroundings t ts) >>= fun m =>
        (applyMarkup r b.stacks m.1 >>= push).map fun st => (st, m.2)) := by
    rw [statement]
    rcases kind with kind | ⟨tag, kind⟩
    all_goals
      simp only [kind]
      cases lift (markup r.toSurroundings t ts) with
      | error f => rfl
      | ok m =>
        simp only [ok_bind]
        cases applyMarkup r b.stacks m.1 with
        | error f => rfl
        | ok made =>
          simp only [ok_bind]
          cases push made <;> rfl
  rw [reads, statement_eq]
  cases markup r.toSurroundings t ts with
  | error f => rfl
  | ok m =>
    show (applyMarkup r b.stacks m.1 >>= push).map _ = _
    rw [applyMarkup_stacks]
    show _ = lift (((Parse.applyMarkup r b m.1).map fun b' => (b', m.2)).map _)
    cases Parse.applyMarkup r b m.1 <;> rfl

theorem finish_stacks : finish s b.stacks = lift (Parse.finish s b) := by
  obtain ⟨current, blocks⟩ := b
  simp only [finish, Parse.finish, Builder.stacks, List.getLast?_map]
  cases last : blocks.getLast? with
  | none =>
    rw [List.getLast?_eq_none_iff.1 last]
    rfl
  | some o =>
    simp only [Option.map_some, unclosed_block]

theorem statements_stacks (n : Nat) {ts : List Token} (framed : Framed none ts) :
    statements r n b.stacks ts = lift (Parse.statements r n b ts) := by
  -- on the bound; behind a text or a tag the parser is where the lexer is between tags
  induction n generalizing b ts with
  | zero => rfl
  | succ n ih =>
    rw [statements, Parse.statements]
    cases next : next? r.toSurroundings ts with
    | error f => rfl
    | ok first =>
      cases first with
      | none => exact finish_stacks
      | some first =>
        obtain ⟨t, rest⟩ := first
        rw [next?_eq_some next] at framed
        show (statement r b.stacks t rest >>= _) = lift (Parse.statement r b t rest >>= _)
        rw [statement_stacks framed.kind_of_cons]
        cases stated : Parse.statement r b t rest with
        | error f => rfl
        | ok next =>
          obtain ⟨b', rest'⟩ := next
          rw [statement_eq] at stated
          obtain ⟨⟨m, ts'⟩, read, applied⟩ := bind_eq_ok stated
          obtain ⟨_, -, eq⟩ := map_eq_ok applied
          cases eq
          exact ih (behind_markup framed read).framed

/-- A failure of a reader is no panic. -/
theorem lift_ne_panicked {α : Type} (result : Except Failure α) (p : Panic) :
    lift result ≠ .error (.panicked p) := by
  intro h
  cases result with
  | ok a => cases h
  | error f => cases h

/-- The parser with two stacks gives what the other one gives. -/
theorem template_eq (l : Language) (name : Option String) (source : String) :
    template l name source = lift (Parse.template l name source) :=
  statements_stacks (b := .empty) _ (framed_lex l.delimiters source)

end Stacks

end Stencil
