import Stencil.Template

/-!
# Programs

The statements of a template laid out as a list of instructions. A jump is added before the place
it goes to is known, and its target is put in when that place is reached.

- `Instr`: the instructions.
- `Program.patch?`: puts the end of a program in as the target of a jump.
- `Program.add?`, `Program.addAll?`: add the instructions of statements.
- `Template.program?`: the instructions of a template.

Specification: section E1; `Instr` and `compile_stmt`.
-/

namespace Stencil

/-- An instruction. A target is the number of an instruction. -/
inductive Instr where
  | raw (span : Span)
  /-- Writes the value of an expression. -/
  | print (expr : Expr)
  /-- Pipes the value of an expression into a function, and writes it. -/
  | pipe (receiver : Expr) (name : Ident) (span : Span)
  | include (name : Ident) (globals : Option Expr)
  | jump (target : Nat)
  /-- Jumps unless the branch is taken. -/
  | branch (negated : Bool) (cond : Expr) (target : Nat)
  /-- Begins a loop. -/
  | loop (vars : LoopVars) (iterable : Expr)
  /-- Begins the next round of the innermost loop; leaves it and jumps if there is none. -/
  | round (target : Nat)
  | directive (d : Directive)
  /-- The start of a block. Jumps if the block is skipped. -/
  | start (d : Directive) (target : Nat)
  /-- The end of a block. -/
  | stop (d : Directive)
  /-- The start of a cached block. Jumps if its text is in the store. -/
  | startCached (i : Invocation) (target : Nat)
  /-- The end of a cached block. -/
  | stopCached (i : Invocation)

namespace Instr

/-- The target of a jump that is not known yet. -/
def unknown : Nat := Word.bound - 1

/-- The jump with another target; there is none for an instruction that does not jump. -/
def retarget? (target : Nat) : Instr → Option Instr
  | .jump _ => some (.jump target)
  | .branch negated cond _ => some (.branch negated cond target)
  | .round _ => some (.round target)
  | .start d _ => some (.start d target)
  | .startCached i _ => some (.startCached i target)
  | _ => none

/-- Writes the value of an expression. If it is piped into a function without arguments at last,
the function may be a formatter. -/
def output (expr : Expr) (span : Span) : Instr :=
  match expr with
  | .filter receiver name [] _ => .pipe receiver name span
  | expr => .print expr

end Instr

namespace Program

/-- Puts the end of a program in as the target of one of its jumps. -/
def patch? (code : List Instr) (i : Nat) : Option (List Instr) := do
  let instr ← code[i]?
  let instr ← instr.retarget? code.length
  some (code.set i instr)

mutual

/-- A program with the instructions of a statement behind it. -/
def add? (code : List Instr) : Stmt → Option (List Instr)
  | .raw span => some (code ++ [.raw span])
  | .output x span => some (code ++ [.output x span])
  | .include name globals => some (code ++ [.include name globals])
  | .ifElse negated cond thenBody elseBody => do
    let taken ← addAll? (code ++ [.branch negated cond Instr.unknown]) thenBody
    addElse? taken code.length elseBody
  | .forLoop vars iterable body => do
    let first := code.length + 1
    let rounds ← addAll? (code ++ [.loop vars iterable, .round Instr.unknown]) body
    patch? (rounds ++ [.jump first]) first
  | .directive d => some (code ++ [.directive d])
  | .block start body stop => do
    let inside ← addAll? (code ++ [.start start Instr.unknown]) body
    patch? (inside ++ [.stop stop]) code.length
  | .cached start body stop => do
    let inside ← addAll? (code ++ [.startCached start Instr.unknown]) body
    patch? (inside ++ [.stopCached stop]) code.length

/-- A program with the instructions of some statements behind it. -/
def addAll? (code : List Instr) : List Stmt → Option (List Instr)
  | [] => some code
  | s :: ss => do
    let code ← add? code s
    addAll? code ss

/-- A program that ends with the first branch of a condition, with the second branch behind it. The
branch instruction is given by its number. -/
def addElse? (code : List Instr) (branch : Nat) : Option (List Stmt) → Option (List Instr)
  | none => patch? code branch
  | some elseBody => do
    let taken ← patch? (code ++ [.jump Instr.unknown]) branch
    let both ← addAll? taken elseBody
    patch? both code.length

end

end Program

/-- The instructions of a template. -/
def Template.program? (t : Template) : Option (List Instr) := Program.addAll? [] t.body

end Stencil
