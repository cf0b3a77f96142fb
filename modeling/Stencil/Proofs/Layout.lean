import Stencil.Program

/-!
# The layout of programs

A program is made by adding instructions and by putting in the targets of jumps later on. The
result can be said without any putting in: the instructions of a statement depend on the statement
and on the number of the first of them only.

- `Stmt.layout`, `Stmt.layoutAll`: the instructions of statements from some number on.
- `Stmt.end_layout_ifElse`, …: the number behind the instructions of a statement.
- `Program.addAll?_eq`: what is made is the layout; every jump that is looked for is there.
- `Program.Holds`: some instructions stand in a program from some number on.
-/

namespace Stencil

namespace Stmt

mutual

/-- The instructions of a statement, the first of which has the number `start`. -/
def layout (start : Nat) : Stmt → List Instr
  | .raw span => [.raw span]
  | .output x span => [.output x span]
  | .include name globals => [.include name globals]
  | .ifElse negated cond thenBody none =>
    .branch negated cond (start + 1 + (layoutAll (start + 1) thenBody).length) ::
      layoutAll (start + 1) thenBody
  | .ifElse negated cond thenBody (some elseBody) =>
    let behind := start + 1 + (layoutAll (start + 1) thenBody).length + 1
    .branch negated cond behind ::
      (layoutAll (start + 1) thenBody ++
        .jump (behind + (layoutAll behind elseBody).length) :: layoutAll behind elseBody)
  | .forLoop vars iterable body =>
    .loop vars iterable :: .round (start + 2 + (layoutAll (start + 2) body).length + 1) ::
      (layoutAll (start + 2) body ++ [.jump (start + 1)])
  | .directive d => [.directive d]
  | .block first body last =>
    .start first (start + 1 + (layoutAll (start + 1) body).length + 1) ::
      (layoutAll (start + 1) body ++ [.stop last])
  | .cached first body last =>
    .startCached first (start + 1 + (layoutAll (start + 1) body).length + 1) ::
      (layoutAll (start + 1) body ++ [.stopCached last])

/-- The instructions of some statements, the first of which has the number `start`. -/
def layoutAll (start : Nat) : List Stmt → List Instr
  | [] => []
  | s :: ss => layout start s ++ layoutAll (start + (layout start s).length) ss

end

/-! ## Where layouts end -/

variable (start : Nat) (negated : Bool) (cond : Expr) (body thenBody elseBody : List Stmt)

theorem end_layout_if :
    start + (layout start (.ifElse negated cond thenBody none)).length =
      start + 1 + (layoutAll (start + 1) thenBody).length := by
  simp only [layout, List.length_cons]
  omega

theorem end_layout_ifElse :
    start + (layout start (.ifElse negated cond thenBody (some elseBody))).length =
      start + 1 + (layoutAll (start + 1) thenBody).length + 1 +
        (layoutAll (start + 1 + (layoutAll (start + 1) thenBody).length + 1) elseBody).length := by
  simp only [layout, List.length_cons, List.length_append]
  omega

theorem end_layout_forLoop (vars : LoopVars) (iterable : Expr) :
    start + (layout start (.forLoop vars iterable body)).length =
      start + 2 + (layoutAll (start + 2) body).length + 1 := by
  simp only [layout, List.length_cons, List.length_append, List.length_nil]
  omega

/-- A block has one instruction before its body and one behind it. -/
theorem end_layout_block {start : Nat} {body : List Stmt} {s : Stmt} {first last : Instr}
    (layout_eq : s.layout start = first :: (layoutAll (start + 1) body ++ [last])) :
    start + (s.layout start).length = start + 1 + (layoutAll (start + 1) body).length + 1 := by
  simp only [layout_eq, List.length_cons, List.length_append, List.length_nil]
  omega

end Stmt

namespace Program

/-! ## The program is its layout -/

/-- The target of a jump becomes the end of the program. -/
theorem patch?_append (before after : List Instr) {i j : Instr} {n : Nat}
    (hn : before.length + 1 + after.length = n) (h : i.retarget? n = some j) :
    patch? (before ++ i :: after) before.length = some (before ++ j :: after) := by
  have hi : (before ++ i :: after)[before.length]? = some i := by simp
  have hlen : (before ++ i :: after).length = n := by
    simp only [List.length_append, List.length_cons]
    omega
  simp [patch?, hi, hlen, h]

mutual

/-- A statement adds its layout. -/
theorem add?_eq (code : List Instr) : ∀ s : Stmt,
    add? code s = some (code ++ s.layout code.length)
  | .raw _ => rfl
  | .output _ _ => rfl
  | .include _ _ => rfl
  | .ifElse negated cond thenBody elseBody => by
    rw [add?, addAll?_eq]
    simp only [Option.bind_eq_bind, Option.bind_some, List.length_append, List.append_assoc,
      List.cons_append, List.nil_append]
    rw [addElse?_eq]
    cases elseBody <;> rfl
  | .forLoop vars iterable body => by
    rw [add?, addAll?_eq, Stmt.layout]
    simp only [List.length_append, List.length_cons, List.length_nil, Option.bind_eq_bind,
      Option.bind_some]
    -- the test of a round is put in place last; it goes behind the jump back to it
    have h := patch?_append (code ++ [.loop vars iterable])
      (Stmt.layoutAll (code.length + 2) body ++ [.jump (code.length + 1)])
      (i := .round Instr.unknown) rfl rfl
    simp only [List.append_assoc, List.cons_append, List.nil_append, List.length_append,
      List.length_cons, List.length_nil] at h ⊢
    rw [h]
    rfl
  | .directive _ => rfl
  | .block first body last => by
    rw [add?, addAll?_eq, Stmt.layout]
    simp only [List.length_append, List.length_cons, List.length_nil, Option.bind_eq_bind,
      Option.bind_some, List.append_assoc, List.cons_append, List.nil_append]
    exact patch?_append _ _ (by rw [List.length_append]; rfl) rfl
  | .cached first body last => by
    rw [add?, addAll?_eq, Stmt.layout]
    simp only [List.length_append, List.length_cons, List.length_nil, Option.bind_eq_bind,
      Option.bind_some, List.append_assoc, List.cons_append, List.nil_append]
    exact patch?_append _ _ (by rw [List.length_append]; rfl) rfl

/-- Statements add their layouts. -/
theorem addAll?_eq (code : List Instr) : ∀ ss : List Stmt,
    addAll? code ss = some (code ++ Stmt.layoutAll code.length ss)
  | [] => by simp [addAll?, Stmt.layoutAll]
  | s :: ss => by
    rw [addAll?, add?_eq code s]
    simp only [Option.bind_eq_bind, Option.bind_some]
    rw [addAll?_eq, Stmt.layoutAll, List.length_append, List.append_assoc]

/-- The end of a condition adds what is behind its first branch, whose instructions are given. -/
theorem addElse?_eq (code taken : List Instr) (negated : Bool) (cond : Expr) :
    ∀ elseBody : Option (List Stmt),
      addElse? (code ++ Instr.branch negated cond Instr.unknown :: taken) code.length elseBody =
        match elseBody with
        | none => some (code ++ Instr.branch negated cond (code.length + 1 + taken.length) :: taken)
        | some ss =>
          let behind := code.length + 1 + taken.length + 1
          some (code ++ Instr.branch negated cond behind ::
            (taken ++ Instr.jump (behind + (Stmt.layoutAll behind ss).length) ::
              Stmt.layoutAll behind ss))
  | none => patch?_append _ _ rfl rfl
  | some ss => by
    let behind := code.length + 1 + taken.length + 1
    let before := code ++ Instr.branch negated cond behind :: taken
    have hbefore : before.length + 1 = behind := by
      simp only [before, behind, List.length_append, List.length_cons]
      omega
    -- the branch goes behind the jump over the second branch, that jump behind the second branch
    have first : patch? (code ++ Instr.branch negated cond Instr.unknown :: taken ++
        [Instr.jump Instr.unknown]) code.length = some (before ++ [Instr.jump Instr.unknown]) := by
      simp only [before, List.append_assoc, List.cons_append]
      exact patch?_append _ _ (by rw [List.length_append]; rfl) rfl
    have second : patch? (before ++ [Instr.jump Instr.unknown] ++ Stmt.layoutAll behind ss)
        before.length = some (before ++ Instr.jump (behind + (Stmt.layoutAll behind ss).length) ::
          Stmt.layoutAll behind ss) := by
      rw [List.append_assoc]
      exact patch?_append _ _ (by rw [hbefore]; rfl) rfl
    have hlen : (code ++ Instr.branch negated cond Instr.unknown :: taken).length =
        before.length := by
      simp only [before, List.length_append, List.length_cons]
    rw [addElse?, first]
    simp only [Option.bind_eq_bind, Option.bind_some]
    rw [addAll?_eq, Option.bind_some, List.length_append, List.length_singleton, hbefore, hlen,
      second]
    simp only [before, behind, List.append_assoc, List.cons_append]

end

/-- The program of a template is the layout of its statements. -/
theorem program?_eq (t : Template) : t.program? = some (Stmt.layoutAll 0 t.body) :=
  addAll?_eq [] t.body

/-! ## Instructions in programs -/

/-- Some instructions stand in a program, the first of them under the number `start`. -/
def Holds (code : List Instr) (start : Nat) (part : List Instr) : Prop :=
  part <+: code.drop start

variable {code part rest : List Instr} {start : Nat} {i : Instr}

theorem Holds.head (h : Holds code start (i :: part)) : code[start]? = some i := by
  obtain ⟨tail, h⟩ := h
  have : (code.drop start)[0]? = some i := by rw [← h]; rfl
  simpa using this

theorem Holds.left (h : Holds code start (part ++ rest)) : Holds code start part :=
  (List.prefix_append part rest).trans h

theorem Holds.right (h : Holds code start (part ++ rest)) :
    Holds code (start + part.length) rest := by
  obtain ⟨tail, h⟩ := h
  refine ⟨tail, ?_⟩
  rw [← List.drop_drop, ← h, List.append_assoc, List.drop_left]

theorem Holds.tail (h : Holds code start (i :: part)) : Holds code (start + 1) part := by
  have split : Holds code start ([i] ++ part) := h
  exact split.right

end Program

end Stencil
