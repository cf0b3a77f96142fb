import Stencil.Proofs.Layout

/-!
# What is open in a program

Before each of its instructions, a program has the same loops and cached blocks open whenever the
machine comes there: they can be read off the statements. An instruction opens one, closes the
innermost one, or leaves them as they are, and jumps only go where the same ones are open.

- `Bracket`: something that is open at a place.
- `Stmt.brackets`, `Template.openAt`: what is open before the instructions of a program.
- `Instr.Fits`: an instruction goes on where what it leaves open is open.
- `Template.fits`: all instructions of a template do.
-/

namespace Stencil

/-- A loop, known by the number of the instruction that begins its rounds, or a cached block. -/
inductive Bracket where
  | loop (round : Nat)
  | cached
deriving DecidableEq

namespace Stmt

mutual

/-- What is open before each instruction of a statement, the innermost first. The first instruction
has the number `start`, and `outer` is open around the statement. -/
def brackets (start : Nat) (outer : List Bracket) : Stmt → List (List Bracket)
  | .raw _ => [outer]
  | .output _ _ => [outer]
  | .include _ _ => [outer]
  | .ifElse _ _ thenBody none => outer :: bracketsAll (start + 1) outer thenBody
  | .ifElse _ _ thenBody (some elseBody) =>
    outer :: (bracketsAll (start + 1) outer thenBody ++
      outer :: bracketsAll (start + 1 + (layoutAll (start + 1) thenBody).length + 1) outer elseBody)
  | .forLoop _ _ body =>
    let inside := .loop (start + 1) :: outer
    outer :: inside :: (bracketsAll (start + 2) inside body ++ [inside])
  | .directive _ => [outer]
  | .block _ body _ => outer :: (bracketsAll (start + 1) outer body ++ [outer])
  | .cached _ body _ =>
    let inside := .cached :: outer
    outer :: (bracketsAll (start + 1) inside body ++ [inside])

/-- `brackets` on some statements. -/
def bracketsAll (start : Nat) (outer : List Bracket) : List Stmt → List (List Bracket)
  | [] => []
  | s :: ss => brackets start outer s ++ bracketsAll (start + (layout start s).length) outer ss

end

mutual

theorem length_brackets (start : Nat) (outer : List Bracket) :
    ∀ s : Stmt, (s.brackets start outer).length = (s.layout start).length
  | .raw _ => rfl
  | .output _ _ => rfl
  | .include _ _ => rfl
  | .ifElse _ _ thenBody none => by
    simp only [brackets, layout, List.length_cons, length_bracketsAll _ _ thenBody]
  | .ifElse _ _ thenBody (some elseBody) => by
    simp only [brackets, layout, List.length_cons, List.length_append,
      length_bracketsAll _ _ thenBody, length_bracketsAll _ _ elseBody]
  | .forLoop _ _ body => by
    simp only [brackets, layout, List.length_cons, List.length_append, List.length_nil,
      length_bracketsAll _ _ body]
  | .directive _ => rfl
  | .block _ body _ => by
    simp only [brackets, layout, List.length_cons, List.length_append, List.length_nil,
      length_bracketsAll _ _ body]
  | .cached _ body _ => by
    simp only [brackets, layout, List.length_cons, List.length_append, List.length_nil,
      length_bracketsAll _ _ body]

theorem length_bracketsAll (start : Nat) (outer : List Bracket) :
    ∀ ss : List Stmt, (bracketsAll start outer ss).length = (layoutAll start ss).length
  | [] => rfl
  | s :: ss => by
    simp only [bracketsAll, layoutAll, List.length_append, length_brackets _ _ s,
      length_bracketsAll _ _ ss]

end

end Stmt

/-! ## Instructions and what is open -/

/-- Given what is open before the instructions of a program with so many of them, an instruction
goes on only where that is open which it leaves open. -/
def Instr.Fits (opens : Nat → List Bracket) (size position : Nat) : Instr → Prop
  | .jump target => target ≤ size ∧ opens target = opens position
  | .branch _ _ target =>
    target ≤ size ∧ opens target = opens position ∧ opens (position + 1) = opens position
  | .loop _ _ => opens (position + 1) = .loop (position + 1) :: opens position
  | .round target =>
    target ≤ size ∧ opens position = .loop position :: opens target ∧
      opens (position + 1) = opens position
  | .start _ target =>
    target ≤ size ∧ opens target = opens position ∧ opens (position + 1) = opens position
  | .startCached _ target =>
    target ≤ size ∧ opens target = opens position ∧
      opens (position + 1) = .cached :: opens position
  | .stopCached _ => opens position = .cached :: opens (position + 1)
  | _ => opens (position + 1) = opens position

/-- All instructions of a part of a program fit, the first of which has the number `start`. -/
def AllFit (opens : Nat → List Bracket) (size start : Nat) (part : List Instr) : Prop :=
  ∀ x ∈ part.zipIdx start, x.1.Fits opens size x.2

/-- What is open before the instructions of a part of a program is as given. -/
def Reads (opens : Nat → List Bracket) (start : Nat) (part : List (List Bracket)) : Prop :=
  ∀ x ∈ part.zipIdx start, opens x.2 = x.1

section

variable {opens : Nat → List Bracket} {size start : Nat} {i : Instr} {code rest : List Instr}
  {b : List Bracket} {part others : List (List Bracket)}

theorem allFit_nil : AllFit opens size start [] := by
  simp [AllFit]

theorem allFit_cons (hi : i.Fits opens size start) (h : AllFit opens size (start + 1) code) :
    AllFit opens size start (i :: code) := by
  rw [AllFit, List.zipIdx_cons, List.forall_mem_cons]
  exact ⟨hi, h⟩

theorem allFit_append (h : AllFit opens size start code)
    (hrest : AllFit opens size (start + code.length) rest) :
    AllFit opens size start (code ++ rest) := by
  rw [AllFit, List.zipIdx_append, List.forall_mem_append]
  exact ⟨h, hrest⟩

theorem reads_cons :
    Reads opens start (b :: part) ↔ opens start = b ∧ Reads opens (start + 1) part := by
  rw [Reads, List.zipIdx_cons, List.forall_mem_cons]
  rfl

theorem reads_append : Reads opens start (part ++ others) ↔
    Reads opens start part ∧ Reads opens (start + part.length) others := by
  rw [Reads, List.zipIdx_append, List.forall_mem_append]
  rfl

end

/-! ## Statements -/

namespace Stmt

variable {opens : Nat → List Bracket} {size : Nat}

/-- What is open before the first instruction of a statement is open around it. -/
theorem head_brackets {start : Nat} {outer : List Bracket} {s : Stmt}
    (h : Reads opens start (s.brackets start outer)) : opens start = outer := by
  cases s with
  | ifElse negated cond thenBody elseBody =>
    cases elseBody with
    | none =>
      rw [brackets] at h
      exact (reads_cons.1 h).1
    | some elseBody =>
      rw [brackets] at h
      exact (reads_cons.1 h).1
  | _ =>
    rw [brackets] at h
    exact (reads_cons.1 h).1

theorem head_bracketsAll {start : Nat} {outer : List Bracket} {ss : List Stmt}
    (h : Reads opens start (bracketsAll start outer ss))
    (behind : opens (start + (layoutAll start ss).length) = outer) : opens start = outer := by
  cases ss with
  | nil => exact behind
  | cons s ss =>
    rw [bracketsAll] at h
    exact head_brackets (reads_append.1 h).1

mutual

/-- The instructions of a statement fit if the same is open behind it as around it. -/
theorem allFit_layout : ∀ (s : Stmt) {start : Nat} {outer : List Bracket},
    Reads opens start (s.brackets start outer) →
    opens (start + (s.layout start).length) = outer →
    start + (s.layout start).length ≤ size → AllFit opens size start (s.layout start)
  | .raw _, start, outer, h, behind, _ =>
    allFit_cons (behind.trans (head_brackets h).symm) allFit_nil
  | .output x span, start, outer, h, behind, _ => by
    have same : opens (start + 1) = opens start := behind.trans (head_brackets h).symm
    refine allFit_cons ?_ allFit_nil
    unfold Instr.output
    split
    · exact same
    · exact same
  | .include _ _, start, outer, h, behind, _ =>
    allFit_cons (behind.trans (head_brackets h).symm) allFit_nil
  | .ifElse negated cond thenBody none, start, outer, h, behind, hs => by
    rw [brackets, reads_cons] at h
    rw [end_layout_if] at behind hs
    rw [layout]
    refine allFit_cons ⟨hs, behind.trans h.1.symm, ?_⟩ (allFit_layoutAll thenBody h.2 behind hs)
    exact (head_bracketsAll h.2 behind).trans h.1.symm
  | .ifElse negated cond thenBody (some elseBody), start, outer, h, behind, hs => by
    rw [brackets, reads_cons, reads_append, length_bracketsAll, reads_cons] at h
    obtain ⟨first, hthen, jump, helse⟩ := h
    rw [end_layout_ifElse] at behind hs
    -- what is open at the start of either branch
    have second := head_bracketsAll helse behind
    have inThen := head_bracketsAll hthen jump
    refine allFit_cons ⟨by omega, second.trans first.symm, inThen.trans first.symm⟩ ?_
    refine allFit_append (allFit_layoutAll thenBody hthen jump (by omega)) ?_
    exact allFit_cons ⟨hs, behind.trans jump.symm⟩ (allFit_layoutAll elseBody helse behind hs)
  | .forLoop vars iterable body, start, outer, h, behind, hs => by
    rw [brackets, reads_cons, reads_cons, reads_append, length_bracketsAll, reads_cons] at h
    obtain ⟨first, test, hbody, back, -⟩ := h
    rw [end_layout_forLoop] at behind hs
    have inside := head_bracketsAll hbody back
    rw [layout]
    refine allFit_cons ?_ (allFit_cons ⟨hs, ?_, inside.trans test.symm⟩ ?_)
    · show opens (start + 1) = _
      rw [test, first]
    · rw [test, behind]
    · have room : start + 2 + (layoutAll (start + 2) body).length ≤ size := by omega
      refine allFit_append (allFit_layoutAll body hbody back room) (allFit_cons ?_ allFit_nil)
      exact ⟨by omega, test.trans back.symm⟩
  | .directive _, start, outer, h, behind, _ =>
    allFit_cons (behind.trans (head_brackets h).symm) allFit_nil
  | .block first body last, start, outer, h, behind, hs => by
    rw [brackets, reads_cons, reads_append, length_bracketsAll, reads_cons] at h
    obtain ⟨before, hbody, last', -⟩ := h
    rw [end_layout_block rfl] at behind hs
    have inside := head_bracketsAll hbody last'
    rw [layout]
    refine allFit_cons ⟨hs, behind.trans before.symm, inside.trans before.symm⟩ ?_
    refine allFit_append (allFit_layoutAll body hbody last' (by omega)) (allFit_cons ?_ allFit_nil)
    exact behind.trans last'.symm
  | .cached first body last, start, outer, h, behind, hs => by
    rw [brackets, reads_cons, reads_append, length_bracketsAll, reads_cons] at h
    obtain ⟨before, hbody, last', -⟩ := h
    rw [end_layout_block rfl] at behind hs
    have inside := head_bracketsAll hbody last'
    rw [layout]
    refine allFit_cons ⟨hs, behind.trans before.symm, ?_⟩ ?_
    · rw [inside, before]
    refine allFit_append (allFit_layoutAll body hbody last' (by omega)) (allFit_cons ?_ allFit_nil)
    show opens _ = _
    rw [last', behind]

theorem allFit_layoutAll : ∀ (ss : List Stmt) {start : Nat} {outer : List Bracket},
    Reads opens start (bracketsAll start outer ss) →
    opens (start + (layoutAll start ss).length) = outer →
    start + (layoutAll start ss).length ≤ size → AllFit opens size start (layoutAll start ss)
  | [], _, _, _, _, _ => allFit_nil
  | s :: ss, start, outer, h, behind, hs => by
    rw [bracketsAll, reads_append, length_brackets] at h
    rw [layoutAll, List.length_append, ← Nat.add_assoc] at behind hs
    rw [layoutAll]
    refine allFit_append (allFit_layout s h.1 (head_bracketsAll h.2 behind) ?_)
      (allFit_layoutAll ss h.2 behind hs)
    omega

end

end Stmt

/-! ## Templates -/

/-- What is open before an instruction of the program of a template, and nothing at its end. -/
def Template.openAt (t : Template) (position : Nat) : List Bracket :=
  (Stmt.bracketsAll 0 [] t.body)[position]?.getD []

/-- Nothing is open at the end of a program. -/
theorem Template.openAt_length (t : Template) :
    t.openAt (Stmt.layoutAll 0 t.body).length = [] := by
  rw [openAt, List.getElem?_eq_none (Nat.le_of_eq (Stmt.length_bracketsAll 0 [] t.body))]
  rfl

theorem Template.reads_openAt (t : Template) :
    Reads t.openAt 0 (Stmt.bracketsAll 0 [] t.body) := by
  rintro ⟨b, i⟩ hx
  have found := List.mem_zipIdx_iff_getElem?.1 hx
  show ((Stmt.bracketsAll 0 [] t.body)[i]?).getD [] = b
  rw [found]
  rfl

/-- Nothing is open at the start of a program. -/
theorem Template.openAt_zero (t : Template) : t.openAt 0 = [] :=
  Stmt.head_bracketsAll t.reads_openAt (by rw [Nat.zero_add, t.openAt_length])

/-- Every instruction of a template goes on only where that is open which it leaves open. -/
theorem Template.fits (t : Template) {code : List Instr} (h : t.program? = some code)
    {position : Nat} {i : Instr} (hi : code[position]? = some i) :
    i.Fits t.openAt code.length position := by
  rw [Program.program?_eq] at h
  cases h
  have all : AllFit t.openAt (Stmt.layoutAll 0 t.body).length 0 (Stmt.layoutAll 0 t.body) :=
    Stmt.allFit_layoutAll t.body t.reads_openAt (by rw [Nat.zero_add, t.openAt_length])
      (Nat.le_of_eq (Nat.zero_add _))
  exact all (i, position) (List.mem_zipIdx_iff_getElem?.2 hi)

end Stencil
