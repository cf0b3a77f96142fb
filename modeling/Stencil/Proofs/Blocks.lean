import Stencil.Proofs.Layout

/-!
# Blocks in programs

The start and the end of a block are instructions of their own. Which blocks are open before an
instruction can be found by reading a program from its start, and all instructions keep to them: no
jump leads into a block or out of one, but the start of a block may go behind its end.

- `Program.scan`, `Program.around`: the blocks around an instruction.
- `Program.Spans`: a block reaches from one instruction to another.
- `Program.Nests`: an instruction keeps to the blocks of its program.
- `Stmt.scan_layout`: all blocks that begin in a statement end there.
- `Stmt.allNest_layout`, `Program.nests_of_getElem?`: the instructions of statements and programs
  keep to the blocks.
-/

namespace Stencil

open Program

/-- The statement has a start and an end, which are instructions of their own. -/
def Stmt.isBlock : Stmt → Bool
  | .block _ _ _ => true
  | .cached _ _ _ => true
  | _ => false

namespace Instr

/-- The start of a block. -/
def isStart : Instr → Bool
  | .start _ _ => true
  | .startCached _ _ => true
  | _ => false

/-- The end of a block. -/
def isStop : Instr → Bool
  | .stop _ => true
  | .stopCached _ => true
  | _ => false

/-- Where an instruction may jump to. -/
def target? : Instr → Option Nat
  | .jump target => some target
  | .branch _ _ target => some target
  | .round target => some target
  | .start _ target => some target
  | .startCached _ target => some target
  | _ => none

/-- The numbers of the starts of the blocks that are open behind an instruction, given those that
are open before it. The innermost comes first. -/
def turn (number : Nat) (opened : List Nat) (i : Instr) : List Nat :=
  if i.isStart then number :: opened else if i.isStop then opened.tail else opened

theorem isStop_of_target? {target : Nat} {i : Instr} (h : i.target? = some target) :
    i.isStop = false := by
  cases i with
  | stop d => cases h
  | stopCached i => cases h
  | _ => rfl

theorem isStop_of_isStart {i : Instr} (h : i.isStart) : i.isStop = false := by
  cases i with
  | stop d => cases h
  | stopCached i => cases h
  | _ => rfl

end Instr

namespace Program

/-- The numbers of the starts of the blocks that are open behind some instructions. -/
def scan : Nat → List Nat → List Instr → List Nat
  | _, opened, [] => opened
  | number, opened, i :: code => scan (number + 1) (i.turn number opened) code

/-- The numbers of the starts of the blocks around an instruction. -/
def around (code : List Instr) (position : Nat) : List Nat := scan 0 [] (code.take position)

/-- A block reaches from one instruction of a program to another. -/
def Spans (code : List Instr) (first last : Nat) : Prop :=
  ∃ s : Stmt, s.isBlock ∧ Holds code first (s.layout first) ∧
    last + 1 = first + (s.layout first).length

/-- An instruction keeps to the blocks of its program: it jumps only to where the same blocks are
open, a start goes behind its block if it jumps, and an end belongs to the innermost block. -/
structure Nests (code : List Instr) (position : Nat) (i : Instr) : Prop where
  jump : ∀ target, i.target? = some target → around code target = around code position
  start : i.isStart → ∃ last, Spans code position last ∧ i.target? = some (last + 1)
  stop : i.isStop → ∃ first, Spans code first position ∧
    around code position = first :: around code (position + 1)

/-- All instructions of a part of a program keep to its blocks, the first of which has the number
`start`. -/
def AllNest (code : List Instr) (start : Nat) (part : List Instr) : Prop :=
  ∀ x ∈ part.zipIdx start, Nests code x.2 x.1

section

variable {code part rest : List Instr} {start number : Nat} {opened : List Nat} {i : Instr}

theorem scan_append (v w : List Instr) :
    scan number opened (v ++ w) = scan (number + v.length) (scan number opened v) w := by
  induction v generalizing number opened with
  | nil => rfl
  | cons i v ih =>
    rw [List.cons_append, scan, scan, ih, List.length_cons, Nat.add_assoc, Nat.add_comm 1]

/-- What is open behind a part of a program follows from what is open before it. -/
theorem around_of_holds (h : Holds code start part) :
    around code (start + part.length) = scan start (around code start) part := by
  obtain ⟨tail, h⟩ := h
  cases part with
  | nil => rfl
  | cons i part =>
    have inside : start ≤ code.length := by
      refine Nat.le_of_not_lt fun beyond => ?_
      rw [List.drop_eq_nil_of_le (Nat.le_of_lt beyond)] at h
      cases h
    rw [around, List.take_add, ← h, List.take_left, scan_append, List.length_take,
      Nat.min_eq_left inside, Nat.zero_add]
    rfl

theorem around_succ (h : code[start]? = some i) :
    around code (start + 1) = i.turn start (around code start) := by
  have holds : Holds code start [i] := by
    refine ⟨code.drop (start + 1), ?_⟩
    obtain ⟨inside, rfl⟩ := List.getElem?_eq_some_iff.1 h
    exact (List.drop_eq_getElem_cons inside).symm
  exact around_of_holds holds

theorem allNest_nil : AllNest code start [] := by
  simp [AllNest]

theorem allNest_cons (hi : Nests code start i) (h : AllNest code (start + 1) part) :
    AllNest code start (i :: part) := by
  rw [AllNest, List.zipIdx_cons, List.forall_mem_cons]
  exact ⟨hi, h⟩

theorem allNest_append (h : AllNest code start part)
    (hrest : AllNest code (start + part.length) rest) : AllNest code start (part ++ rest) := by
  rw [AllNest, List.zipIdx_append, List.forall_mem_append]
  exact ⟨h, hrest⟩

/-- An instruction that neither jumps nor is a marker keeps to the blocks. -/
theorem nests_of_plain (target : i.target? = none) (first : i.isStart = false)
    (last : i.isStop = false) : Nests code start i := by
  refine ⟨?_, ?_, ?_⟩
  · intro target' h
    rw [target] at h
    cases h
  · intro h
    rw [first] at h
    cases h
  · intro h
    rw [last] at h
    cases h

/-- A jump keeps to the blocks if it goes to where the same ones are open. -/
theorem nests_of_jump {target : Nat} (jumps : i.target? = some target) (first : i.isStart = false)
    (last : i.isStop = false) (same : around code target = around code start) :
    Nests code start i := by
  refine ⟨?_, ?_, ?_⟩
  · intro target' h
    rw [jumps] at h
    cases h
    exact same
  · intro h
    rw [first] at h
    cases h
  · intro h
    rw [last] at h
    cases h

end

end Program

namespace Stmt

mutual

/-- All blocks that begin in a statement end there. -/
theorem scan_layout (start : Nat) (opened : List Nat) :
    ∀ s : Stmt, scan start opened (s.layout start) = opened
  | .raw _ => rfl
  | .output x span => by
    rw [layout]
    unfold Instr.output
    split
    · rfl
    · rfl
  | .include _ _ => rfl
  | .ifElse negated cond thenBody none => by
    rw [layout, scan]
    exact scan_layoutAll (start + 1) opened thenBody
  | .ifElse negated cond thenBody (some elseBody) => by
    rw [layout, scan, scan_append]
    show scan _ (scan (start + 1) opened _) _ = _
    rw [scan_layoutAll, scan]
    exact scan_layoutAll _ opened elseBody
  | .forLoop vars iterable body => by
    rw [layout, scan, scan, scan_append]
    show scan _ (scan (start + 2) opened _) _ = _
    rw [scan_layoutAll]
    rfl
  | .directive _ => rfl
  | .block first body last => by
    rw [layout, scan, scan_append]
    show scan _ (scan (start + 1) (start :: opened) _) _ = _
    rw [scan_layoutAll]
    rfl
  | .cached first body last => by
    rw [layout, scan, scan_append]
    show scan _ (scan (start + 1) (start :: opened) _) _ = _
    rw [scan_layoutAll]
    rfl

theorem scan_layoutAll (start : Nat) (opened : List Nat) :
    ∀ ss : List Stmt, scan start opened (layoutAll start ss) = opened
  | [] => rfl
  | s :: ss => by
    rw [layoutAll, scan_append, scan_layout start opened s]
    exact scan_layoutAll _ opened ss

end

variable {code : List Instr}

/-- The same blocks are open before and behind a statement. -/
theorem around_layout {s : Stmt} {start : Nat} (h : Holds code start (s.layout start)) :
    around code (start + (s.layout start).length) = around code start := by
  rw [around_of_holds h, scan_layout]

theorem around_layoutAll {ss : List Stmt} {start : Nat}
    (h : Holds code start (layoutAll start ss)) :
    around code (start + (layoutAll start ss).length) = around code start := by
  rw [around_of_holds h, scan_layoutAll]

/-- The markers of a block keep to the blocks if its body does. -/
theorem allNest_block {s : Stmt} {start : Nat} {first last : Instr} {body : List Stmt}
    (block : s.isBlock)
    (layout_eq : s.layout start = first :: (layoutAll (start + 1) body ++ [last]))
    (starts : first.isStart) (unended : first.isStop = false)
    (jumps : first.target? = some (start + 1 + (layoutAll (start + 1) body).length + 1))
    (unstarted : last.isStart = false) (stays : last.target? = none)
    (h : Holds code start (s.layout start))
    (inside : AllNest code (start + 1) (layoutAll (start + 1) body)) :
    AllNest code start (s.layout start) := by
  have size_eq := end_layout_block layout_eq
  have spans : Spans code start (start + 1 + (layoutAll (start + 1) body).length) :=
    ⟨s, block, h, size_eq.symm⟩
  have behind := around_layout h
  rw [size_eq] at behind
  rw [layout_eq] at h ⊢
  -- the block is open in its body and before its end
  have entered : around code (start + 1) = start :: around code start := by
    rw [around_succ h.head, Instr.turn, if_pos starts]
  have ending := (around_layoutAll h.tail.left).trans entered
  refine allNest_cons ⟨?_, fun _ => ⟨_, spans, jumps⟩, ?_⟩ ?_
  · intro target jumps'
    cases jumps.symm.trans jumps'
    exact behind
  · intro stops'
    rw [unended] at stops'
    cases stops'
  refine allNest_append inside (allNest_cons ⟨?_, ?_, fun _ => ⟨start, spans, ?_⟩⟩ allNest_nil)
  · intro target jumps'
    cases stays.symm.trans jumps'
  · intro starts'
    rw [unstarted] at starts'
    cases starts'
  · rw [ending, behind]

mutual

/-- The instructions of a statement keep to the blocks. -/
theorem allNest_layout : ∀ (s : Stmt) {start : Nat}, Holds code start (s.layout start) →
    AllNest code start (s.layout start)
  | .raw _, _, _ => allNest_cons (nests_of_plain rfl rfl rfl) allNest_nil
  | .output x span, _, _ => by
    refine allNest_cons ?_ allNest_nil
    unfold Instr.output
    split
    · exact nests_of_plain rfl rfl rfl
    · exact nests_of_plain rfl rfl rfl
  | .include _ _, _, _ => allNest_cons (nests_of_plain rfl rfl rfl) allNest_nil
  | .ifElse negated cond thenBody none, start, h => by
    have behind := around_layout h
    rw [end_layout_if] at behind
    rw [layout] at h ⊢
    exact allNest_cons (nests_of_jump rfl rfl rfl behind) (allNest_layoutAll thenBody h.tail)
  | .ifElse negated cond thenBody (some elseBody), start, h => by
    have behind := around_layout h
    rw [end_layout_ifElse] at behind
    rw [layout] at h ⊢
    -- the second branch begins where the same blocks are open as behind it
    have second := around_layoutAll h.tail.right.tail
    have first := around_layoutAll h.tail.left
    have entered : around code (start + 1) = around code start := around_succ h.head
    refine allNest_cons (nests_of_jump rfl rfl rfl (second.symm.trans behind)) ?_
    refine allNest_append (allNest_layoutAll thenBody h.tail.left) (allNest_cons ?_ ?_)
    · refine nests_of_jump rfl rfl rfl ?_
      rw [behind, first, entered]
    · exact allNest_layoutAll elseBody h.tail.right.tail
  | .forLoop vars iterable body, start, h => by
    have behind := around_layout h
    rw [end_layout_forLoop] at behind
    rw [layout] at h ⊢
    have inside : around code (start + 1) = around code start := around_succ h.head
    have round : around code (start + 2) = around code (start + 1) := around_succ h.tail.head
    have back := around_layoutAll h.tail.tail.left
    refine allNest_cons (nests_of_plain rfl rfl rfl) (allNest_cons ?_ ?_)
    · exact nests_of_jump rfl rfl rfl (behind.trans inside.symm)
    · refine allNest_append (allNest_layoutAll body h.tail.tail.left) (allNest_cons ?_ allNest_nil)
      exact nests_of_jump rfl rfl rfl (round.symm.trans back.symm)
  | .directive _, _, _ => allNest_cons (nests_of_plain rfl rfl rfl) allNest_nil
  | .block first body last, start, h =>
    allNest_block rfl rfl rfl rfl rfl rfl rfl h (allNest_layoutAll body h.tail.left)
  | .cached first body last, start, h =>
    allNest_block rfl rfl rfl rfl rfl rfl rfl h (allNest_layoutAll body h.tail.left)

theorem allNest_layoutAll : ∀ (ss : List Stmt) {start : Nat},
    Holds code start (layoutAll start ss) → AllNest code start (layoutAll start ss)
  | [], _, _ => allNest_nil
  | s :: ss, start, h => by
    rw [layoutAll] at h ⊢
    exact allNest_append (allNest_layout s h.left) (allNest_layoutAll ss h.right)

end

end Stmt

namespace Program

/-- The instructions of a template keep to its blocks. -/
theorem nests_of_getElem? {t : Template} {code : List Instr} (program : t.program? = some code)
    {position : Nat} {i : Instr} (h : code[position]? = some i) : Nests code position i := by
  have all : AllNest code 0 code := by
    rw [program?_eq] at program
    rw [← Option.some.inj program]
    exact Stmt.allNest_layoutAll t.body List.prefix_rfl
  exact all (i, position) (List.mem_zipIdx_iff_getElem?.2 h)

/-- No block is open at the end of a template. -/
theorem around_of_length_le {t : Template} {code : List Instr} (program : t.program? = some code)
    {position : Nat} (h : code.length ≤ position) : around code position = [] := by
  rw [program?_eq] at program
  rw [around, List.take_of_length_le h, ← Option.some.inj program]
  exact Stmt.scan_layoutAll 0 [] t.body

end Program

end Stencil
