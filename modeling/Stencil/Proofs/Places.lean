import Stencil.Proofs.Layout

/-!
# Places in templates

Where the errors of a statement may be located. The instructions of a statement have no other places
than the statement.

- `Expr.places`, `Stmt.places`, `Template.places`: the places of expressions, statements and
  templates.
- `Instr.places`: those of an instruction.
- `Stmt.places_of_layout`, `Stmt.places_of_layoutAll`: they are among those of the statements.
-/

namespace Stencil

namespace Expr

mutual

/-- Where an error in an expression may be located, apart from the place of the whole. -/
def places : Expr → List Span
  | .variable first path => first.span :: path.map fun m => m.access.span
  | .literal _ _ => []
  | .list items _ => placesAll items
  | .map entries _ => placesEntries entries
  | .filter receiver name args _ => name.span :: (places receiver ++ placesAll args)

/-- Where an error in some expressions may be located. -/
def placesAll : List Expr → List Span
  | [] => []
  | x :: xs => places x ++ placesAll xs

/-- Where an error in the entries of a map may be located. -/
def placesEntries : List (String × Expr) → List Span
  | [] => []
  | (_, x) :: es => places x ++ placesEntries es

end

end Expr

/-- Where an error in the arguments of a directive may be located. -/
def DirectiveArgs.places : DirectiveArgs → List Span
  | .none => []
  | .call values => Expr.placesAll values
  | .assign bindings => Expr.placesAll (bindings.map Prod.snd)

/-- Where an error of a directive may be located. -/
def Invocation.places (i : Invocation) : List Span := i.span :: i.args.places

/-- Where it is reported that a loop has too many or too few variables. -/
def LoopVars.place : LoopVars → Span
  | .item name => name.span
  | .entry _ _ span => span

/-- Where an error of a template in place may be located. -/
def Ident.includePlaces (name : Ident) : Option Expr → List Span
  | none => [name.span]
  | some x => name.span :: x.places

namespace Stmt

mutual

/-- Where an error of a statement may be located. -/
def places : Stmt → List Span
  | .raw _ => []
  | .output x span => span :: x.span :: x.places
  | .include name globals => name.includePlaces globals
  | .ifElse _ cond thenBody elseBody =>
    cond.span :: (cond.places ++ (placesAll thenBody ++ placesElse elseBody))
  | .forLoop vars iterable body =>
    vars.place :: iterable.span :: (iterable.places ++ placesAll body)
  | .directive d => d.places
  | .block start body stop => start.places ++ (stop.places ++ placesAll body)
  | .cached start body stop => start.places ++ (stop.places ++ placesAll body)

/-- Where an error of some statements may be located. -/
def placesAll : List Stmt → List Span
  | [] => []
  | s :: ss => places s ++ placesAll ss

/-- Where an error of a second branch may be located. -/
def placesElse : Option (List Stmt) → List Span
  | none => []
  | some ss => placesAll ss

end

end Stmt

/-- Where an error of a template may be located. -/
def Template.places (t : Template) : List Span := Stmt.placesAll t.body

/-- Where an error of an instruction may be located. -/
def Instr.places : Instr → List Span
  | .raw _ => []
  | .print x => x.span :: x.places
  | .pipe receiver name span => span :: name.span :: receiver.places
  | .include name globals => name.includePlaces globals
  | .jump _ => []
  | .branch _ cond _ => cond.span :: cond.places
  | .loop vars iterable => vars.place :: iterable.span :: iterable.places
  | .round _ => []
  | .directive d => d.places
  | .start d _ => d.places
  | .stop d => d.places
  | .startCached i _ => i.places
  | .stopCached i => i.places

/-- The places of the instruction for an output are among those of the output. -/
theorem Instr.places_output (x : Expr) (span : Span) :
    (Instr.output x span).places ⊆ span :: x.span :: x.places := by
  unfold Instr.output
  split
  · next receiver name whole =>
    rw [Instr.places, Expr.places, Expr.placesAll, List.append_nil]
    intro p hp
    simp only [List.mem_cons] at hp ⊢
    rcases hp with h | h | h
    · exact .inl h
    · exact .inr (.inr (.inl h))
    · exact .inr (.inr (.inr h))
  · exact List.subset_cons_self _ _

namespace Stmt

mutual

/-- The places of the instructions of a statement are among those of the statement. -/
theorem places_of_layout : ∀ (s : Stmt) {start : Nat} {i : Instr},
    i ∈ s.layout start → i.places ⊆ s.places
  | .raw _, _, _, hi => by
    cases List.mem_singleton.1 hi
    exact List.nil_subset _
  | .output x span, _, _, hi => by
    cases List.mem_singleton.1 hi
    exact Instr.places_output x span
  | .include _ _, _, _, hi => by
    cases List.mem_singleton.1 hi
    exact List.Subset.refl _
  | .ifElse negated cond thenBody none, start, i, hi => by
    rw [places, placesElse, List.append_nil]
    rcases List.mem_cons.1 hi with rfl | hi
    · exact List.cons_subset_cons _ (List.subset_append_left _ _)
    · exact List.subset_cons_of_subset _
        (List.subset_append_of_subset_right _ (places_of_layoutAll thenBody hi))
  | .ifElse _ _ thenBody (some elseBody), start, i, hi => by
    rw [places, placesElse]
    rcases List.mem_cons.1 hi with rfl | hi
    · exact List.cons_subset_cons _ (List.subset_append_left _ _)
    refine List.subset_cons_of_subset _ (List.subset_append_of_subset_right _ ?_)
    rcases List.mem_append.1 hi with hi | hi
    · exact List.subset_append_of_subset_left _ (places_of_layoutAll thenBody hi)
    rcases List.mem_cons.1 hi with rfl | hi
    · exact List.nil_subset _
    · exact List.subset_append_of_subset_right _ (places_of_layoutAll elseBody hi)
  | .forLoop _ _ body, start, i, hi => by
    rw [places]
    rcases List.mem_cons.1 hi with rfl | hi
    · exact List.cons_subset_cons _ (List.cons_subset_cons _ (List.subset_append_left _ _))
    rcases List.mem_cons.1 hi with rfl | hi
    · exact List.nil_subset _
    rcases List.mem_append.1 hi with hi | hi
    · exact List.subset_cons_of_subset _ (List.subset_cons_of_subset _
        (List.subset_append_of_subset_right _ (places_of_layoutAll body hi)))
    · cases List.mem_singleton.1 hi
      exact List.nil_subset _
  | .directive _, _, _, hi => by
    cases List.mem_singleton.1 hi
    exact List.Subset.refl _
  | .block first body last, start, i, hi => by
    rw [places]
    rcases List.mem_cons.1 hi with rfl | hi
    · exact List.subset_append_left _ _
    refine List.subset_append_of_subset_right _ ?_
    rcases List.mem_append.1 hi with hi | hi
    · exact List.subset_append_of_subset_right _ (places_of_layoutAll body hi)
    · cases List.mem_singleton.1 hi
      exact List.subset_append_left _ _
  | .cached first body last, start, i, hi => by
    rw [places]
    rcases List.mem_cons.1 hi with rfl | hi
    · exact List.subset_append_left _ _
    refine List.subset_append_of_subset_right _ ?_
    rcases List.mem_append.1 hi with hi | hi
    · exact List.subset_append_of_subset_right _ (places_of_layoutAll body hi)
    · cases List.mem_singleton.1 hi
      exact List.subset_append_left _ _

/-- The places of the instructions of some statements are among those of the statements. -/
theorem places_of_layoutAll : ∀ (ss : List Stmt) {start : Nat} {i : Instr},
    i ∈ layoutAll start ss → i.places ⊆ placesAll ss
  | [], _, _, hi => by cases hi
  | s :: ss, start, i, hi => by
    rw [placesAll]
    rcases List.mem_append.1 hi with hi | hi
    · exact List.subset_append_of_subset_left _ (places_of_layout s hi)
    · exact List.subset_append_of_subset_right _ (places_of_layoutAll ss hi)

end

end Stmt

end Stencil
