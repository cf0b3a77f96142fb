import Stencil.Proofs.ParserSteps
import Stencil.Proofs.TokenOrder

/-!
# The places of cached blocks

The cached blocks of a template start at different places: each one further in the source than the
one before it.

- `Origin.Before`: the order of places.
- `Template.markers`: the starts of the cached blocks of a template.
- `Placed`: starts in order up to an offset; the builder keeps its starts so.
- `Template.markers_before`: the starts in a template are in order.
-/

namespace Stencil

/-! ## Places -/

namespace Origin

/-- A line and a column before others: in an earlier line, or in the same line further to the
left. -/
def Earlier (p q : Nat × Nat) : Prop := p.1 < q.1 ∨ p.1 = q.1 ∧ p.2 < q.2

/-- The place is in an earlier line, or in the same line further to the left. -/
def Before (o p : Origin) : Prop := Earlier (o.line, o.column) (p.line, p.column)

theorem not_earlier_self {p : Nat × Nat} : ¬Earlier p p := by
  unfold Earlier
  omega

theorem Before.ne {o p : Origin} (h : o.Before p) : o ≠ p := by
  rintro rfl
  exact not_earlier_self h

/-- Lines and columns grow with every character. -/
theorem locate_concat (cs : List Char) (c : Char) :
    Earlier (locate cs) (locate (cs ++ [c])) := by
  have step : locate (cs ++ [c]) =
      if c = '\n' then ((locate cs).1 + 1, 1) else ((locate cs).1, (locate cs).2 + 1) := by
    unfold locate
    rw [List.foldl_append]
    rfl
  rw [step]
  split
  · exact .inl (Nat.lt_succ_self _)
  · exact .inr ⟨rfl, Nat.lt_succ_self _⟩

theorem locate_append (cs : List Char) {ds : List Char} (h : ds ≠ []) :
    Earlier (locate cs) (locate (cs ++ ds)) := by
  induction ds generalizing cs with
  | nil => exact absurd rfl h
  | cons d ds ih =>
    have first := locate_concat cs d
    rcases ds with - | ⟨e, ds⟩
    · exact first
    · have others := ih (cs ++ [d]) (List.cons_ne_nil e ds)
      rw [List.append_assoc, List.singleton_append] at others
      unfold Earlier at *
      omega

/-- A place further in the source comes later. -/
theorem before_of_at? {identity source : String} {i j : Nat} {o p : Origin}
    (ho : at? identity source i = some o) (hp : at? identity source j = some p) (lt : i < j) :
    o.Before p := by
  obtain ⟨before, taken, rfl⟩ := Option.map_eq_some_iff.1 ho
  obtain ⟨before', taken', rfl⟩ := Option.map_eq_some_iff.1 hp
  obtain ⟨rfl, rest, eq⟩ := Text.eq_append_of_takeBytes taken
  obtain ⟨rfl, rest', eq'⟩ := Text.eq_append_of_takeBytes taken'
  -- both texts begin the source, so one of them begins the other
  rcases List.append_eq_append_iff.1 (eq.symm.trans eq') with ⟨between, rfl, -⟩ | ⟨between, rfl, -⟩
  · refine locate_append before ?_
    rintro rfl
    simp at lt
  · rw [Text.byteLength_append] at lt
    omega

end Origin

/-! ## Cached blocks -/

namespace Stmt

mutual

/-- The starts of the cached blocks in a statement, in the order of the source. -/
def markers : Stmt → List Invocation
  | .raw _ => []
  | .output _ _ => []
  | .include _ _ => []
  | .ifElse _ _ thenBody elseBody => markersAll thenBody ++ markersElse elseBody
  | .forLoop _ _ body => markersAll body
  | .directive _ => []
  | .block _ body _ => markersAll body
  | .cached start body _ => start :: markersAll body

/-- The starts of the cached blocks in some statements. -/
def markersAll : List Stmt → List Invocation
  | [] => []
  | s :: ss => markers s ++ markersAll ss

/-- The starts of the cached blocks in a second branch. -/
def markersElse : Option (List Stmt) → List Invocation
  | none => []
  | some elseBody => markersAll elseBody

end

@[simp] theorem markersAll_nil : markersAll [] = [] := rfl

@[simp] theorem markersAll_cons (s : Stmt) (ss : List Stmt) :
    markersAll (s :: ss) = s.markers ++ markersAll ss := rfl

@[simp] theorem markersAll_append (ss ss' : List Stmt) :
    markersAll (ss ++ ss') = markersAll ss ++ markersAll ss' := by
  induction ss with
  | nil => rfl
  | cons s ss ih => rw [List.cons_append, markersAll_cons, ih, markersAll_cons, List.append_assoc]

end Stmt

/-- The starts of the cached blocks of a template, in the order of the source. -/
def Template.markers (t : Template) : List Invocation := Stmt.markersAll t.body

/-- The starts of the cached blocks before the statements inside an open block. -/
def OpenBlock.markers : OpenBlock → List Invocation
  | .thenBranch _ _ before => Stmt.markersAll before.reverse
  | .elseBranch _ _ thenBody before =>
    Stmt.markersAll before.reverse ++ Stmt.markersAll thenBody
  | .loop _ _ _ before => Stmt.markersAll before.reverse
  | .paired _ _ before => Stmt.markersAll before.reverse
  | .cached start before => Stmt.markersAll before.reverse ++ [start]

namespace Builder

/-- The starts of the cached blocks around some open blocks, the innermost first. -/
def outer (blocks : List OpenBlock) : List Invocation := blocks.reverse.flatMap OpenBlock.markers

/-- The starts of the cached blocks read so far. -/
def markers (b : Builder) : List Invocation := outer b.blocks ++ Stmt.markersAll b.current.reverse

theorem outer_cons (block : OpenBlock) (blocks : List OpenBlock) :
    outer (block :: blocks) = outer blocks ++ block.markers := by
  simp [outer]

theorem markers_add (b : Builder) (s : Stmt) : (b.add s).markers = b.markers ++ s.markers := by
  simp [markers, add]

theorem markers_openIf (b : Builder) (clause : Clause) : (b.openIf clause).markers = b.markers := by
  simp [markers, openIf, outer_cons, OpenBlock.markers]

theorem markers_openFor (b : Builder) (vars : LoopVars) (iterable : Expr) (span : Span) :
    (b.openFor vars iterable span).markers = b.markers := by
  simp [markers, openFor, outer_cons, OpenBlock.markers]

theorem markers_addElse {b b' : Builder} (h : b.addElse = some b') :
    b'.markers = b.markers ∧ b'.current = [] := by
  unfold addElse at h
  split at h
  · next clause nested before rest blocks =>
    cases h
    simp [markers, blocks, outer_cons, OpenBlock.markers]
  · cases h

theorem markers_addElseIf {b b' : Builder} {clause : Clause} (h : b.addElseIf clause = some b') :
    b'.markers = b.markers := by
  obtain ⟨b₁, added, rfl⟩ := Option.map_eq_some_iff.1 h
  obtain ⟨same, nothing⟩ := markers_addElse added
  rw [← same]
  simp [markers, nothing, outer_cons, OpenBlock.markers]

/-- Closing a condition and the conditions around it keeps their starts in order. -/
theorem markers_closeClauses {current : List Stmt} {blocks : List OpenBlock} {b : Builder}
    (h : closeClauses current blocks = some b) :
    b.markers = outer blocks ++ Stmt.markersAll current.reverse := by
  -- on the open blocks; a condition in the second branch of another one is closed with it
  induction blocks generalizing current with
  | nil => cases h
  | cons block rest ih =>
    cases block with
    | thenBranch clause nested before =>
      rw [closeClauses] at h
      cases nested with
      | true =>
        rw [ih h]
        simp [outer_cons, OpenBlock.markers, Stmt.markers, Stmt.markersElse]
      | false =>
        cases h
        simp [markers, outer_cons, OpenBlock.markers, Stmt.markers, Stmt.markersElse]
    | elseBranch clause nested thenBody before =>
      rw [closeClauses] at h
      cases nested with
      | true =>
        rw [ih h]
        simp [outer_cons, OpenBlock.markers, Stmt.markers, Stmt.markersElse]
      | false =>
        cases h
        simp [markers, outer_cons, OpenBlock.markers, Stmt.markers, Stmt.markersElse]
    | loop vars iterable span before => cases h
    | paired start stop before => cases h
    | cached start before => cases h

theorem markers_closeIf {b b' : Builder} (h : b.closeIf = some b') : b'.markers = b.markers :=
  markers_closeClauses h

theorem markers_closeFor {b b' : Builder} (h : b.closeFor = some b') : b'.markers = b.markers := by
  unfold closeFor at h
  split at h
  · next vars iterable span before rest blocks =>
    cases h
    simp [markers, blocks, outer_cons, OpenBlock.markers, Stmt.markers]
  · cases h

end Builder

namespace Parse

variable {r : Reader} {s : Surroundings} {b b' : Builder} {name : Ident} {raw span : Span}

/-- A block tag that is no directive starts no cached block. -/
theorem markers_applyTag {tag : BlockTag} (h : applyTag s b span tag = .ok b') :
    b'.markers = b.markers := by
  cases tag with
  | ifTag negated cond =>
    cases h
    exact b.markers_openIf _
  | elseTag => exact (Builder.markers_addElse (placed_eq_ok h)).1
  | elseIfTag negated cond => exact Builder.markers_addElseIf (placed_eq_ok h)
  | endifTag => exact Builder.markers_closeIf (placed_eq_ok h)
  | forTag vars iterable =>
    cases h
    exact b.markers_openFor vars iterable span
  | endforTag => exact Builder.markers_closeFor (placed_eq_ok h)
  | includeTag name globals =>
    cases h
    rw [Builder.markers_add, Stmt.markers, List.append_nil]

/-- A directive tag starts at most one cached block, which has the place of its arguments. -/
theorem markers_applied (h : Applied r b name raw span b') :
    b'.markers = b.markers ∨ ∃ i : Invocation, b'.markers = b.markers ++ [i] ∧
      Origin.at? r.identity r.source raw.start = some i.origin := by
  cases h with
  | closed blocks occurs compiled =>
    left
    simp [Builder.markers, blocks, Builder.outer_cons, OpenBlock.markers, Stmt.markers]
  | closedCached blocks occurs invoked =>
    left
    simp [Builder.markers, blocks, Builder.outer_cons, OpenBlock.markers, Stmt.markers]
  | single found occurs compiled =>
    left
    rw [Builder.markers_add, Stmt.markers, List.append_nil]
  | opened found occurs compiled =>
    left
    simp [Builder.markers, Builder.outer_cons, OpenBlock.markers]
  | @openedCached i o found occurs invoked =>
    refine .inr ⟨i, ?_, ?_⟩
    · simp [Builder.markers, Builder.outer_cons, OpenBlock.markers]
    · rw [origin_invocation invoked]
      exact origin_occurrence occurs

/-! ## Whole templates -/

/-- Starts of cached blocks in the order of their offsets, up to an offset. -/
inductive Placed (r : Reader) : Nat → List Invocation → Prop
  | nil (n : Nat) : Placed r n []
  | concat {n k m : Nat} {is : List Invocation} {i : Invocation} (before : Placed r n is)
      (lt : n < k) (le : k ≤ m) (place : Origin.at? r.identity r.source k = some i.origin) :
      Placed r m (is ++ [i])

namespace Placed

variable {n m : Nat} {is : List Invocation}

theorem mono (h : Placed r n is) (le : n ≤ m) : Placed r m is := by
  cases h with
  | nil => exact .nil m
  | concat before lt le' place => exact .concat before lt (Nat.le_trans le' le) place

theorem located (h : Placed r n is) :
    ∀ i ∈ is, ∃ k, k ≤ n ∧ Origin.at? r.identity r.source k = some i.origin := by
  induction h with
  | nil => simp
  | concat before lt le place ih =>
    intro i hi
    rcases List.mem_append.1 hi with hi | hi
    · obtain ⟨k, bound, found⟩ := ih i hi
      exact ⟨k, by omega, found⟩
    · rw [List.mem_singleton.1 hi]
      exact ⟨_, le, place⟩

/-- The places of the starts are in order. -/
theorem pairwise (h : Placed r n is) : is.Pairwise fun i j => i.origin.Before j.origin := by
  induction h with
  | nil => exact .nil
  | concat before lt le place ih =>
    refine List.pairwise_append.2 ⟨ih, List.pairwise_singleton _ _, fun i hi j hj => ?_⟩
    obtain ⟨k, bound, found⟩ := before.located i hi
    rw [List.mem_singleton.1 hj]
    exact Origin.before_of_at? found place (by omega)

end Placed

/-- The arguments of a directive start behind its name and before everything behind the tag. -/
theorem inOrder_rawArgs {raw raw' close : Span} {lower last : Nat} {ts ts' : List Token}
    (h : rawArgs s raw ts = .ok ((raw', close), ts')) (order : InOrder raw.start last ts)
    (le : lower ≤ raw.start) : lower ≤ raw'.start ∧ InOrder raw'.start last ts' := by
  -- on the tokens; the span of the arguments grows at its end only
  induction ts generalizing raw with
  | nil =>
    rw [rawArgs] at h
    split at h <;> cases h
  | cons t ts ih =>
    rw [rawArgs] at h
    split at h
    · cases h
      exact ⟨le, order.sublist (List.sublist_cons_self t _)⟩
    · have ge := order.start_ge t List.mem_cons_self
      split at h
      · exact ih h order.from_start (Nat.le_trans le ge)
      · refine ih h ?_ ?_
        · rw [Span.join_start, Nat.min_eq_left ge]
          exact order.sublist (List.sublist_cons_self t ts)
        · rw [Span.join_start, Nat.min_eq_left ge]
          exact le

/-- A directive tag is read: a cached block that it starts comes after the ones before it. -/
theorem placed_directive {n last : Nat} {close : Span} {ts ts₁ ts₂ : List Token}
    (order : InOrder n last ts) (before : Placed r n b.markers)
    (named : ident s ts = .ok (name, ts₁))
    (args : rawArgs s (Span.point name.span.stop) ts₁ = .ok ((raw, close), ts₂))
    (applied : applyDirective r b name raw span = .ok b') :
    ∃ m, InOrder m last ts₂ ∧ Placed r m b'.markers := by
  obtain ⟨⟨t, rest⟩, expected, found⟩ := bind_eq_ok named
  obtain ⟨rfl, kind⟩ := expect_eq_ok expected
  cases found
  -- the arguments start behind the name, which takes some text, so they start further on than `n`
  have ge : n ≤ t.span.start := order.start_ge t List.mem_cons_self
  have lt : t.span.start < t.span.stop := order.names t List.mem_cons_self kind
  obtain ⟨(le : t.span.stop ≤ raw.start), order'⟩ :=
    inOrder_rawArgs args order.from_stop (Nat.le_refl _)
  refine ⟨raw.start, order', ?_⟩
  rcases markers_applied (applied_of_applyDirective applied) with same | ⟨i, added, place⟩
  · rw [same]
    exact before.mono (by omega)
  · rw [added]
    exact .concat before (by omega) (Nat.le_refl _) place

/-- One statement is read: the starts of cached blocks stay in order, up to an offset before
everything that is left. -/
theorem placed_stated {n last : Nat} {t : Token} {ts ts' : List Token}
    (order : InOrder n last (t :: ts)) (before : Placed r n b.markers)
    (h : Stated r b t ts b' ts') : ∃ m, InOrder m last ts' ∧ Placed r m b'.markers := by
  have tail : InOrder n last ts := order.sublist (List.sublist_cons_self t ts)
  cases h with
  | raw =>
    refine ⟨n, tail, ?_⟩
    rw [Builder.markers_add, Stmt.markers, List.append_nil]
    exact before
  | comment suffix => exact ⟨n, tail.sublist suffix.sublist, before⟩
  | output x span suffix =>
    refine ⟨n, tail.sublist suffix.sublist, ?_⟩
    rw [Builder.markers_add, Stmt.markers, List.append_nil]
    exact before
  | directive named args applied => exact placed_directive tail before named args applied
  | tag suffix applied =>
    refine ⟨n, tail.sublist suffix.sublist, ?_⟩
    rw [markers_applyTag applied]
    exact before

theorem markersAll_finish {body : List Stmt} (h : finish s b = .ok body) :
    Stmt.markersAll body = b.markers := by
  unfold finish at h
  split at h
  · next none =>
    cases h
    simp [Builder.markers, Builder.outer, List.getLast?_eq_none_iff.1 none]
  · cases h

/-- The starts of the cached blocks in the statements of some tokens are in order. -/
theorem placed_statements {k n last : Nat} {ts : List Token} {body : List Stmt}
    (order : InOrder n last ts) (before : Placed r n b.markers)
    (h : statements r k b ts = .ok body) : ∃ m, Placed r m (Stmt.markersAll body) := by
  -- on the bound of statements; the offset moves on with what is read
  induction k generalizing n b ts with
  | zero => cases h
  | succ k ih =>
    obtain ⟨found, read, h⟩ := bind_eq_ok h
    cases ts with
    | nil =>
      rw [next?] at read
      split at read <;> cases read
      exact ⟨n, markersAll_finish h ▸ before⟩
    | cons t ts =>
      cases read
      obtain ⟨⟨b₁, ts₁⟩, stated, h⟩ := bind_eq_ok h
      obtain ⟨m, order', before'⟩ := placed_stated order before (stated_of_statement stated)
      exact ih order' before' h

end Parse

/-- The cached blocks of a template start at different places, one after the other. -/
theorem Template.markers_before {l : Language} {name : Option String} {source : String}
    {t : Template} (h : Template.compile l name source = .ok t) :
    t.markers.Pairwise fun i j => i.origin.Before j.origin := by
  unfold Template.compile at h
  split at h
  · next body read =>
    cases h
    obtain ⟨last, order⟩ := significant_inOrder l.delimiters source
    obtain ⟨m, placed⟩ := Parse.placed_statements order (.nil 0) read
    exact placed.pairwise
  · cases h

end Stencil
