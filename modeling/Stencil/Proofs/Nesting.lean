import Stencil.Proofs.Stacks

/-!
# Nested tags

Each text and each tag of a source can be read on its own: what it stands for does not depend on
the blocks that are open around it. The source is a template if and only if its tags are well
nested, and the statements of the template, written out again, are the texts and the tags in order,
with each `else if` as a condition of its own in the second branch.

- `Part`, `Parse.ConsistsOf`: what the texts and the tags of a source stand for.
- `Language.Unambiguous`: no directive is named like the end of a paired one.
- `Enclosing`, `Part.advance`, `WellNested`: which tags have a place in which blocks.
- `Stmt.flatten`, `expand`: statements and parts written out.
- `Builder.Keeps`, `Builder.Keeps.applyMarkup`: one text or tag keeps the open blocks and the parts.
- `Builder.Keeps.statements`: so does a whole run.
- `template_wellNested`: the parser takes what is well nested.
-/

namespace Stencil

/-! ## Parts -/

/-- What a text or a tag stands for. -/
inductive Part where
  /-- A statement without a body. -/
  | stmt (s : Stmt)
  | ifTag (negated : Bool) (cond : Expr)
  | elseTag
  | elseIfTag (negated : Bool) (cond : Expr)
  | endifTag
  | forTag (vars : LoopVars) (iterable : Expr)
  | endforTag
  /-- The start of a paired directive. -/
  | start (d : Directive)
  /-- The end of a paired directive. -/
  | stop (d : Directive)
  | startCached (i : Invocation)
  | stopCached (i : Invocation)

namespace Parse

/-- What a block tag stands for. -/
def BlockTag.part : BlockTag → Part
  | .ifTag negated cond => .ifTag negated cond
  | .elseTag => .elseTag
  | .elseIfTag negated cond => .elseIfTag negated cond
  | .endifTag => .endifTag
  | .forTag vars iterable => .forTag vars iterable
  | .endforTag => .endforTag
  | .includeTag name globals => .stmt (.include name globals)

/-- What a name says the end of. -/
def ended? (name : String) : Option String :=
  match name.toList with
  | 'e' :: 'n' :: 'd' :: cs => some (String.ofList cs)
  | _ => none

/-- What a directive tag stands for: a directive that is registered under its name, or the end of a
paired one. It is compiled and its arguments are parsed. -/
def directivePart (r : Reader) (name : Ident) (raw span : Span) : Except Failure Part :=
  match Dict.get? name.name r.language.directives with
  | some (.single compile) => do
    let o ← occurrence r raw
    let d ← directive r compile name o span
    .ok (.stmt (.directive d))
  | some (.paired start _) => do
    let o ← occurrence r raw
    let d ← directive r start name o span
    .ok (.start d)
  | some .cached => do
    let o ← occurrence r raw
    let i ← invocation r name .call o span
    .ok (.startCached i)
  | none =>
    match (ended? name.name).bind fun n => Dict.get? n r.language.directives with
    | some (.paired _ stop) => do
      let o ← occurrence r raw
      let d ← directive r stop name o span
      .ok (.stop d)
    | some .cached => do
      let o ← occurrence r raw
      let i ← invocation r name .bare o span
      .ok (.stopCached i)
    | _ => fault r.toSurroundings (.unknownDirective name.name) name.span

/-- What a text or a tag stands for. A comment stands for nothing. -/
def part (r : Reader) : Markup → Except Failure (Option Part)
  | .raw span => .ok (some (.stmt (.raw span)))
  | .comment => .ok none
  | .output e span => .ok (some (.stmt (.output e span)))
  | .directive name raw span => (directivePart r name raw span).map some
  | .block tag _ => .ok (some tag.part)

/-- What the tokens stand for, read text by text and tag by tag. -/
inductive Consists (r : Reader) : List Token → List Part → Prop
  | nil (complete : r.failure = none) : Consists r [] []
  | cons {t : Token} {ts ts' : List Token} {m : Markup} {p : Option Part} {ps : List Part}
      (read : markup r.toSurroundings t ts = .ok (m, ts')) (stands : part r m = .ok p)
      (behind : Consists r ts' ps) : Consists r (t :: ts) (p.toList ++ ps)

/-- What the texts and the tags of a source stand for: the source can be split into tokens, and each
of the tags can be parsed and compiled. -/
def ConsistsOf (l : Language) (name : Option String) (source : String) (ps : List Part) : Prop :=
  Consists ⟨⟨source, (lex l.delimiters source).failure⟩, l, Origin.identityOf name source⟩
    (lex l.delimiters source).significant ps

end Parse

/-- No directive is named like the end of a paired one. -/
def Language.Unambiguous (l : Language) : Prop :=
  ∀ name definition, Dict.get? name l.directives = some definition → definition.isPaired →
    Dict.get? ("end" ++ name) l.directives = none

/-! ## Nesting -/

/-- A block that is open. A condition knows whether it has an `else`, and how many `else if` it
has. -/
inductive Enclosing where
  | clause (hasElse : Bool) (chained : Nat)
  | loop
  | paired (name : String)
  | cached (name : String)
deriving DecidableEq

namespace Part

/-- The open blocks behind a part, the innermost first, unless it has no place in the ones before
it. -/
def advance : Part → List Enclosing → Option (List Enclosing)
  | .stmt _, es => some es
  | .ifTag _ _, es => some (.clause false 0 :: es)
  | .elseTag, .clause false chained :: es => some (.clause true chained :: es)
  | .elseIfTag _ _, .clause false chained :: es => some (.clause false (chained + 1) :: es)
  | .endifTag, .clause _ _ :: es => some es
  | .forTag _ _, es => some (.loop :: es)
  | .endforTag, .loop :: es => some es
  | .start d, es => some (.paired d.name.name :: es)
  | .startCached i, es => some (.cached i.name.name :: es)
  | .stop d, .paired name :: es => if d.name.name = "end" ++ name then some es else none
  | .stopCached i, .cached name :: es => if i.name.name = "end" ++ name then some es else none
  | _, _ => none

/-- What a part is written out as: an `else if` begins a condition in the second branch, and the end
of a condition ends those as well. -/
def expanded : Part → List Enclosing → List Part
  | .elseIfTag negated cond, _ => [.elseTag, .ifTag negated cond]
  | .endifTag, .clause _ chained :: _ => List.replicate (chained + 1) .endifTag
  | p, _ => [p]

end Part

/-- The open blocks behind some parts. -/
def advanceAll : List Part → List Enclosing → Option (List Enclosing)
  | [], es => some es
  | p :: ps, es => (p.advance es).bind (advanceAll ps)

/-- Every part has a place in the blocks that are open there, and at the end no block is open. -/
def WellNested (ps : List Part) : Prop := advanceAll ps [] = some []

example (cond : Expr) :
    WellNested [.ifTag false cond, .elseIfTag true cond, .elseTag, .endifTag] := rfl

/-- An `else if` has no place behind an `else`. -/
example (cond : Expr) :
    advanceAll [.ifTag false cond, .elseTag, .elseIfTag true cond] [] = none := rfl

/-- What some parts are written out as, in some open blocks. -/
def expand : List Part → List Enclosing → List Part
  | [], _ => []
  | p :: ps, es => p.expanded es ++ expand ps ((p.advance es).getD es)

/-! ## Statements written out -/

mutual

/-- The parts of a statement. -/
def Stmt.flatten : Stmt → List Part
  | .ifElse negated cond thenBody none =>
    .ifTag negated cond :: (flattenAll thenBody ++ [.endifTag])
  | .ifElse negated cond thenBody (some elseBody) =>
    .ifTag negated cond :: (flattenAll thenBody ++ .elseTag :: (flattenAll elseBody ++ [.endifTag]))
  | .forLoop vars iterable body => .forTag vars iterable :: (flattenAll body ++ [.endforTag])
  | .block start body stop => .start start :: (flattenAll body ++ [.stop stop])
  | .cached start body stop => .startCached start :: (flattenAll body ++ [.stopCached stop])
  | .raw span => [.stmt (.raw span)]
  | .output e span => [.stmt (.output e span)]
  | .include name globals => [.stmt (.include name globals)]
  | .directive d => [.stmt (.directive d)]

/-- The parts of some statements. -/
def flattenAll : List Stmt → List Part
  | [] => []
  | s :: ss => s.flatten ++ flattenAll ss

end

theorem flattenAll_append (ss ts : List Stmt) :
    flattenAll (ss ++ ts) = flattenAll ss ++ flattenAll ts := by
  induction ss with
  | nil => rfl
  | cons s ss ih => rw [List.cons_append, flattenAll, flattenAll, ih, List.append_assoc]

theorem flattenAll_reverse_cons (s : Stmt) (ss : List Stmt) :
    flattenAll (s :: ss).reverse = flattenAll ss.reverse ++ s.flatten := by
  rw [List.reverse_cons, flattenAll_append, flattenAll, flattenAll, List.append_nil]

/-! ## Names of directives -/

namespace Parse

variable {r : Reader} {name : Ident} {span : Span} {o : Occurrence}

/-- An invocation has the name of its tag. -/
theorem name_of_invocation {mode : Mode} {i : Invocation}
    (h : invocation r name mode o span = .ok i) : i.name = name := by
  obtain ⟨args, -, h⟩ := bind_eq_ok h
  cases h
  rfl

/-- A directive has the name of its tag. -/
theorem name_of_directive {compile : Compile} {d : Directive}
    (h : directive r compile name o span = .ok d) : d.name = name := by
  rw [directive] at h
  split at h
  · cases h
  · obtain ⟨i, invoked, h⟩ := bind_eq_ok h
    cases h
    exact name_of_invocation invoked

/-- What a name says the end of is what stands behind `end`. -/
theorem eq_end_append {name n : String} (h : ended? name = some n) : name = "end" ++ n := by
  rw [ended?] at h
  split at h
  · next cs chars =>
    cases h
    exact String.toList_injective (by simp [chars])
  · cases h

end Parse

/-! ## Open blocks -/

/-- The open blocks of a builder are those of some parts. A clause that was opened by an `else if`
stands on the condition that it belongs to, which has an `else`. -/
inductive Nest : List OpenBlock → List Enclosing → Prop
  | nil : Nest [] []
  | thenBranch {clause : Clause} {before : List Stmt} {blocks : List OpenBlock}
      {es : List Enclosing} (h : Nest blocks es) :
      Nest (.thenBranch clause false before :: blocks) (.clause false 0 :: es)
  | elseBranch {clause : Clause} {thenBody before : List Stmt} {blocks : List OpenBlock}
      {es : List Enclosing} (h : Nest blocks es) :
      Nest (.elseBranch clause false thenBody before :: blocks) (.clause true 0 :: es)
  | chainedThen {clause : Clause} {before : List Stmt} {blocks : List OpenBlock}
      {es : List Enclosing} {chained : Nat} (h : Nest blocks (.clause true chained :: es)) :
      Nest (.thenBranch clause true before :: blocks) (.clause false (chained + 1) :: es)
  | chainedElse {clause : Clause} {thenBody before : List Stmt} {blocks : List OpenBlock}
      {es : List Enclosing} {chained : Nat} (h : Nest blocks (.clause true chained :: es)) :
      Nest (.elseBranch clause true thenBody before :: blocks) (.clause true (chained + 1) :: es)
  | loop {vars : LoopVars} {iterable : Expr} {span : Span} {before : List Stmt}
      {blocks : List OpenBlock} {es : List Enclosing} (h : Nest blocks es) :
      Nest (.loop vars iterable span before :: blocks) (.loop :: es)
  | paired {start : Directive} {stop : Compile} {before : List Stmt} {blocks : List OpenBlock}
      {es : List Enclosing} (h : Nest blocks es) :
      Nest (.paired start stop before :: blocks) (.paired start.name.name :: es)
  | cached {start : Invocation} {before : List Stmt} {blocks : List OpenBlock} {es : List Enclosing}
      (h : Nest blocks es) : Nest (.cached start before :: blocks) (.cached start.name.name :: es)

/-- What an open block is closed with is what is registered under its name. -/
def OpenBlock.Registered (l : Language) : OpenBlock → Prop
  | .paired start stop _ =>
    ∃ compile, Dict.get? start.name.name l.directives = some (.paired compile stop)
  | .cached start _ => Dict.get? start.name.name l.directives = some .cached
  | _ => True

/-- What holds of a builder when some blocks are open. -/
structure Builder.Keeps (l : Language) (b : Builder) (es : List Enclosing) : Prop where
  nest : Nest b.blocks es
  registered : ∀ o ∈ b.blocks, o.Registered l

/-- What an open block is written out as, up to the statements behind its last tag. -/
def OpenBlock.parts : OpenBlock → List Part
  | .thenBranch clause _ before =>
    flattenAll before.reverse ++ [.ifTag clause.negated clause.cond]
  | .elseBranch clause _ thenBody before =>
    flattenAll before.reverse ++
      .ifTag clause.negated clause.cond :: (flattenAll thenBody ++ [.elseTag])
  | .loop vars iterable _ before => flattenAll before.reverse ++ [.forTag vars iterable]
  | .paired start _ before => flattenAll before.reverse ++ [.start start]
  | .cached start before => flattenAll before.reverse ++ [.startCached start]

/-- What a builder is written out as. -/
def Builder.parts (b : Builder) : List Part :=
  b.blocks.reverse.flatMap OpenBlock.parts ++ flattenAll b.current.reverse

theorem Builder.parts_cons (current : List Stmt) (o : OpenBlock) (blocks : List OpenBlock) :
    (⟨current, o :: blocks⟩ : Builder).parts =
      blocks.reverse.flatMap OpenBlock.parts ++ o.parts ++ flattenAll current.reverse := by
  rw [parts, List.reverse_cons, List.flatMap_append, List.flatMap_singleton]

theorem Builder.parts_push (s : Stmt) (before : List Stmt) (blocks : List OpenBlock) :
    (⟨s :: before, blocks⟩ : Builder).parts =
      (⟨before, blocks⟩ : Builder).parts ++ s.flatten := by
  rw [parts, parts, flattenAll_reverse_cons, List.append_assoc]

/-- A new block. -/
theorem Builder.parts_open {o : OpenBlock} {p : Part} {current : List Stmt}
    (blocks : List OpenBlock) (written : o.parts = flattenAll current.reverse ++ [p]) :
    (⟨[], o :: blocks⟩ : Builder).parts = (⟨current, blocks⟩ : Builder).parts ++ [p] := by
  rw [parts_cons, written, parts]
  simp only [List.append_assoc, List.reverse_nil, flattenAll, List.append_nil]

/-- The second branch of a condition. -/
theorem Builder.parts_else (clause : Clause) (nested : Bool) (current before : List Stmt)
    (blocks : List OpenBlock) :
    (⟨[], .elseBranch clause nested current.reverse before :: blocks⟩ : Builder).parts =
      (⟨current, .thenBranch clause nested before :: blocks⟩ : Builder).parts ++ [.elseTag] := by
  rw [parts_cons, parts_cons, OpenBlock.parts, OpenBlock.parts]
  simp only [List.append_assoc, List.cons_append, List.nil_append, List.reverse_nil, flattenAll,
    List.append_nil]

/-- The end of a block: what the statement is written out as is the last tag of the block, what
stands behind it, and the end. -/
theorem Builder.parts_close {o : OpenBlock} {stmt : Stmt} {p : Part} {current before : List Stmt}
    {blocks : List OpenBlock}
    (written : flattenAll before.reverse ++ stmt.flatten =
      o.parts ++ (flattenAll current.reverse ++ [p])) :
    (⟨stmt :: before, blocks⟩ : Builder).parts =
      (⟨current, o :: blocks⟩ : Builder).parts ++ [p] := by
  rw [parts_push, parts_cons, parts]
  simp only [List.append_assoc, written]

/-- The end of a condition without a second branch. -/
theorem Builder.parts_closeThen (clause : Clause) (nested : Bool) (current before : List Stmt)
    (blocks : List OpenBlock) :
    (⟨.ifElse clause.negated clause.cond current.reverse none :: before, blocks⟩ : Builder).parts =
      (⟨current, .thenBranch clause nested before :: blocks⟩ : Builder).parts ++ [.endifTag] :=
  parts_close (by simp [OpenBlock.parts, Stmt.flatten])

/-- The end of a condition with a second branch. -/
theorem Builder.parts_closeElse (clause : Clause) (nested : Bool)
    (thenBody current before : List Stmt) (blocks : List OpenBlock) :
    (⟨.ifElse clause.negated clause.cond thenBody (some current.reverse) :: before, blocks⟩ :
        Builder).parts =
      (⟨current, .elseBranch clause nested thenBody before :: blocks⟩ : Builder).parts ++
        [.endifTag] :=
  parts_close (by simp [OpenBlock.parts, Stmt.flatten])

/-- What becomes of a builder is what a part asks for: the part has a place there, and it is written
out behind what was there before; or it has none, and there is an error. -/
def Follows (l : Language) (b : Builder) (es : List Enclosing) (p : Part)
    (result : Except Failure Builder) : Prop :=
  match p.advance es with
  | some es' => ∃ b', result = .ok b' ∧ b'.Keeps l es' ∧ b'.parts = b.parts ++ p.expanded es
  | none => ∃ f, result = .error f

/-- What becomes of a builder at the end is what some parts ask for: if every one has a place where
it stands, and no block is left open, the statements are written out as the parts are; and otherwise
there is an error. -/
def Finishes (b : Builder) (es : List Enclosing) (ps : List Part)
    (result : Except Failure (List Stmt)) : Prop :=
  if advanceAll ps es = some [] then
    ∃ body, result = .ok body ∧ flattenAll body = b.parts ++ expand ps es
  else ∃ f, result = .error f

namespace Finishes

variable {b b' : Builder} {es es' : List Enclosing} {p : Part} {ps : List Part}
  {result : Except Failure (List Stmt)}

theorem cons (h : Finishes b' es' ps result) (advance : p.advance es = some es')
    (written : b'.parts = b.parts ++ p.expanded es) : Finishes b es (p :: ps) result := by
  rw [Finishes, written] at h
  rw [Finishes, advanceAll, expand, advance]
  simpa only [Option.bind_some, Option.getD_some, List.append_assoc] using h

theorem of_none {f : Failure} (advance : p.advance es = none) :
    Finishes b es (p :: ps) (.error f) := by
  rw [Finishes, advanceAll, advance, if_neg (by simp)]
  exact ⟨f, rfl⟩

end Finishes

namespace Builder.Keeps

open Parse

variable {l : Language} {b : Builder} {es : List Enclosing} {s : Surroundings} {span : Span}

/-- A statement has a place everywhere. -/
theorem add (h : b.Keeps l es) {stmt : Stmt} (flat : stmt.flatten = [.stmt stmt]) :
    Follows l b es (.stmt stmt) (.ok (b.add stmt)) := by
  refine ⟨b.add stmt, rfl, ⟨h.nest, h.registered⟩, ?_⟩
  rw [Builder.add, Builder.parts_push, flat]
  rfl

/-- A condition is closed, and with it the conditions for which it is an `else if`. -/
theorem closeClauses (current : List Stmt) {blocks : List OpenBlock} {hasElse : Bool}
    {chained : Nat} (h : Nest blocks (.clause hasElse chained :: es))
    (registered : ∀ o ∈ blocks, o.Registered l) :
    ∃ b', Builder.closeClauses current blocks = some b' ∧ b'.Keeps l es ∧
      b'.parts = (⟨current, blocks⟩ : Builder).parts ++ List.replicate (chained + 1) .endifTag := by
  -- on the blocks: an `else if` is closed into the second branch of the condition below it
  induction blocks generalizing current hasElse chained with
  | nil => cases h
  | cons o blocks ih =>
    have others : ∀ o ∈ blocks, o.Registered l := fun o ho =>
      registered o (List.mem_cons_of_mem _ ho)
    cases h with
    | thenBranch h => exact ⟨_, rfl, ⟨h, others⟩, Builder.parts_closeThen ..⟩
    | elseBranch h => exact ⟨_, rfl, ⟨h, others⟩, Builder.parts_closeElse ..⟩
    | @chainedThen clause before _ _ chained h =>
      obtain ⟨b', closed, keeps, written⟩ :=
        ih (.ifElse clause.negated clause.cond current.reverse none :: before) h others
      refine ⟨b', closed, keeps, ?_⟩
      rw [written, Builder.parts_closeThen _ true, List.append_assoc]
      rfl
    | @chainedElse clause thenBody before _ _ chained h =>
      obtain ⟨b', closed, keeps, written⟩ :=
        ih (.ifElse clause.negated clause.cond thenBody (some current.reverse) :: before) h others
      refine ⟨b', closed, keeps, ?_⟩
      rw [written, Builder.parts_closeElse _ true, List.append_assoc]
      rfl

/-- A new block is opened. -/
theorem opens {o : OpenBlock} {e : Enclosing} {p : Part} (h : b.Keeps l es)
    (nest : Nest (o :: b.blocks) (e :: es)) (registered : o.Registered l)
    (advance : p.advance es = some (e :: es)) (expanded : p.expanded es = [p])
    (written : o.parts = flattenAll b.current.reverse ++ [p]) :
    Follows l b es p (.ok ⟨[], o :: b.blocks⟩) := by
  rw [Follows, advance, expanded]
  exact ⟨_, rfl, ⟨nest, List.forall_mem_cons.2 ⟨registered, h.registered⟩⟩,
    Builder.parts_open b.blocks written⟩

/-- An `else` has a place in the first branch of a condition. -/
theorem addElse (h : b.Keeps l es) :
    Follows l b es .elseTag (placed s "else" span b.addElse) := by
  obtain ⟨current, blocks⟩ := b
  obtain ⟨nest, registered⟩ := h
  cases nest with
  | thenBranch nest =>
    have others := (List.forall_mem_cons.1 registered).2
    exact ⟨_, rfl, ⟨.elseBranch nest, List.forall_mem_cons.2 ⟨trivial, others⟩⟩,
      Builder.parts_else ..⟩
  | chainedThen nest =>
    have others := (List.forall_mem_cons.1 registered).2
    exact ⟨_, rfl, ⟨.chainedElse nest, List.forall_mem_cons.2 ⟨trivial, others⟩⟩,
      Builder.parts_else ..⟩
  | _ => exact ⟨_, rfl⟩

/-- So has an `else if`, which opens a condition in the second branch. -/
theorem addElseIf (h : b.Keeps l es) (negated : Bool) (cond : Expr) :
    Follows l b es (.elseIfTag negated cond)
      (placed s "else if" span (b.addElseIf ⟨negated, cond, span⟩)) := by
  obtain ⟨current, blocks⟩ := b
  obtain ⟨nest, registered⟩ := h
  have written (clause : Clause) (nested : Bool) (before : List Stmt) (rest : List OpenBlock) :
      (⟨[], .thenBranch ⟨negated, cond, span⟩ true [] ::
          .elseBranch clause nested current.reverse before :: rest⟩ : Builder).parts =
        (⟨current, .thenBranch clause nested before :: rest⟩ : Builder).parts ++
          [.elseTag, .ifTag negated cond] := by
    rw [Builder.parts_open _ rfl, Builder.parts_else, List.append_assoc]
    rfl
  cases nest with
  | thenBranch nest =>
    have others := (List.forall_mem_cons.1 registered).2
    exact ⟨_, rfl, ⟨.chainedThen (.elseBranch nest),
      List.forall_mem_cons.2 ⟨trivial, List.forall_mem_cons.2 ⟨trivial, others⟩⟩⟩, written ..⟩
  | chainedThen nest =>
    have others := (List.forall_mem_cons.1 registered).2
    exact ⟨_, rfl, ⟨.chainedThen (.chainedElse nest),
      List.forall_mem_cons.2 ⟨trivial, List.forall_mem_cons.2 ⟨trivial, others⟩⟩⟩, written ..⟩
  | _ => exact ⟨_, rfl⟩

/-- An `endif` has a place in a condition. -/
theorem closeIf (h : b.Keeps l es) :
    Follows l b es .endifTag (placed s "endif" span b.closeIf) := by
  obtain ⟨current, blocks⟩ := b
  obtain ⟨nest, registered⟩ := h
  have closes {hasElse : Bool} {chained : Nat} {es : List Enclosing}
      (nest : Nest blocks (.clause hasElse chained :: es)) :
      Follows l ⟨current, blocks⟩ (.clause hasElse chained :: es) .endifTag
        (placed s "endif" span (Builder.closeIf ⟨current, blocks⟩)) := by
    obtain ⟨b', closed, keeps, written⟩ := closeClauses current nest registered
    refine ⟨b', ?_, keeps, written⟩
    rw [Builder.closeIf, closed, placed]
  cases nest with
  | thenBranch nest => exact closes (.thenBranch nest)
  | elseBranch nest => exact closes (.elseBranch nest)
  | chainedThen nest => exact closes (.chainedThen nest)
  | chainedElse nest => exact closes (.chainedElse nest)
  | _ => exact ⟨_, rfl⟩

/-- An `endfor` has a place in a loop. -/
theorem closeFor (h : b.Keeps l es) :
    Follows l b es .endforTag (placed s "endfor" span b.closeFor) := by
  obtain ⟨current, blocks⟩ := b
  obtain ⟨nest, registered⟩ := h
  cases nest with
  | loop nest =>
    have others := (List.forall_mem_cons.1 registered).2
    exact ⟨_, rfl, ⟨nest, others⟩, Builder.parts_close (by simp [OpenBlock.parts, Stmt.flatten])⟩
  | _ => exact ⟨_, rfl⟩

/-- A block tag does what it stands for. -/
theorem applyTag (h : b.Keeps l es) (tag : BlockTag) :
    Follows l b es tag.part (Parse.applyTag s b span tag) := by
  cases tag with
  | ifTag negated cond => exact h.opens (.thenBranch h.nest) trivial rfl rfl rfl
  | elseTag => exact h.addElse
  | elseIfTag negated cond => exact h.addElseIf negated cond
  | endifTag => exact h.closeIf
  | forTag vars iterable => exact h.opens (.loop h.nest) trivial rfl rfl rfl
  | endforTag => exact h.closeFor
  | includeTag name globals => exact h.add (by rw [Stmt.flatten])

variable {r : Reader} {name : Ident} {raw : Span}

/-- A registered directive does not end a block. -/
theorem closeDirective?_eq_none {definition : Definition} (h : b.Keeps r.language es)
    (unambiguous : r.language.Unambiguous)
    (registered : Dict.get? name.name r.language.directives = some definition) :
    closeDirective? r b name raw span = none := by
  have differs {start : String} {paired : Definition} (isPaired : paired.isPaired)
      (started : Dict.get? start r.language.directives = some paired) :
      name.name ≠ "end" ++ start := by
    intro ends
    rw [ends, unambiguous start paired started isPaired] at registered
    cases registered
  obtain ⟨current, blocks⟩ := b
  cases blocks with
  | nil => rfl
  | cons open? blocks =>
    have started := (List.forall_mem_cons.1 h.registered).1
    cases open? with
    | paired start stop before =>
      obtain ⟨compile, started⟩ := started
      exact if_neg (differs rfl started)
    | cached start before => exact if_neg (differs rfl started)
    | _ => rfl

/-- A directive that neither ends the innermost block nor is registered is an error. -/
theorem applyDirective_eq_error (close : closeDirective? r b name raw span = none)
    (unregistered : Dict.get? name.name r.language.directives = none) :
    ∃ f, Parse.applyDirective r b name raw span = .error f := by
  rw [Parse.applyDirective, close, unregistered]
  dsimp only
  split
  · exact ⟨_, rfl⟩
  · exact ⟨_, rfl⟩

/-- The end of a paired directive has a place in the block of the directive. -/
theorem stop {n : String} {o : Occurrence} {compile stop : Compile} {d : Directive}
    (h : b.Keeps r.language es) (ends : name.name = "end" ++ n)
    (unregistered : Dict.get? name.name r.language.directives = none)
    (registered : Dict.get? n r.language.directives = some (.paired compile stop))
    (found : occurrence r raw = .ok o) (read : directive r stop name o span = .ok d) :
    Follows r.language b es (.stop d) (Parse.applyDirective r b name raw span) := by
  obtain ⟨current, blocks⟩ := b
  obtain ⟨nest, all⟩ := h
  cases nest with
  | @paired start stop' before blocks es nest =>
    obtain ⟨⟨compile', started⟩, others⟩ := List.forall_mem_cons.1 all
    by_cases same : name.name = "end" ++ start.name.name
    · obtain rfl : n = start.name.name := (String.append_right_inj _).1 (ends.symm.trans same)
      cases registered.symm.trans started
      rw [Follows, Part.advance, name_of_directive read, if_pos same]
      refine ⟨⟨.block start current.reverse d :: before, blocks⟩, ?_, ⟨nest, others⟩,
        Builder.parts_close (by simp [OpenBlock.parts, Stmt.flatten])⟩
      simp only [Parse.applyDirective, closeDirective?, if_pos same, found, read, ok_bind]
    · rw [Follows, Part.advance, name_of_directive read, if_neg same]
      exact applyDirective_eq_error (if_neg same) unregistered
  | @cached start before blocks es nest =>
    have differs : name.name ≠ "end" ++ start.name.name := by
      intro same
      obtain rfl : n = start.name.name := (String.append_right_inj _).1 (ends.symm.trans same)
      cases registered.symm.trans (List.forall_mem_cons.1 all).1
    exact applyDirective_eq_error (if_neg differs) unregistered
  | _ => exact applyDirective_eq_error rfl unregistered

/-- So has the end of a cached block. -/
theorem stopCached {n : String} {o : Occurrence} {i : Invocation} (h : b.Keeps r.language es)
    (ends : name.name = "end" ++ n)
    (unregistered : Dict.get? name.name r.language.directives = none)
    (registered : Dict.get? n r.language.directives = some .cached)
    (found : occurrence r raw = .ok o) (read : invocation r name .bare o span = .ok i) :
    Follows r.language b es (.stopCached i) (Parse.applyDirective r b name raw span) := by
  obtain ⟨current, blocks⟩ := b
  obtain ⟨nest, all⟩ := h
  cases nest with
  | @cached start before blocks es nest =>
    have others := (List.forall_mem_cons.1 all).2
    by_cases same : name.name = "end" ++ start.name.name
    · rw [Follows, Part.advance, name_of_invocation read, if_pos same]
      refine ⟨⟨.cached start current.reverse i :: before, blocks⟩, ?_, ⟨nest, others⟩,
        Builder.parts_close (by simp [OpenBlock.parts, Stmt.flatten])⟩
      simp only [Parse.applyDirective, closeDirective?, if_pos same, found, read, ok_bind]
    · rw [Follows, Part.advance, name_of_invocation read, if_neg same]
      exact applyDirective_eq_error (if_neg same) unregistered
  | @paired start stop before blocks es nest =>
    have differs : name.name ≠ "end" ++ start.name.name := by
      intro same
      obtain rfl : n = start.name.name := (String.append_right_inj _).1 (ends.symm.trans same)
      obtain ⟨compile, started⟩ := (List.forall_mem_cons.1 all).1
      cases registered.symm.trans started
    exact applyDirective_eq_error (if_neg differs) unregistered
  | _ => exact applyDirective_eq_error rfl unregistered

/-- A directive tag does what it stands for. -/
theorem applyDirective {p : Part} (h : b.Keeps r.language es)
    (unambiguous : r.language.Unambiguous) (part : directivePart r name raw span = .ok p) :
    Follows r.language b es p (Parse.applyDirective r b name raw span) := by
  rw [directivePart] at part
  cases registered : Dict.get? name.name r.language.directives with
  | some definition =>
    have close : closeDirective? r b name raw span = none :=
      h.closeDirective?_eq_none unambiguous registered
    rw [registered] at part
    rw [Parse.applyDirective, close, registered]
    cases definition with
    | single compile =>
      obtain ⟨o, found, part⟩ := bind_eq_ok part
      obtain ⟨d, read, part⟩ := bind_eq_ok part
      cases part
      simp only [found, read, ok_bind]
      exact h.add (by rw [Stmt.flatten])
    | paired start stop =>
      obtain ⟨o, found, part⟩ := bind_eq_ok part
      obtain ⟨d, read, part⟩ := bind_eq_ok part
      cases part
      simp only [found, read, ok_bind]
      have named : d.name = name := name_of_directive read
      exact h.opens (.paired h.nest) ⟨start, by rw [named, registered]⟩ rfl rfl rfl
    | cached =>
      obtain ⟨o, found, part⟩ := bind_eq_ok part
      obtain ⟨i, read, part⟩ := bind_eq_ok part
      cases part
      simp only [found, read, ok_bind]
      have named : i.name = name := name_of_invocation read
      exact h.opens (.cached h.nest) (by rw [OpenBlock.Registered, named, registered]) rfl rfl rfl
  | none =>
    rw [registered] at part
    dsimp only at part
    split at part
    · next compile stop started =>
      obtain ⟨n, ends, started⟩ := Option.bind_eq_some_iff.1 started
      obtain ⟨o, found, part⟩ := bind_eq_ok part
      obtain ⟨d, read, part⟩ := bind_eq_ok part
      cases part
      exact h.stop (eq_end_append ends) registered started found read
    · next started =>
      obtain ⟨n, ends, started⟩ := Option.bind_eq_some_iff.1 started
      obtain ⟨o, found, part⟩ := bind_eq_ok part
      obtain ⟨i, read, part⟩ := bind_eq_ok part
      cases part
      exact h.stopCached (eq_end_append ends) registered started found read
    · cases part

/-- What stands for nothing does nothing. -/
theorem applyMarkup_of_none {m : Markup} (part : Parse.part r m = .ok none) :
    Parse.applyMarkup r b m = .ok b := by
  cases m with
  | comment => rfl
  | directive name raw span =>
    obtain ⟨p, -, some⟩ := map_eq_ok part
    cases some
  | _ => cases part

/-- A text or a tag does what it stands for. -/
theorem applyMarkup {m : Markup} {p : Part} (h : b.Keeps r.language es)
    (unambiguous : r.language.Unambiguous) (part : Parse.part r m = .ok (some p)) :
    Follows r.language b es p (Parse.applyMarkup r b m) := by
  cases m with
  | raw span =>
    cases part
    exact h.add (by rw [Stmt.flatten])
  | comment => cases part
  | output e span =>
    cases part
    exact h.add (by rw [Stmt.flatten])
  | directive name raw span =>
    obtain ⟨p, read, some⟩ := map_eq_ok part
    cases some
    exact h.applyDirective unambiguous read
  | block tag span =>
    cases part
    exact h.applyTag tag

/-- At the end of the source no block may be open. -/
theorem finish (h : b.Keeps r.language es) :
    Finishes b es [] (Parse.finish r.toSurroundings b) := by
  obtain ⟨current, blocks⟩ := b
  have nest : Nest blocks es := h.nest
  cases blocks with
  | nil =>
    cases nest
    have nested : advanceAll [] [] = some [] := rfl
    rw [Finishes, if_pos nested]
    exact ⟨current.reverse, rfl, (List.append_nil _).symm⟩
  | cons o blocks =>
    have isOpen : es ≠ [] := by
      rintro rfl
      cases nest
    rw [Finishes, advanceAll, if_neg (by simpa using isOpen)]
    obtain ⟨last, found⟩ : ∃ last, (o :: blocks).getLast? = some last :=
      Option.isSome_iff_exists.1 (by simp)
    exact ⟨_, by rw [Parse.finish, found]; rfl⟩

/-- A whole run: if every part has a place where it stands, the statements are written out as the
parts are, and otherwise there is an error. -/
theorem statements {ts : List Token} {ps : List Part} (consists : Consists r ts ps)
    (unambiguous : r.language.Unambiguous) (framed : Framed none ts) {n : Nat}
    (bound : ts.length < n) (h : b.Keeps r.language es) :
    Finishes b es ps (Parse.statements r n b ts) := by
  -- on the reading; the blocks that are open and the bound vary with the place
  induction consists generalizing n b es with
  | nil complete =>
    obtain ⟨n, rfl⟩ := Nat.exists_eq_succ_of_ne_zero (Nat.ne_of_gt bound)
    have ends : next? r.toSurroundings [] = .ok none := by rw [next?, complete]
    rw [Parse.statements, ends]
    exact h.finish
  | @cons t ts ts' m p ps read stands _ ih =>
    obtain ⟨n, rfl⟩ := Nat.exists_eq_succ_of_ne_zero (Nat.ne_of_gt (Nat.zero_lt_of_lt bound))
    have behind : Behind ts ts' := behind_markup framed read
    have bound' : ts'.length < n :=
      Nat.lt_of_le_of_lt behind.suffix.length_le (Nat.lt_of_succ_lt_succ bound)
    have runs : Parse.statements r (n + 1) b (t :: ts) =
        Parse.applyMarkup r b m >>= fun b' => Parse.statements r n b' ts' := by
      rw [Parse.statements, next?, ok_bind]
      dsimp only
      rw [statement_eq, read, ok_bind]
      cases Parse.applyMarkup r b m <;> rfl
    rw [runs]
    cases p with
    | none =>
      have nothing : Parse.applyMarkup r b m = .ok b := applyMarkup_of_none stands
      rw [nothing]
      exact ih behind.framed bound' h
    | some p =>
      have follows := h.applyMarkup unambiguous stands
      rw [Follows] at follows
      split at follows
      · next es' advance =>
        obtain ⟨b', applied, keeps, written⟩ := follows
        rw [applied]
        exact (ih behind.framed bound' keeps).cons advance written
      · next advance =>
        obtain ⟨f, failed⟩ := follows
        rw [failed]
        exact .of_none advance

end Builder.Keeps

/-- The parser takes the sources in which the tags are well nested, and no others, and the
statements are written out as the texts and the tags are. With two stacks it does the same, and
never panics. -/
theorem template_wellNested (l : Language) (name : Option String) (source : String) :
    Stacks.template l name source = Stacks.lift (Parse.template l name source) ∧
      (∀ p, Stacks.template l name source ≠ .error (.panicked p)) ∧
      (l.Unambiguous → ∀ ps, Parse.ConsistsOf l name source ps →
        ((∃ body, Parse.template l name source = .ok body) ↔ WellNested ps) ∧
          ∀ body, Parse.template l name source = .ok body → flattenAll body = expand ps []) := by
  have agree := Stacks.template_eq l name source
  refine ⟨agree, fun p panics => ?_, fun unambiguous ps consists => ?_⟩
  · rw [agree] at panics
    exact Stacks.lift_ne_panicked _ p panics
  · have finishes : Finishes .empty [] ps (Parse.template l name source) :=
      Builder.Keeps.statements consists unambiguous (framed_lex l.delimiters source)
        (Nat.lt_succ_self _) ⟨.nil, List.forall_mem_nil _⟩
    rw [Finishes] at finishes
    split at finishes
    · next nested =>
      obtain ⟨body, parsed, written⟩ := finishes
      refine ⟨⟨fun _ => nested, fun _ => ⟨body, parsed⟩⟩, fun body' parsed' => ?_⟩
      cases parsed.symm.trans parsed'
      exact written
    · next unnested =>
      obtain ⟨f, failed⟩ := finishes
      refine ⟨⟨fun ⟨body, parsed⟩ => ?_, fun nested => absurd nested unnested⟩,
        fun body parsed => ?_⟩
      · cases failed.symm.trans parsed
      · cases failed.symm.trans parsed

/-- An `else if` in a block of a directive. -/
theorem template_wellNested_box :
    let tag : Compile := fun _ => .ok (.bare (pure .next))
    let l : Language := ⟨.standard, [("box", .paired tag tag)]⟩
    let source :=
      "\x7b% box %\x7d\x7b% if a %\x7dx\x7b% else if b %\x7d\x7b% endif %\x7d\x7b% endbox %\x7d"
    let a : Expr := .variable ⟨"a", ⟨15, 16⟩⟩ []
    let b : Expr := .variable ⟨"b", ⟨31, 32⟩⟩ []
    l.Unambiguous ∧ ∃ start stop : Directive,
      Parse.ConsistsOf l (some "page") source [.start start, .ifTag false a, .stmt (.raw ⟨19, 20⟩),
        .elseIfTag false b, .endifTag, .stop stop] ∧
      ∃ body, Parse.template l (some "page") source = .ok body ∧
        flattenAll body = [.start start, .ifTag false a, .stmt (.raw ⟨19, 20⟩), .elseTag,
          .ifTag false b, .endifTag, .endifTag, .stop stop] := by
  intro tag l source a b
  have unambiguous : l.Unambiguous := by
    intro name definition registered _
    rw [Dict.get?_cons] at registered
    split at registered
    · next same =>
      subst same
      rfl
    · cases registered
  let start : Directive :=
    ⟨⟨⟨"box", ⟨3, 6⟩⟩, .none, ⟨"page", 1, 7⟩, ⟨0, 9⟩⟩, fun _ => pure .next⟩
  let stop : Directive :=
    ⟨⟨⟨"endbox", ⟨49, 55⟩⟩, .none, ⟨"page", 1, 56⟩, ⟨46, 58⟩⟩, fun _ => pure .next⟩
  have consists : Parse.ConsistsOf l (some "page")
      "\x7b% box %\x7d\x7b% if a %\x7dx\x7b% else if b %\x7d\x7b% endif %\x7d\x7b% endbox %\x7d"
      [.start start, .ifTag false a, .stmt (.raw ⟨19, 20⟩), .elseIfTag false b, .endifTag,
        .stop stop] := by
    let r : Parse.Reader := ⟨⟨source, none⟩, l, "page"⟩
    have started : Parse.occurrence r ⟨6, 6⟩ = .ok ⟨"", ⟨6, 6⟩, start.origin⟩ := by
      simp only [Parse.occurrence, r, source]
      rfl
    have stopped : Parse.occurrence r ⟨55, 55⟩ = .ok ⟨"", ⟨55, 55⟩, stop.origin⟩ := by
      simp only [Parse.occurrence, r, source]
      rfl
    show Parse.Consists r [
      ⟨.opening .block, ⟨0, 2⟩, "\x7b%"⟩, ⟨.identifier, ⟨3, 6⟩, "box"⟩,
        ⟨.closing .block, ⟨7, 9⟩, "%\x7d"⟩,
      ⟨.opening .block, ⟨9, 11⟩, "\x7b%"⟩, ⟨.keyword, ⟨12, 14⟩, "if"⟩,
        ⟨.identifier, ⟨15, 16⟩, "a"⟩, ⟨.closing .block, ⟨17, 19⟩, "%\x7d"⟩,
      ⟨.raw, ⟨19, 20⟩, "x"⟩,
      ⟨.opening .block, ⟨20, 22⟩, "\x7b%"⟩, ⟨.keyword, ⟨23, 27⟩, "else"⟩,
        ⟨.keyword, ⟨28, 30⟩, "if"⟩, ⟨.identifier, ⟨31, 32⟩, "b"⟩,
        ⟨.closing .block, ⟨33, 35⟩, "%\x7d"⟩,
      ⟨.opening .block, ⟨35, 37⟩, "\x7b%"⟩, ⟨.keyword, ⟨38, 43⟩, "endif"⟩,
        ⟨.closing .block, ⟨44, 46⟩, "%\x7d"⟩,
      ⟨.opening .block, ⟨46, 48⟩, "\x7b%"⟩, ⟨.identifier, ⟨49, 55⟩, "endbox"⟩,
        ⟨.closing .block, ⟨56, 58⟩, "%\x7d"⟩] _
    refine .cons (m := .directive ⟨"box", ⟨3, 6⟩⟩ ⟨6, 6⟩ ⟨0, 9⟩) (p := some (.start start)) rfl
      ?_ ?_
    · show (Parse.occurrence r ⟨6, 6⟩ >>= _).map some = _
      rw [started]
      rfl
    refine .cons (m := .block (.ifTag false a) ⟨9, 19⟩) (p := some _) (by cbv) rfl ?_
    refine .cons (m := .raw ⟨19, 20⟩) (p := some _) rfl rfl ?_
    refine .cons (m := .block (.elseIfTag false b) ⟨20, 35⟩) (p := some _) (by cbv) rfl ?_
    refine .cons (m := .block .endifTag ⟨35, 46⟩) (p := some _) rfl rfl ?_
    refine .cons (m := .directive ⟨"endbox", ⟨49, 55⟩⟩ ⟨55, 55⟩ ⟨46, 58⟩) (p := some (.stop stop))
      rfl ?_ ?_
    · show (Parse.occurrence r ⟨55, 55⟩ >>= _).map some = _
      rw [stopped]
      rfl
    exact .nil rfl
  have nests := (template_wellNested l (some "page") source).2.2 unambiguous _ consists
  obtain ⟨body, parsed⟩ := nests.1.2 rfl
  exact ⟨unambiguous, start, stop, consists, body, parsed, nests.2 body parsed⟩

end Stencil
