import Stencil.Markdown.CommonMark

/-!
# The headings of a document

The headings of a document come from its lines. They carry attributes only where these are read.

- `Block.headings`, `Block.texts`: the headings and the texts in blocks.
- `Heading.Known`: where headings may carry attributes.
- `Outline.Keeps`: no heading is added.
- `Outline.known_ofLines`: the headings of some lines are known.
-/

namespace Stencil.Markdown

/-! ## Blocks -/

namespace Block

variable {α β : Type}

mutual

/-- What the headings in a block carry. -/
def headings : Block α → List Attributes
  | .heading _ attributes _ => [attributes]
  | .quote body => headingsAll body
  | .list _ _ items => headingsItems items
  | .footnote _ body => headingsAll body
  | .paragraph _ _ => []
  | .rule => []
  | .code _ _ => []
  | .html _ => []
  | .table _ _ _ => []

/-- What the headings in some blocks carry. -/
def headingsAll : List (Block α) → List Attributes
  | [] => []
  | b :: bs => headings b ++ headingsAll bs

/-- What the headings in some items carry. -/
def headingsItems : List (List (Block α)) → List Attributes
  | [] => []
  | item :: items => headingsAll item ++ headingsItems items

end

mutual

/-- The texts in a block. -/
def texts : Block α → List α
  | .paragraph _ text => [text]
  | .heading _ _ text => [text]
  | .quote body => textsAll body
  | .list _ _ items => textsItems items
  | .table _ head rows => head ++ rows.flatten
  | .footnote _ body => textsAll body
  | .rule => []
  | .code _ _ => []
  | .html _ => []

/-- The texts in some blocks. -/
def textsAll : List (Block α) → List α
  | [] => []
  | b :: bs => texts b ++ textsAll bs

/-- The texts in some items. -/
def textsItems : List (List (Block α)) → List α
  | [] => []
  | item :: items => textsAll item ++ textsItems items

end

@[simp] theorem mem_headingsAll {a : Attributes} {bs : List (Block α)} :
    a ∈ headingsAll bs ↔ ∃ b ∈ bs, a ∈ b.headings := by
  induction bs with
  | nil => simp [headingsAll]
  | cons b bs ih => simp [headingsAll, ih]

@[simp] theorem mem_headingsItems {a : Attributes} {items : List (List (Block α))} :
    a ∈ headingsItems items ↔ ∃ item ∈ items, a ∈ headingsAll item := by
  induction items with
  | nil => simp [headingsItems]
  | cons item items ih => simp [headingsItems, ih]

mutual

theorem headings_map (f : α → β) : ∀ b : Block α, (b.map f).headings = b.headings
  | .heading _ _ _ => rfl
  | .quote body => headingsAll_mapAll f body
  | .list _ _ items => headingsItems_mapItems f items
  | .footnote _ body => headingsAll_mapAll f body
  | .paragraph _ _ => rfl
  | .rule => rfl
  | .code _ _ => rfl
  | .html _ => rfl
  | .table _ _ _ => rfl

theorem headingsAll_mapAll (f : α → β) :
    ∀ bs : List (Block α), headingsAll (mapAll f bs) = headingsAll bs
  | [] => rfl
  | b :: bs => by rw [mapAll, headingsAll, headingsAll, headings_map f b, headingsAll_mapAll f bs]

theorem headingsItems_mapItems (f : α → β) :
    ∀ items : List (List (Block α)), headingsItems (mapItems f items) = headingsItems items
  | [] => rfl
  | item :: items => by
    rw [mapItems, headingsItems, headingsItems, headingsAll_mapAll f item,
      headingsItems_mapItems f items]

end

mutual

theorem texts_map (f : α → β) : ∀ b : Block α, (b.map f).texts = b.texts.map f
  | .paragraph _ _ => rfl
  | .heading _ _ _ => rfl
  | .quote body => textsAll_mapAll f body
  | .list _ _ items => textsItems_mapItems f items
  | .table _ head rows => by simp only [Block.map, texts, List.map_append, List.map_flatten]
  | .footnote _ body => textsAll_mapAll f body
  | .rule => rfl
  | .code _ _ => rfl
  | .html _ => rfl

theorem textsAll_mapAll (f : α → β) :
    ∀ bs : List (Block α), textsAll (mapAll f bs) = (textsAll bs).map f
  | [] => rfl
  | b :: bs => by
    rw [mapAll, textsAll, textsAll, List.map_append, texts_map f b, textsAll_mapAll f bs]

theorem textsItems_mapItems (f : α → β) :
    ∀ items : List (List (Block α)), textsItems (mapItems f items) = (textsItems items).map f
  | [] => rfl
  | item :: items => by
    rw [mapItems, textsItems, textsItems, List.map_append, textsAll_mapAll f item,
      textsItems_mapItems f items]

end

end Block

/-! ## Headings -/

/-- A heading carries nothing unless attributes are read. -/
def Heading.Known (x : Extensions) (a : Attributes) : Prop :=
  x.headingAttributes = false → a = .none

/-- What the headings in an open container carry. -/
def Frame.headings : Frame → List Attributes
  | .quote before => Block.headingsAll before
  | .footnote _ before => Block.headingsAll before
  | .list _ _ items before => Block.headingsItems items ++ Block.headingsAll before
  | .item _ => []

namespace Outline

/-- What the headings carry that have been read. -/
def headings (o : Outline) : List Attributes :=
  Block.headingsAll o.children ++ o.frames.flatMap Frame.headings

/-- No heading is added. -/
structure Keeps (o o' : Outline) : Prop where
  extensions : o'.extensions = o.extensions
  headings : o'.headings ⊆ o.headings

variable {o o' o'' : Outline}

theorem Keeps.refl (o : Outline) : o.Keeps o := ⟨rfl, fun _ h => h⟩

theorem Keeps.trans (h : o.Keeps o') (h' : o'.Keeps o'') : o.Keeps o'' :=
  ⟨h'.extensions.trans h.extensions, fun _ mem => h.headings (h'.headings mem)⟩

/-- What is not in the containers and blocks does not matter. -/
theorem keeps_of_same (extensions : o'.extensions = o.extensions) (frames : o'.frames = o.frames)
    (children : o'.children = o.children) : o.Keeps o' := by
  refine ⟨extensions, fun h mem => ?_⟩
  rw [headings, frames, children] at mem
  exact mem

theorem keeps_push {b : RawBlock} (none : b.headings = []) : o.Keeps (o.push b) := by
  refine ⟨rfl, fun h mem => ?_⟩
  simpa [headings, push, Block.headingsAll, none] using mem

theorem keeps_closeLeaf (o : Outline) : o.Keeps o.closeLeaf := by
  have without : o.Keeps { o with leaf := none } := keeps_of_same rfl rfl rfl
  unfold closeLeaf
  split
  · exact without
  · next task lines _ =>
    have defined : o.Keeps (define { o with leaf := none } lines).1 := keeps_of_same rfl rfl rfl
    dsimp only
    split
    · exact defined
    · exact defined.trans (keeps_push rfl)
  · exact without.trans (keeps_push rfl)
  · exact without.trans (keeps_push rfl)
  · exact without.trans (keeps_push rfl)
  · exact without.trans (keeps_push rfl)

theorem keeps_closeFrame (o : Outline) : o.Keeps o.closeFrame := by
  unfold closeFrame
  split
  · exact .refl o
  all_goals
    next frames =>
      refine ⟨rfl, fun h mem => ?_⟩
      simp only [headings, frames] at mem ⊢
      simp_all [Frame.headings, Block.headingsAll, Block.headings, Block.headingsItems]

theorem keeps_closeTo (n : Nat) (o : Outline) : o.Keeps (o.closeTo n) := by
  have closed (ns : List Nat) : ∀ o : Outline,
      o.Keeps (ns.foldl (fun o _ => o.closeFrame) o) := by
    induction ns with
    | nil => exact .refl
    | cons _ ns ih => exact fun o => (keeps_closeFrame o).trans (ih _)
  exact closed _ o

theorem keeps_closeList (o : Outline) : o.Keeps o.closeList := by
  unfold closeList
  split
  · exact keeps_closeFrame o
  · exact .refl o

theorem keeps_loosen (o : Outline) : o.Keeps o.loosen := by
  unfold loosen
  split
  · next frames =>
    refine ⟨rfl, fun h mem => ?_⟩
    simpa [headings, frames, Frame.headings] using mem
  · exact .refl o

theorem keeps_beginBlock (o : Outline) : o.Keeps o.beginBlock :=
  (keeps_closeList o).trans (keeps_loosen _)

/-- A container is opened behind the blocks before it. -/
theorem keeps_open {f : Frame} (fs : List Frame) (frames : o'.frames = f :: fs ++ o.frames)
    (extensions : o'.extensions = o.extensions) (children : o'.children = [])
    (before : (f :: fs).flatMap Frame.headings = Block.headingsAll o.children) : o.Keeps o' := by
  refine ⟨extensions, fun h mem => ?_⟩
  rw [headings, frames, children, List.flatMap_append, before] at mem
  exact mem

theorem keeps_openItem (o : Outline) (kind : ListKind) (width : Nat) :
    o.Keeps (o.openItem kind width) := by
  have begun : o.Keeps { o.beginBlock with
      frames := .item width :: .list kind false [] o.beginBlock.children :: o.beginBlock.frames
      children := [] } :=
    (keeps_beginBlock o).trans (keeps_open [.list kind false [] o.beginBlock.children] rfl rfl rfl
      (by simp [Frame.headings, Block.headingsItems]))
  unfold openItem
  split
  · next frames =>
    split
    · refine ⟨rfl, fun h mem => ?_⟩
      simpa [headings, frames, Frame.headings] using mem
    · exact begun
  · exact begun

theorem keeps_addText (o : Outline) (l : Line) : o.Keeps (o.addText l) := by
  unfold addText
  dsimp only
  split
  · exact keeps_of_same rfl rfl rfl
  · exact keeps_of_same rfl rfl rfl
  · exact (keeps_beginBlock o).trans (keeps_of_same rfl rfl rfl)

theorem keeps_beginLeaf (o : Outline) (leaf : Leaf) : o.Keeps (o.beginLeaf leaf) :=
  (keeps_beginBlock o).trans (keeps_of_same rfl rfl rfl)

theorem keeps_addHtml (o : Outline) (stop : Tag.BlockEnd) (lines : List (List Char)) (l : Line) :
    o.Keeps (o.addHtml stop lines l) := by
  have added : o.Keeps { o with leaf := some (.html stop (l.fullText :: lines)), blank := false } :=
    keeps_of_same rfl rfl rfl
  unfold addHtml
  dsimp only
  split
  · exact added.trans (keeps_closeLeaf _)
  · exact added

theorem keeps_addBlank (depth : Nat) (o : Outline) : o.Keeps (o.addBlank depth) :=
  ((keeps_closeLeaf o).trans (keeps_closeTo depth _)).trans (keeps_of_same rfl rfl rfl)

/-- The headings that have been read are known. -/
structure Known (x : Extensions) (o : Outline) : Prop where
  extensions : o.extensions = x
  headings : ∀ a ∈ o.headings, Heading.Known x a

variable {x : Extensions}

theorem Known.mono (known : Known x o) (keeps : o.Keeps o') : Known x o' :=
  ⟨keeps.extensions.trans known.extensions,
    fun a mem => known.headings a (keeps.headings mem)⟩

/-- A heading is added. -/
theorem Known.addHeading (known : Known x o) {b : RawBlock} {a : Attributes}
    (block : b.headings = [a]) (heading : Heading.Known x a) : Known x (o.addBlock b) := by
  have begun := known.mono (keeps_beginBlock o)
  refine ⟨begun.extensions, fun a' mem => ?_⟩
  have split : a' = a ∨ a' ∈ o.beginBlock.headings := by
    simpa [Outline.headings, addBlock, push, Block.headingsAll, block, or_assoc] using mem
  rcases split with rfl | mem
  · exact heading
  · exact begun.headings a' mem

theorem headings_headingBlock (known : Known x o) (level : Level) (text : List Char) :
    ∃ a, (o.headingBlock level text).headings = [a] ∧ Heading.Known x a := by
  unfold headingBlock
  split
  · next read => exact ⟨_, rfl, fun none => by simp [known.extensions, none] at read⟩
  · exact ⟨_, rfl, fun _ => rfl⟩

theorem headings_underlinedBlock (known : Known x o) (level : Level) (text : List Char) :
    ∃ a, (o.underlinedBlock level text).headings = [a] ∧ Heading.Known x a := by
  unfold underlinedBlock
  split
  · next read => exact ⟨_, rfl, fun none => by simp [known.extensions, none] at read⟩
  · exact ⟨_, rfl, fun _ => rfl⟩

/-- Reading what is left of a line adds known headings only. -/
theorem Known.addRest (n : Nat) : ∀ (depth : Nat) (attached : Bool) (l : Line) {o : Outline},
    Known x o → Known x (addRest n depth attached l o) := by
  induction n with
  | zero => exact fun depth attached l o known => known.mono (keeps_addText o l)
  | succ n ih =>
    intro depth attached l o known
    have closed := (known.mono (keeps_closeLeaf o)).mono (keeps_closeTo depth _)
    unfold Outline.addRest
    split
    · exact known.mono (keeps_of_same rfl rfl rfl)
    · dsimp only
      split
      · split
        · exact known.mono (keeps_addText o l)
        · exact closed.mono (keeps_beginLeaf _ _)
      · split
        · split
          · exact known.mono (keeps_addText o l)
          · exact (known.mono (keeps_closeTo depth o)).mono (keeps_addText _ l)
        · next p _ =>
          have begun := closed.mono (keeps_beginBlock _)
          split
          · exact ih _ _ _ (begun.mono (keeps_open [] rfl rfl rfl (by simp [Frame.headings])))
          · exact ih _ _ _ (begun.mono (keeps_open [] rfl rfl rfl (by simp [Frame.headings])))
          · refine ih _ _ _ ?_
            exact (closed.mono (keeps_openItem _ _ _)).mono (keeps_of_same rfl rfl rfl)
          · next level text _ =>
            obtain ⟨a, block, heading⟩ := headings_headingBlock closed level text
            exact closed.addHeading block heading
          · exact closed.mono (keeps_beginLeaf _ _)
          · exact begun.mono (keeps_addHtml _ _ _ _)
          · exact (begun.mono (keeps_push rfl)).mono (keeps_of_same rfl rfl rfl)

theorem Known.addToParagraph (known : Known x o) (depth : Nat) (task : Option Bool)
    (lines : List (List Char)) (l : Line) : Known x (o.addToParagraph depth task lines l) := by
  unfold Outline.addToParagraph
  split
  · dsimp only
    refine Known.mono ?_ (keeps_beginLeaf _ _)
    split
    · exact known.mono (keeps_of_same rfl rfl rfl)
    · next before _ _ =>
      have shortened : o.Keeps { o with leaf := some (.paragraph task before) } :=
        keeps_of_same rfl rfl rfl
      exact known.mono (shortened.trans (keeps_closeLeaf _))
  · split
    · next level _ =>
      have defined : Known x (define { o with leaf := none } lines).1 :=
        known.mono (keeps_of_same rfl rfl rfl)
      dsimp only
      split
      · exact defined.mono (keeps_of_same rfl rfl rfl)
      · obtain ⟨a, block, heading⟩ := headings_underlinedBlock defined level _
        exact defined.addHeading block heading
    · exact known.addRest _ _ _ _

theorem Known.addLine (known : Known x o) (l : Line) : Known x (o.addLine l) := by
  have left (o' : Outline) (keeps : o.Keeps o') (depth : Nat) (attached : Bool) (rest : Line) :
      Known x (Outline.addRest (rest.chars.length + 1) depth attached rest o') :=
    (known.mono keeps).addRest _ _ _ _
  have blank (depth : Nat) : Known x (o.addBlank depth) := known.mono (keeps_addBlank depth o)
  unfold Outline.addLine
  dsimp only
  split
  · split
    · split
      · exact (known.mono (keeps_closeLeaf o)).mono (keeps_of_same rfl rfl rfl)
      · exact known.mono (keeps_of_same rfl rfl rfl)
    · split
      · exact blank _
      · exact known.mono (keeps_addHtml _ _ _ _)
    · split
      · exact known.mono (keeps_of_same rfl rfl rfl)
      · split
        · exact known.mono (keeps_of_same rfl rfl rfl)
        · exact left _ (keeps_closeLeaf o) _ _ _
    · split
      · exact blank _
      · exact known.addToParagraph _ _ _ _
    · split
      · exact blank _
      · exact left _ (.refl o) _ _ _
  · split
    · exact blank _
    · split
      · exact left _ (.refl o) _ _ _
      · exact left _ (keeps_closeLeaf o) _ _ _

/-- The headings of some lines are known. -/
theorem known_ofLines (x : Extensions) (ls : List Line) : Known x (ofLines x ls) := by
  have read : ∀ (ls : List Line) {o : Outline}, Known x o →
      Known x (ls.foldl Outline.addLine o) := by
    intro ls
    induction ls with
    | nil => exact fun known => known
    | cons l ls ih => exact fun known => ih (known.addLine l)
  have begun : Known x (empty x) := ⟨rfl, nofun⟩
  exact ((read ls begun).mono (keeps_closeLeaf _)).mono (keeps_closeTo 0 _)

end Outline

end Stencil.Markdown
