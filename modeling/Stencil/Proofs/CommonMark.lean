import Stencil.Proofs.Headings
import Stencil.Proofs.MailLinks

/-!
# The library of a program

The library that a program runs with has the properties that results about markdown ask for.

- `Inline.balanced_events`, `Block.balanced_events`: elements are nested.
- `Inline.regular_events`, `Block.regular_events`: what headings carry, and where links to
  electronic mail lead.
- `Writer.written_run`: a writer writes what events stand for.
- `commonMark_balances`, `commonMark_readsAttributes`, `commonMark_readsMail`,
  `commonMark_writesHtml`: the properties.
-/

namespace Stencil.Markdown

/-! ## Nesting -/

namespace Inline

mutual

/-- The events of an element are balanced. -/
theorem balanced_events : ∀ i : Inline, Balanced i.events
  | .text _ => .one rfl
  | .code _ => .one rfl
  | .html _ => .one rfl
  | .softBreak => .one rfl
  | .hardBreak => .one rfl
  | .emphasis body => .around _ (balanced_eventsAll body)
  | .strong body => .around _ (balanced_eventsAll body)
  | .strike body => .around _ (balanced_eventsAll body)
  | .link _ _ body => .around _ (balanced_eventsAll body)
  | .image _ _ body => .around _ (balanced_eventsAll body)
  | .footnote _ => .one rfl

/-- The events of some elements are balanced. -/
theorem balanced_eventsAll : ∀ is : List Inline, Balanced (eventsAll is)
  | [] => .nil
  | i :: is => (balanced_events i).append (balanced_eventsAll is)

end

end Inline

namespace Block

open Inline (balanced_eventsAll)

theorem balanced_rowEvents (row : Element) (cells : List (List Inline)) :
    Balanced (rowEvents row cells) :=
  .around _ (.flatMap fun cell _ => .around _ (Inline.balanced_eventsAll cell))

mutual

/-- The events of a block are balanced. -/
theorem balanced_events : ∀ (tight : Bool) (b : Block (List Inline)), Balanced (b.events tight)
  | tight, .paragraph task text => by
    have inner : Balanced (task.toList.map Event.task ++ Inline.eventsAll text) := by
      refine .append ?_ (Inline.balanced_eventsAll text)
      cases task with
      | none => exact .nil
      | some isTicked => exact .one rfl
    rw [events]
    split
    · exact inner
    · exact .around _ inner
  | _, .heading _ _ text => .around _ (Inline.balanced_eventsAll text)
  | _, .rule => .one rfl
  | _, .code _ _ => .around _ (.one rfl)
  | _, .html _ => .around _ (.one rfl)
  | _, .quote body => .around _ (balanced_eventsAll false body)
  | _, .list _ tight items => .around _ (balanced_eventsItems tight items)
  | _, .table _ head rows =>
    .around _ ((balanced_rowEvents _ head).append
      (.flatMap fun cells _ => balanced_rowEvents _ cells))
  | _, .footnote _ body => .around _ (balanced_eventsAll false body)

/-- The events of some blocks are balanced. -/
theorem balanced_eventsAll : ∀ (tight : Bool) (bs : List (Block (List Inline))),
    Balanced (eventsAll tight bs)
  | _, [] => .nil
  | tight, b :: bs => (balanced_events tight b).append (balanced_eventsAll tight bs)

/-- The events of some items are balanced. -/
theorem balanced_eventsItems : ∀ (tight : Bool) (items : List (List (Block (List Inline)))),
    Balanced (eventsItems tight items)
  | _, [] => .nil
  | tight, item :: items =>
    (Balanced.around _ (balanced_eventsAll tight item)).append (balanced_eventsItems tight items)

end

end Block

theorem commonMark_balances : commonMark.Balances :=
  fun x text => Block.balanced_eventsAll false (CommonMark.read text x)

/-! ## Headings and mail -/

/-- A heading carries nothing unless attributes are read, and a link to electronic mail leads to an
address. -/
def Event.Regular (x : Extensions) : Event → Prop
  | .start (.heading _ a) => Heading.Known x a
  | .start (.link .email t) => IsAddress t.url
  | _ => True

/-- Some events are regular. -/
def RegularAll (x : Extensions) (es : List Event) : Prop := ∀ e ∈ es, e.Regular x

namespace RegularAll

variable {x : Extensions} {es es' : List Event} {e : Event}

theorem nil : RegularAll x [] := List.forall_mem_nil _

theorem one (h : e.Regular x) : RegularAll x [e] := List.forall_mem_singleton.2 h

theorem append (h : RegularAll x es) (h' : RegularAll x es') : RegularAll x (es ++ es') :=
  List.forall_mem_append.2 ⟨h, h'⟩

theorem flatMap {α : Type} {f : α → List Event} {as : List α} (h : ∀ a ∈ as, RegularAll x (f a)) :
    RegularAll x (as.flatMap f) := by
  intro e mem
  obtain ⟨a, inside, mem⟩ := List.mem_flatMap.1 mem
  exact h a inside e mem

theorem around {y : Element} (start : (Event.start y).Regular x) (within : RegularAll x es) :
    RegularAll x (y.around es) :=
  append (List.forall_mem_cons.2 ⟨start, within⟩) (one trivial)

end RegularAll

open RegularAll

namespace Inline

variable {x : Extensions}

mutual

/-- The events of an element are regular if its addresses of electronic mail are such. -/
theorem regular_events : ∀ i : Inline, (∀ address ∈ i.mails, IsAddress address) →
    RegularAll x i.events
  | .text _, _ => one trivial
  | .code _, _ => one trivial
  | .html _, _ => one trivial
  | .softBreak, _ => one trivial
  | .hardBreak, _ => one trivial
  | .emphasis body, h => around trivial (regular_eventsAll body h)
  | .strong body, h => around trivial (regular_eventsAll body h)
  | .strike body, h => around trivial (regular_eventsAll body h)
  | .link kind t body, h => by
    rw [mails, List.forall_mem_append] at h
    refine around ?_ (regular_eventsAll body h.2)
    cases kind with
    | email => exact h.1 t.url (List.mem_singleton.2 rfl)
    | _ => exact trivial
  | .image _ _ body, h => around trivial (regular_eventsAll body h)
  | .footnote _, _ => one trivial

/-- The events of some elements are regular if their addresses of electronic mail are such. -/
theorem regular_eventsAll : ∀ is : List Inline, (∀ address ∈ mailsAll is, IsAddress address) →
    RegularAll x (eventsAll is)
  | [], _ => nil
  | i :: is, h => by
    rw [mailsAll, List.forall_mem_append] at h
    exact (regular_events i h.1).append (regular_eventsAll is h.2)

end

end Inline

namespace Block

variable {x : Extensions}

/-- The headings and the addresses of electronic mail among some parts of a document are such. -/
structure Regular (x : Extensions) (headings : List Attributes) (texts : List (List Inline)) :
    Prop where
  headings : ∀ a ∈ headings, Heading.Known x a
  mails : ∀ is ∈ texts, ∀ address ∈ Inline.mailsAll is, IsAddress address

theorem regular_append {as as' : List Attributes} {is is' : List (List Inline)} :
    Regular x (as ++ as') (is ++ is') ↔ Regular x as is ∧ Regular x as' is' := by
  constructor
  · rintro ⟨headings, mails⟩
    rw [List.forall_mem_append] at headings mails
    exact ⟨⟨headings.1, mails.1⟩, headings.2, mails.2⟩
  · rintro ⟨⟨headings, mails⟩, headings', mails'⟩
    exact ⟨List.forall_mem_append.2 ⟨headings, headings'⟩, List.forall_mem_append.2 ⟨mails, mails'⟩⟩

theorem regular_rowEvents (row : Element) (start : (Event.start row).Regular x)
    {cells : List (List Inline)}
    (h : ∀ cell ∈ cells, ∀ address ∈ Inline.mailsAll cell, IsAddress address) :
    RegularAll x (rowEvents row cells) :=
  around start (flatMap fun cell mem => around trivial (Inline.regular_eventsAll cell (h cell mem)))

mutual

/-- The events of a block are regular. -/
theorem regular_events : ∀ (tight : Bool) (b : Block (List Inline)),
    Regular x b.headings b.texts → RegularAll x (b.events tight)
  | tight, .paragraph task text, h => by
    have inner : RegularAll x (task.toList.map Event.task ++ Inline.eventsAll text) := by
      refine append ?_ (Inline.regular_eventsAll text (h.mails text List.mem_cons_self))
      cases task with
      | none => exact nil
      | some isTicked => exact one trivial
    rw [events]
    split
    · exact inner
    · exact around trivial inner
  | _, .heading level a text, h =>
    around (h.headings a List.mem_cons_self)
      (Inline.regular_eventsAll text (h.mails text List.mem_cons_self))
  | _, .rule, _ => one trivial
  | _, .code _ _, _ => around trivial (one trivial)
  | _, .html _, _ => around trivial (one trivial)
  | _, .quote body, h => around trivial (regular_eventsAll false body ⟨h.headings, h.mails⟩)
  | _, .list _ tight items, h =>
    around trivial (regular_eventsItems tight items ⟨h.headings, h.mails⟩)
  | _, .table _ head rows, h => by
    have cells := List.forall_mem_append.1 h.mails
    refine around trivial ((regular_rowEvents .tableHead trivial cells.1).append
      (flatMap fun row mem => ?_))
    exact regular_rowEvents .tableRow trivial fun cell inside =>
      cells.2 cell (List.mem_flatten_of_mem mem inside)
  | _, .footnote _ body, h => around trivial (regular_eventsAll false body ⟨h.headings, h.mails⟩)

/-- The events of some blocks are regular. -/
theorem regular_eventsAll : ∀ (tight : Bool) (bs : List (Block (List Inline))),
    Regular x (headingsAll bs) (textsAll bs) → RegularAll x (eventsAll tight bs)
  | _, [], _ => nil
  | tight, b :: bs, h =>
    (regular_events tight b (regular_append.1 h).1).append
      (regular_eventsAll tight bs (regular_append.1 h).2)

/-- The events of some items are regular. -/
theorem regular_eventsItems : ∀ (tight : Bool) (items : List (List (Block (List Inline)))),
    Regular x (headingsItems items) (textsItems items) → RegularAll x (eventsItems tight items)
  | _, [], _ => nil
  | tight, item :: items, h =>
    (around (y := .item) trivial (regular_eventsAll tight item (regular_append.1 h).1)).append
      (regular_eventsItems tight items (regular_append.1 h).2)

end

end Block

/-- The headings and the addresses of electronic mail in a text are such. -/
theorem CommonMark.regular_read (text : String) (x : Extensions) :
    Block.Regular x (Block.headingsAll (read text x)) (Block.textsAll (read text x)) := by
  unfold read
  dsimp only
  refine ⟨fun a mem => ?_, fun is mem => ?_⟩
  · rw [Block.headingsAll_mapAll, Block.mem_headingsAll] at mem
    obtain ⟨b, inside, mem⟩ := mem
    have known := Outline.known_ofLines x
      (lines (text.toList.map fun c => if c = '\x00' then '\ufffd' else c))
    exact known.headings a (List.mem_append_left _
      (Block.mem_headingsAll.2 ⟨b, List.mem_reverse.1 inside, mem⟩))
  · rw [Block.textsAll_mapAll] at mem
    obtain ⟨cs, -, rfl⟩ := List.mem_map.1 mem
    exact Inline.isAddress_ofText _ cs

theorem regular_commonMark (x : Extensions) (text : String) :
    RegularAll x (commonMark.events x text) :=
  Block.regular_eventsAll false _ (CommonMark.regular_read text x)

theorem commonMark_readsAttributes : commonMark.ReadsAttributes :=
  fun x text _ _ off mem => regular_commonMark x text _ mem off

theorem commonMark_readsMail : commonMark.ReadsMail :=
  fun x text _ mem => regular_commonMark x text _ mem

/-! ## Writers -/

namespace Writer

variable {w : Writer} {e : Event} {i : OpenImage} {t : Target} {alt : List Char} {depth : Nat}
  {es : List Event}

@[simp] theorem mention_image : (w.mention e).image = w.image := by
  unfold mention
  split
  · rfl
  · split <;> rfl

@[simp] theorem move_image : (w.move e).image = w.image := by
  unfold move
  split <;> rfl

/-- An event outside of images is written as its pieces. -/
theorem step_of_closed (closed : w.image = none) (notImage : ∀ kind t, e ≠ .start (.image kind t)) :
    ∃ w' : Writer, w'.image = none ∧
      w.step e = (w'.wrote (w'.pieces e), w'.pieces e) := by
  refine ⟨(w.mention e).move e, by simp [closed], ?_⟩
  unfold step
  split
  · next i opened => cases closed.symm.trans opened
  · next kind t opened => exact absurd rfl (notImage kind t)
  · rfl

/-- An event outside of images is written as what it stands for. -/
theorem written_step (closed : w.image = none) (notImage : ∀ kind t, e ≠ .start (.image kind t))
    (go : ∀ w : Writer, w.image = none → Written es (w.run es)) :
    Written (e :: es) (w.run (e :: es)) := by
  obtain ⟨w', closed', step⟩ := step_of_closed closed notImage
  have rest : Written es ((w'.wrote (w'.pieces e)).run es) := go _ closed'
  rw [run, step]
  generalize (w'.wrote (w'.pieces e)).run es = ms at rest
  have behind : Written es ((if e.endsLine then [.newline] else []) ++ ms) := by
    split
    · exact .newline rest
    · exact rest
  have written := Written.event (w'.setting e) notImage behind
  rw [pieces, List.append_assoc, List.append_assoc]
  split
  · exact .newline written
  · exact written

theorem step_of_opened (opened : w.image = some i) (e : Event) : w.step e = w.describe i e := by
  simp only [step, opened]

/-- An event within an image is not written. -/
theorem step_of_leaf (opened : w.image = some i) (isLeaf : e.isLeaf) :
    ∃ w' alt, w.step e = (w', []) ∧ w'.image = some ⟨i.target, alt, i.depth⟩ := by
  refine ⟨(w.mention e).goOn i e i.depth, _, ?_, rfl⟩
  rw [step_of_opened opened]
  cases e with
  | start x => cases isLeaf
  | stop x => cases isLeaf
  | _ => rfl

/-- Elements within an image are not written. -/
theorem run_image (inner : Balanced es) : ∀ (rest : List Event) {w : Writer} {i : OpenImage},
    w.image = some i → ∃ w' : Writer, ∃ alt, w'.image = some ⟨i.target, alt, i.depth⟩ ∧
      w.run (es ++ rest) = w'.run rest := by
  induction inner with
  | nil => exact fun _ w i opened => ⟨w, i.alt, opened, rfl⟩
  | leaf isLeaf _ ih =>
    intro rest w i opened
    obtain ⟨w', alt, step, opened'⟩ := step_of_leaf opened isLeaf
    obtain ⟨w'', alt', opened'', same⟩ := ih rest opened'
    exact ⟨w'', alt', opened'', by rw [List.cons_append, run, step, List.nil_append, same]⟩
  | @element x inner es _ _ ihInner ihRest =>
    intro rest w i opened
    obtain ⟨w₁, alt₁, step₁, opened₁⟩ : ∃ w' alt, w.step (.start x) = (w', []) ∧
        w'.image = some ⟨i.target, alt, i.depth + 1⟩ := by
      refine ⟨(w.mention (.start x)).goOn i (.start x) (i.depth + 1), _, ?_, rfl⟩
      rw [step_of_opened opened]
      rfl
    obtain ⟨w₂, alt₂, opened₂, same₂⟩ := ihInner (.stop x.stop :: (es ++ rest)) opened₁
    obtain ⟨w₃, alt₃, step₃, opened₃⟩ : ∃ w' alt, w₂.step (.stop x.stop) = (w', []) ∧
        w'.image = some ⟨i.target, alt, i.depth⟩ := by
      refine ⟨(w₂.mention (.stop x.stop)).goOn ⟨i.target, alt₂, i.depth + 1⟩ (.stop x.stop) i.depth,
        _, ?_, rfl⟩
      rw [step_of_opened opened₂]
      rfl
    obtain ⟨w₄, alt₄, opened₄, same₄⟩ := ihRest rest opened₃
    refine ⟨w₄, alt₄, opened₄, ?_⟩
    rw [List.append_assoc, List.cons_append, List.cons_append, run, step₁, List.nil_append, same₂,
      run, step₃, List.nil_append, same₄]

/-- A writer writes what events stand for. -/
theorem written_run (balanced : Balanced es) :
    ∀ rest : List Event, (∀ w : Writer, w.image = none → Written rest (w.run rest)) →
      ∀ w : Writer, w.image = none → Written (es ++ rest) (w.run (es ++ rest)) := by
  induction balanced with
  | nil => exact fun _ go => go
  | leaf isLeaf _ ih =>
    intro rest go w closed
    refine written_step closed ?_ (ih rest go)
    rintro kind t rfl
    cases isLeaf
  | @element x inner es within _ ihInner ihRest =>
    intro rest go w closed
    rw [List.append_assoc, List.cons_append, List.cons_append]
    by_cases isImage : ∃ kind t, x = .image kind t
    · obtain ⟨kind, t, rfl⟩ := isImage
      obtain ⟨w', begun, opened⟩ : ∃ w' : Writer, w.step (.start (.image kind t)) = (w', []) ∧
          w'.image = some ⟨t, [], 0⟩ := by
        refine ⟨{ w with image := some ⟨t, [], 0⟩ }, ?_, rfl⟩
        simp only [step, closed]
      obtain ⟨w'', alt, opened', same⟩ := run_image within (.stop .image :: (es ++ rest)) opened
      obtain ⟨w₃, ended, closed₃⟩ : ∃ w' : Writer, w''.step (.stop .image) = (w', [t.image alt]) ∧
          w'.image = none := by
        refine ⟨{ w''.mention (.stop .image) with image := none, atStart := false }, ?_, rfl⟩
        rw [step_of_opened opened']
        rfl
      rw [run, begun, List.nil_append]
      dsimp only [Element.stop]
      rw [same, run, ended]
      exact .image alt within (ihRest rest go w₃ closed₃)
    · have plain : ∀ kind t, Event.start x ≠ .start (.image kind t) :=
        fun kind t same => isImage ⟨kind, t, Event.start.inj same⟩
      refine written_step closed plain (ihInner _ fun w closed => ?_)
      exact written_step closed (fun _ _ => nofun) (ihRest rest go)

end Writer

theorem commonMark_writesHtml : commonMark.WritesHtml := by
  intro es balanced
  refine ⟨Writer.document es, ?_, rfl⟩
  have written := Writer.written_run balanced [] (fun _ _ => .nil) .empty rfl
  rw [List.append_nil] at written
  exact written

end Stencil.Markdown
