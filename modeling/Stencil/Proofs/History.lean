import Stencil.Render.State

/-!
# Histories of cached blocks

The history of a render is read from its start, behind the calls that were made to the store before.

- `Opening`, `Closing`: what happens at the start and at the end of a block whose body is rendered.
- `Word`: a history without an open block, and the text that is written by it.
- `Cut`: a history that has been broken off, the blocks that are open, and how the store has failed.
- `Nested`: the calls of blocks in one another, each group of calls closed by a matching one.
- `Word.nested`, `Cut.nested_append`: the calls of a history are nested, or can be completed so.
- `Word.answered`, `Cut.breaks`: the store fails at the last call of a history, if at all.
-/

namespace Stencil.History

section

variable (store : Option CacheStore) (request : Request)

/-- The start of a block whose body is going to be rendered, with what is to be kept of it. -/
inductive Opening (past : List StoreCall) : List Event → Option Pending → Prop
  /-- The store is not asked, if there is one. -/
  | bypassed (origin : Origin) (o : CacheOptions)
      (hb : ∀ st, store = some st → o.bypasses request = true) :
      Opening past [.started origin o] none
  /-- The text has not been found in the store. -/
  | missed (origin : Origin) (o : CacheOptions) (p : Pending) {st : CacheStore}
      (hp : p = .ofOptions origin o) (hst : store = some st) (hb : o.bypasses request = false)
      (hget : st.get past p.key p.isGlobal = .ok none)
      (hstart : st.start (past ++ [.get p.key p.isGlobal]) p.isGlobal = .ok ()) :
      Opening past
        [.started origin o, .called (.get p.key p.isGlobal), .called (.start p.isGlobal)] (some p)

/-- The end of a block with some text. -/
inductive Closing (past : List StoreCall) : Option Pending → String → List Event → Prop
  | bypassed (body : String) : Closing past none body [.stopped, .wrote body]
  | kept (p : Pending) (body : String) {st : CacheStore} (hst : store = some st)
      (hput : st.put past (p.entry body) = .ok ()) :
      Closing past (some p) body [.stopped, .called (.put (p.entry body)), .wrote body]

/-- A history without an open block, and the text that is written by it. -/
inductive Word : List StoreCall → List Event → String → Prop
  | nil (past : List StoreCall) : Word past [] ""
  | wrote {past : List StoreCall} {w : List Event} {t : String} (text : String)
      (hw : Word past w t) : Word past (.wrote text :: w) (text ++ t)
  /-- The text of a block has been found in the store. -/
  | hit {past : List StoreCall} {w : List Event} {t : String} (origin : Origin)
      (o : CacheOptions) (p : Pending) (found : String) {st : CacheStore}
      (hp : p = .ofOptions origin o) (hst : store = some st) (hb : o.bypasses request = false)
      (hget : st.get past p.key p.isGlobal = .ok (some found))
      (hw : Word (past ++ [.get p.key p.isGlobal]) w t) :
      Word past (.started origin o :: .called (.get p.key p.isGlobal) :: .wrote found :: w)
        (found ++ t)
  /-- The body of a block has been rendered. -/
  | block {past : List StoreCall} {first body last w : List Event} {p : Option Pending}
      {b t : String} (hfirst : Opening store request past first p)
      (hbody : Word (past ++ calls first) body b)
      (hlast : Closing store (past ++ calls first ++ calls body) p b last)
      (hw : Word (past ++ calls first ++ calls body ++ calls last) w t) :
      Word past (first ++ body ++ last ++ w) (b ++ t)

/-- The start of a block at which the store fails. -/
inductive Refused (past : List StoreCall) : List Event → String → Prop
  | get (origin : Origin) (o : CacheOptions) (p : Pending) {st : CacheStore} {text : String}
      (hp : p = .ofOptions origin o) (hst : store = some st) (hb : o.bypasses request = false)
      (hget : st.get past p.key p.isGlobal = .error text) :
      Refused past [.started origin o, .called (.get p.key p.isGlobal)] text
  | start (origin : Origin) (o : CacheOptions) (p : Pending) {st : CacheStore} {text : String}
      (hp : p = .ofOptions origin o) (hst : store = some st) (hb : o.bypasses request = false)
      (hget : st.get past p.key p.isGlobal = .ok none)
      (hstart : st.start (past ++ [.get p.key p.isGlobal]) p.isGlobal = .error text) :
      Refused past
        [.started origin o, .called (.get p.key p.isGlobal), .called (.start p.isGlobal)] text

/-- A history that has been broken off, what is to be kept of the blocks that are open, the
innermost first, and the message with which the store has failed. -/
inductive Cut : List StoreCall → List Event → List (Option Pending) → Option String → Prop
  /-- No block is open, and the store has not failed. -/
  | short {past : List StoreCall} {w : List Event} {t : String}
      (hw : Word store request past w t) : Cut past w [] none
  /-- The store has failed at the start of a block. -/
  | refused {past : List StoreCall} {w v : List Event} {t text : String}
      (hw : Word store request past w t) (hv : Refused store request (past ++ calls w) v text) :
      Cut past (w ++ v) [] (some text)
  /-- A block is open, and nothing has been kept of it. -/
  | inside {past : List StoreCall} {w first v : List Event} {t : String} {p : Option Pending}
      {opened : List (Option Pending)} {failure : Option String}
      (hw : Word store request past w t)
      (hfirst : Opening store request (past ++ calls w) first p)
      (hv : Cut (past ++ calls w ++ calls first) v opened failure) :
      Cut past (w ++ first ++ v) (opened ++ [p]) failure
  /-- The store has failed at the end of a block. -/
  | lost {past : List StoreCall} {w first body : List Event} {t b text : String} {p : Pending}
      {st : CacheStore} (hw : Word store request past w t)
      (hfirst : Opening store request (past ++ calls w) first (some p))
      (hbody : Word store request (past ++ calls w ++ calls first) body b)
      (hst : store = some st)
      (hput : st.put (past ++ calls w ++ calls first ++ calls body) (p.entry b) = .error text) :
      Cut past (w ++ first ++ body ++ [.stopped, .called (.put (p.entry b))]) [] (some text)

end

variable {store : Option CacheStore} {request : Request} {past : List StoreCall}

/-! ## One history behind another -/

theorem Word.single (text : String) : Word store request past [.wrote text] text := by
  have h : Word store request past [.wrote text] (text ++ "") := .wrote text (.nil past)
  rw [String.append_empty] at h
  exact h

theorem Word.append {w v : List Event} {t u : String} (hw : Word store request past w t)
    (hv : Word store request (past ++ calls w) v u) :
    Word store request past (w ++ v) (t ++ u) := by
  -- on the first history; the calls made before move along with it
  induction hw with
  | nil past =>
    rw [calls_nil, List.append_nil] at hv
    rw [String.empty_append]
    exact hv
  | wrote text _ ih =>
    rw [String.append_assoc]
    exact .wrote text (ih hv)
  | hit origin o p found hp hst hb hget _ ih =>
    rw [String.append_assoc]
    refine .hit origin o p found hp hst hb hget (ih ?_)
    rw [List.append_assoc]
    exact hv
  | block hfirst hbody hlast _ _ ih =>
    rw [String.append_assoc, List.append_assoc]
    refine .block hfirst hbody hlast (ih ?_)
    simpa only [calls_append, List.append_assoc] using hv

/-- The history of a block whose text has been found in the store. -/
theorem Word.ofHit (origin : Origin) (o : CacheOptions) (p : Pending) (found : String)
    {st : CacheStore} (hp : p = .ofOptions origin o) (hst : store = some st)
    (hb : o.bypasses request = false) (hget : st.get past p.key p.isGlobal = .ok (some found)) :
    Word store request past
      [.started origin o, .called (.get p.key p.isGlobal), .wrote found] found := by
  have h := Word.hit origin o p found hp hst hb hget (.nil _)
  rw [String.append_empty] at h
  exact h

/-- The history of a block whose body has been rendered. -/
theorem Word.ofBlock {first body last : List Event} {p : Option Pending} {b : String}
    (hfirst : Opening store request past first p)
    (hbody : Word store request (past ++ calls first) body b)
    (hlast : Closing store (past ++ calls first ++ calls body) p b last) :
    Word store request past (first ++ body ++ last) b := by
  have h := Word.block hfirst hbody hlast (.nil _)
  rw [String.append_empty, List.append_nil] at h
  exact h

theorem Cut.after {w v : List Event} {t : String} {opened : List (Option Pending)}
    {failure : Option String} (hw : Word store request past w t)
    (hv : Cut store request (past ++ calls w) v opened failure) :
    Cut store request past (w ++ v) opened failure := by
  cases hv with
  | short hv => exact .short (hw.append hv)
  | refused hw' hv =>
    rw [← List.append_assoc]
    refine .refused (hw.append hw') ?_
    simpa only [calls_append, List.append_assoc] using hv
  | inside hw' hfirst hv =>
    rw [List.append_assoc, ← List.append_assoc, ← List.append_assoc]
    refine .inside (hw.append hw') ?_ ?_
    · simpa only [calls_append, List.append_assoc] using hfirst
    · simpa only [calls_append, List.append_assoc] using hv
  | lost hw' hfirst hbody hst hput =>
    rw [← List.append_assoc, ← List.append_assoc, ← List.append_assoc]
    refine .lost (hw.append hw') ?_ ?_ hst ?_
    · simpa only [calls_append, List.append_assoc] using hfirst
    · simpa only [calls_append, List.append_assoc] using hbody
    · simpa only [calls_append, List.append_assoc] using hput

/-! ## Nested calls -/

/-- The calls of blocks in one another: a call that finds a text stands alone, and behind one that
does not, the calls of the body are closed by one that keeps the text. -/
inductive Nested : List StoreCall → Prop
  | nil : Nested []
  | hit (key : String) (isGlobal : Bool) {w : List StoreCall} (hw : Nested w) :
      Nested (.get key isGlobal :: w)
  | kept (p : Pending) (body : String) {inner w : List StoreCall} (hinner : Nested inner)
      (hw : Nested w) :
      Nested (.get p.key p.isGlobal :: .start p.isGlobal ::
        (inner ++ .put (p.entry body) :: w))

theorem Nested.append {v w : List StoreCall} (hv : Nested v) (hw : Nested w) :
    Nested (v ++ w) := by
  induction hv with
  | nil => exact hw
  -- the second calls go behind the last group of the first ones
  | hit key isGlobal _ ih => exact .hit key isGlobal ih
  | kept p body hinner _ _ ih =>
    simp only [List.cons_append, List.append_assoc]
    exact .kept p body hinner ih

/-- A call that keeps a text closes the calls of the block. -/
theorem Nested.closed {p : Pending} {inner : List StoreCall} (h : Nested inner) (body : String) :
    Nested (.get p.key p.isGlobal :: .start p.isGlobal :: inner ++ [.put (p.entry body)]) :=
  .kept p body h .nil

theorem Opening.nested {first last : List Event} {p : Option Pending} {body : String}
    {inner past' : List StoreCall} (hfirst : Opening store request past first p)
    (hinner : Nested inner) (hlast : Closing store past' p body last) :
    Nested (calls first ++ inner ++ calls last) := by
  cases hfirst with
  | bypassed =>
    cases hlast
    simpa using hinner
  | missed origin o p =>
    cases hlast
    exact hinner.closed body

/-- The calls of a history without an open block are nested. -/
theorem Word.nested {w : List Event} {t : String} (hw : Word store request past w t) :
    Nested (calls w) := by
  induction hw with
  | nil => exact .nil
  | wrote text _ ih => exact ih
  | hit origin o p found _ _ _ _ _ ih => exact .hit p.key p.isGlobal ih
  | block hfirst _ hlast _ ihbody ih =>
    simp only [calls_append]
    exact (hfirst.nested ihbody hlast).append ih

/-- The calls of a history that has been broken off are the first ones of nested calls. -/
theorem Cut.nested_append {v : List Event} {opened : List (Option Pending)}
    {failure : Option String} (hv : Cut store request past v opened failure) :
    ∃ rest, Nested (calls v ++ rest) := by
  -- every block that is open is closed by a call that keeps no text
  induction hv with
  | short hw =>
    refine ⟨[], ?_⟩
    rw [List.append_nil]
    exact hw.nested
  | refused hw hv =>
    cases hv with
    | get origin o p =>
      refine ⟨[], ?_⟩
      rw [List.append_nil, calls_append]
      exact hw.nested.append (.hit p.key p.isGlobal .nil)
    | start origin o p =>
      refine ⟨[.put (p.entry "")], ?_⟩
      rw [calls_append, List.append_assoc]
      exact hw.nested.append (Nested.nil.closed "")
  | inside hw hfirst _ ih =>
    obtain ⟨rest, ih⟩ := ih
    cases hfirst with
    | bypassed =>
      refine ⟨rest, ?_⟩
      simp only [calls_append, List.append_assoc]
      exact hw.nested.append ih
    | missed origin o p =>
      refine ⟨rest ++ [.put (p.entry "")], ?_⟩
      simp only [calls_append, List.append_assoc]
      refine hw.nested.append ?_
      rw [← List.append_assoc (calls _) rest]
      exact ih.closed ""
  | lost hw hfirst hbody _ hput =>
    -- the call that failed closes its block already
    refine ⟨[], ?_⟩
    cases hfirst with
    | missed origin o p =>
      simp only [List.append_nil, calls_append, List.append_assoc]
      exact hw.nested.append (hbody.nested.closed _)

/-! ## Failures of the store -/

/-- The message with which a store fails at a call, if it does. -/
def failure? (store : Option CacheStore) (past : List StoreCall) (c : StoreCall) :
    Option String :=
  store.bind fun st =>
    match c with
    | .get key isGlobal => message (st.get past key isGlobal)
    | .start isGlobal => message (st.start past isGlobal)
    | .put entry => message (st.put past entry)
where
  message {α : Type} : Except String α → Option String
    | .ok _ => none
    | .error text => some text

/-- The store fails at none of some calls. -/
def Answered (store : Option CacheStore) (past : List StoreCall) : List StoreCall → Prop
  | [] => True
  | c :: cs => failure? store past c = none ∧ Answered store (past ++ [c]) cs

theorem answered_append : ∀ {past v w : List StoreCall},
    Answered store past (v ++ w) ↔ Answered store past v ∧ Answered store (past ++ v) w
  | past, [], w => by simp [Answered]
  | past, c :: v, w => by
    simp only [List.cons_append, Answered, answered_append (v := v), List.append_assoc,
      List.nil_append, and_assoc]

/-- The store fails at the last of some calls with a message, or at none. -/
def Breaks (store : Option CacheStore) (past : List StoreCall) (cs : List StoreCall) :
    Option String → Prop
  | none => Answered store past cs
  | some text =>
    ∃ front c, cs = front ++ [c] ∧ Answered store past front ∧
      failure? store (past ++ front) c = some text

theorem Breaks.after {v w : List StoreCall} {failure : Option String}
    (hw : Answered store past w) (hv : Breaks store (past ++ w) v failure) :
    Breaks store past (w ++ v) failure := by
  cases failure with
  | none => exact answered_append.2 ⟨hw, hv⟩
  | some text =>
    obtain ⟨front, c, rfl, hfront, hc⟩ := hv
    refine ⟨w ++ front, c, (List.append_assoc ..).symm, answered_append.2 ⟨hw, hfront⟩, ?_⟩
    rw [← List.append_assoc]
    exact hc

/-- Where the store fails at some call, no call follows, and the message is the one known. -/
theorem Breaks.eq_nil {cs front rest : List StoreCall} {c : StoreCall} {text : String}
    {failure : Option String} (h : Breaks store past cs failure) (hcs : cs = front ++ c :: rest)
    (hc : failure? store (past ++ front) c = some text) : rest = [] ∧ failure = some text := by
  -- with the failure at `c`, nothing that goes on behind `c` has been answered throughout
  have refuted : ∀ rest, ¬ Answered store past (front ++ c :: rest) := by
    intro rest ha
    have := (answered_append.1 ha).2.1
    rw [hc] at this
    cases this
  cases failure with
  | none => exact absurd (hcs ▸ h) (refuted rest)
  | some message =>
    obtain ⟨front', c', rfl, ha, hc'⟩ := h
    rcases List.eq_nil_or_concat rest with rfl | ⟨rest', last, rfl⟩
    · obtain ⟨rfl, hlast⟩ := List.append_inj' hcs rfl
      cases hlast
      rw [hc] at hc'
      exact ⟨rfl, hc'.symm⟩
    · rw [List.concat_eq_append, ← List.cons_append, ← List.append_assoc] at hcs
      exact absurd ((List.append_inj' hcs rfl).1 ▸ ha) (refuted rest')

theorem Opening.answered {first : List Event} {p : Option Pending}
    (h : Opening store request past first p) : Answered store past (calls first) := by
  cases h with
  | bypassed => trivial
  | missed origin o p _ hst _ hget hstart =>
    simp [Answered, failure?, failure?.message, hst, hget, hstart]

theorem Closing.answered {last : List Event} {p : Option Pending} {body : String}
    (h : Closing store past p body last) : Answered store past (calls last) := by
  cases h with
  | bypassed => trivial
  | kept p body hst hput => simp [Answered, failure?, failure?.message, hst, hput]

/-- The store does not fail in a history without an open block. -/
theorem Word.answered {w : List Event} {t : String} (hw : Word store request past w t) :
    Answered store past (calls w) := by
  induction hw with
  | nil => trivial
  | wrote text _ ih => exact ih
  | hit origin o p found _ hst _ hget _ ih =>
    refine ⟨?_, ih⟩
    simp [failure?, failure?.message, hst, hget]
  | block hfirst _ hlast _ ihbody ih =>
    simp only [calls_append, answered_append, ← List.append_assoc]
    exact ⟨⟨⟨hfirst.answered, ihbody⟩, hlast.answered⟩, ih⟩

theorem Refused.breaks {v : List Event} {text : String} (h : Refused store request past v text) :
    Breaks store past (calls v) (some text) := by
  cases h with
  | get origin o p _ hst _ hget =>
    refine ⟨[], _, rfl, trivial, ?_⟩
    simp [failure?, failure?.message, hst, hget]
  | start origin o p _ hst _ hget hstart =>
    refine ⟨[_], _, rfl, ⟨?_, trivial⟩, ?_⟩
    · simp [failure?, failure?.message, hst, hget]
    · simp [failure?, failure?.message, hst, hstart]

/-- The store fails at the last call of a history that has been broken off, if at all. -/
theorem Cut.breaks {v : List Event} {opened : List (Option Pending)} {failure : Option String}
    (hv : Cut store request past v opened failure) :
    Breaks store past (calls v) failure := by
  induction hv with
  | short hw => exact hw.answered
  | refused hw hv =>
    rw [calls_append]
    exact hv.breaks.after hw.answered
  | inside hw hfirst _ ih =>
    rw [calls_append, calls_append, List.append_assoc]
    exact (ih.after hfirst.answered).after hw.answered
  | lost hw hfirst hbody hst hput =>
    simp only [calls_append, List.append_assoc]
    refine Breaks.after hw.answered (.after hfirst.answered (.after hbody.answered ?_))
    refine ⟨[], _, rfl, trivial, ?_⟩
    simp [failure?, failure?.message, hst, hput, -List.append_assoc]

end Stencil.History
