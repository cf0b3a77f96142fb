import Stencil.Markdown.CommonMark

/-!
# The electronic mail in a text

The addresses of electronic mail among the inline elements of a text stand in angle brackets there.
Emphasis and brackets only put them elsewhere.

- `Inline.mails`, `Piece.mails`: the addresses in elements and pieces.
- `Autolink.isAddress_of_mail?`: what is read in angle brackets is an address.
- `Piece.mails_resolve`, `Piece.mails_closeBracket`: no address is added.
- `Inline.isAddress_ofText`: all addresses in a text have been read as such.
-/

namespace Stencil.Markdown

/-! ## Elements -/

namespace Inline

mutual

/-- The addresses of electronic mail in an element. -/
def mails : Inline → List (List Char)
  | .link kind t body => (if kind = .email then [t.url] else []) ++ mailsAll body
  | .emphasis body => mailsAll body
  | .strong body => mailsAll body
  | .strike body => mailsAll body
  | .image _ _ body => mailsAll body
  | .text _ => []
  | .code _ => []
  | .html _ => []
  | .softBreak => []
  | .hardBreak => []
  | .footnote _ => []

/-- The addresses of electronic mail in some elements. -/
def mailsAll : List Inline → List (List Char)
  | [] => []
  | i :: is => mails i ++ mailsAll is

end

end Inline

/-- What is read between angle brackets is an address of electronic mail. -/
theorem Autolink.isAddress_of_mail? {cs address rest : List Char}
    (h : mail? cs = some (address, rest)) : IsAddress address := by
  unfold mail? at h
  dsimp only at h
  split at h
  · split at h
    · split at h
      · next valid =>
        rw [Bool.and_eq_true, List.all_eq_true] at valid
        cases h
        refine ⟨cs.takeWhile inMailbox, _, List.all_eq_true.1 List.all_takeWhile, valid.2, ?_⟩
        rw [List.intercalate_splitOn]
      · cases h
    · cases h
  · cases h

/-- Brackets do not refer to electronic mail. -/
theorem References.ne_email_of_follow? {r : References} {inside behind rest : List Char}
    {kind : LinkKind} {t : Target} (h : r.follow? inside behind = some (.target kind t, rest)) :
    kind ≠ .email := by
  have own (found : r.own? inside behind = some (.target kind t)) : kind ≠ .email := by
    unfold own? at found
    grind [Option.map_eq_some_iff]
  unfold follow? at h
  grind [Option.map_eq_some_iff]

/-! ## Pieces -/

namespace Piece

/-- The addresses of electronic mail in a piece. -/
def mails : Piece → List (List Char)
  | .inline i => i.mails
  | .run _ => []
  | .bracket _ _ _ => []

/-- The addresses of electronic mail in some pieces. -/
def mailsAll (ps : List Piece) : List (List Char) := ps.flatMap mails

@[simp] theorem mailsAll_cons (p : Piece) (ps : List Piece) :
    mailsAll (p :: ps) = p.mails ++ mailsAll ps := List.flatMap_cons

@[simp] theorem mailsAll_append (ps qs : List Piece) :
    mailsAll (ps ++ qs) = mailsAll ps ++ mailsAll qs := List.flatMap_append

@[simp] theorem mem_mailsAll_reverse {address : List Char} {ps : List Piece} :
    address ∈ mailsAll ps.reverse ↔ address ∈ mailsAll ps := by
  simp [mailsAll]

@[simp] theorem mails_ofText (cs : List Char) : (ofText cs).mails = [] := rfl

theorem mails_deactivate (p : Piece) : (deactivate p).mails = p.mails := by
  unfold deactivate
  split
  · rfl
  · rfl

theorem mails_disable (p : Piece) : (disable p).mails = p.mails := by
  unfold disable
  split
  · rfl
  · rfl

theorem mailsAll_map {f : Piece → Piece} (same : ∀ p, (f p).mails = p.mails) (ps : List Piece) :
    mailsAll (ps.map f) = mailsAll ps := by
  simp only [mailsAll, List.flatMap_map, same]

theorem mailsAll_inline (is : List Inline) : mailsAll (is.map .inline) = Inline.mailsAll is := by
  induction is with
  | nil => rfl
  | cons i is ih => rw [List.map_cons, mailsAll_cons, ih, Inline.mailsAll, mails]

theorem mailsAll_plain (ps : List Piece) : Inline.mailsAll (plain ps) = mailsAll ps := by
  induction ps with
  | nil => rfl
  | cons p ps ih =>
    rw [plain, List.map_cons, Inline.mailsAll, mailsAll_cons, ← ih]
    cases p with
    | inline i => rfl
    | run r => rfl
    | bracket isImage active after => rfl

/-- Emphasis has the addresses of what it holds. -/
theorem mailsAll_wrap (mark : Char) :
    ∀ (n : Nat) (body : List Inline), Inline.mailsAll (wrap mark n body) = Inline.mailsAll body
  | 0, _ => rfl
  | 1, body => by
    rw [wrap, Inline.mailsAll, Inline.mailsAll, List.append_nil]
    split <;> rfl
  | n + 2, body => by
    rw [wrap, mailsAll_wrap mark n, Inline.mailsAll, Inline.mailsAll, List.append_nil]
    split <;> rfl

/-- A search passes over a piece. What it finds behind divides the pieces. -/
theorem mailsAll_passed {β : Type} {p : Piece} {ps inner before : List Piece} {b : β}
    {found : Option (List Piece × β × List Piece)}
    (divided : ∀ inner before, found = some (inner, b, before) →
      mailsAll ps = mailsAll inner ++ mailsAll before)
    (passed : found.map (fun (inner, b, before) => (p :: inner, b, before)) =
      some (inner, b, before)) : mailsAll (p :: ps) = mailsAll inner ++ mailsAll before := by
  obtain ⟨⟨inner', b', before'⟩, found, same⟩ := Option.map_eq_some_iff.1 passed
  cases same
  rw [mailsAll_cons, mailsAll_cons, divided _ _ found, List.append_assoc]

theorem mailsAll_opener? {closer o : Run} {ps : List Piece} :
    ∀ inner before, opener? closer ps = some (inner, o, before) →
      mailsAll ps = mailsAll inner ++ mailsAll before := by
  induction ps with
  | nil => nofun
  | cons p ps ih =>
    intro inner before found
    cases p with
    | run r =>
      rw [opener?] at found
      split at found
      · cases found
        rfl
      · exact mailsAll_passed ih found
    | inline i => exact mailsAll_passed ih found
    | bracket isImage active after => exact mailsAll_passed ih found

/-- Rows that are closed add no addresses. -/
theorem mails_close : ∀ (n : Nat) (r : Run) (before : List Piece),
    mailsAll (close n r before).2 ⊆ mailsAll before := by
  intro n
  induction n with
  | zero => exact fun _ _ _ mem => mem
  | succ n ih =>
    intro r before address mem
    rw [close] at mem
    split at mem
    · exact mem
    · split at mem
      · exact mem
      · next inner o before' found =>
        have parts := mailsAll_opener? _ _ found
        have mem := ih _ _ mem
        rw [mailsAll_append, mailsAll_inline, mailsAll_wrap, mailsAll_plain] at mem
        rw [parts]
        split at mem
        · simpa [mails] using mem
        · simpa using mem

theorem mails_add (before : List Piece) (p : Piece) :
    mailsAll (add before p) ⊆ p.mails ++ mailsAll before := by
  cases p with
  | run r =>
    have closed : mailsAll (if r.closes then close r.left r before else (r, before)).2 ⊆
        mailsAll before := by
      split
      · exact mails_close _ _ _
      · exact fun _ mem => mem
    rw [add]
    generalize (if r.closes then close r.left r before else (r, before)) = c at closed
    dsimp only
    split
    · exact closed
    · split
      · exact closed
      · exact closed
  | inline i => exact fun _ mem => mem
  | bracket isImage active after => exact fun _ mem => mem

theorem mails_resolve (ps : List Piece) : Inline.mailsAll (resolve ps) ⊆ mailsAll ps := by
  have added : ∀ (ps before : List Piece),
      mailsAll (ps.foldl add before) ⊆ mailsAll before ++ mailsAll ps := by
    intro ps
    induction ps with
    | nil => simp
    | cons p ps ih =>
      intro before address mem
      rcases List.mem_append.1 (ih _ mem) with mem | mem
      · have mem := mails_add before p mem
        simp only [mailsAll_cons, List.mem_append] at mem ⊢
        exact mem.elim (.inr ∘ .inl) .inl
      · simp only [mailsAll_cons, List.mem_append]
        exact .inr (.inr mem)
  intro address mem
  rw [resolve, mailsAll_plain, mem_mailsAll_reverse] at mem
  exact added ps [] mem

theorem mailsAll_bracket? {ps : List Piece} {b : Bool × Bool × List Char} :
    ∀ inner before, bracket? ps = some (inner, b, before) →
      mailsAll ps = mailsAll inner ++ mailsAll before := by
  induction ps with
  | nil => nofun
  | cons p ps ih =>
    intro inner before found
    cases p with
    | bracket isImage active after =>
      cases found
      rfl
    | inline i => exact mailsAll_passed ih found
    | run r => exact mailsAll_passed ih found

/-- A closing bracket adds no addresses. -/
theorem mails_closeBracket (r : References) (ps : List Piece) (rest : List Char) :
    mailsAll (closeBracket r ps rest).1 ⊆ mailsAll ps := by
  intro address mem
  unfold closeBracket at mem
  split at mem
  · exact mem
  · next inner isImage active inside before found =>
    rw [mailsAll_bracket? _ _ found]
    have body : Inline.mailsAll (resolve inner.reverse) ⊆ mailsAll inner :=
      fun _ mem => mem_mailsAll_reverse.1 (mails_resolve _ mem)
    split at mem
    · next kind t _ follows =>
      have other : kind ≠ .email := by
        split at follows
        · exact References.ne_email_of_follow? follows
        · cases follows
      split at mem
      · rw [mailsAll_cons] at mem
        exact List.append_subset.2 ⟨List.subset_append_of_subset_left _ body,
          List.subset_append_right _ _⟩ mem
      · rw [mailsAll_cons, mailsAll_map mails_deactivate, mails, Inline.mails, if_neg other] at mem
        exact List.append_subset.2 ⟨List.subset_append_of_subset_left _ body,
          List.subset_append_right _ _⟩ mem
    · refine List.mem_append_right _ ?_
      rw [← mailsAll_map mails_disable before]
      split at mem
      · exact mem
      · exact mem
    · simpa using mem

end Piece

/-! ## Texts -/

namespace Inline

open Autolink Reading

variable {r : Reading}

/-- The addresses of electronic mail that have been read are such addresses. -/
def Reading.Mailed (r : Reading) : Prop := ∀ address ∈ Piece.mailsAll r.pieces, IsAddress address

theorem Reading.Mailed.text (h : r.Mailed) (cs rest : List Char) : (r.text cs rest).Mailed := h

theorem Reading.Mailed.inline (h : r.Mailed) {i : Inline} (none : i.mails = []) (last : Char)
    (rest : List Char) : (r.inline i last rest).Mailed := by
  intro address mem
  rw [Reading.inline, Piece.mailsAll_cons, Piece.mails, none] at mem
  exact h address mem

theorem Reading.Mailed.angle (h : r.Mailed) (cs : List Char) : (r.angle cs).Mailed := by
  unfold Reading.angle
  split
  · exact h.inline rfl _ _
  · split
    · next address rest read =>
      intro address' mem
      rw [Reading.inline, Piece.mailsAll_cons] at mem
      rcases List.mem_append.1 mem with new | old
      · have same : address' = address := by
          simpa [Piece.mails, mails, mailsAll] using new
        exact same ▸ isAddress_of_mail? read
      · exact h address' old
    · split
      · exact h.inline rfl _ _
      · exact h.text _ _

theorem Reading.Mailed.run (h : r.Mailed) (x : Extensions) (mark : Char) (cs : List Char) :
    (r.run x mark cs).Mailed := by
  unfold Reading.run
  dsimp only
  split
  · exact h.text _ _
  · exact h

theorem Reading.Mailed.step (h : r.Mailed) (refs : References) : (r.step refs).Mailed := by
  unfold Reading.step
  split
  · exact h
  · exact h.inline rfl _ _
  · split
    · exact h.text _ _
    · exact h.text _ _
  · exact h.inline rfl _ _
  · dsimp only
    split
    · exact h.inline rfl _ _
    · exact h.text _ _
  · exact h.angle _
  · split
    · exact h
    · exact h.text _ _
  · exact h
  · exact h
  · exact fun address mem => h address (Piece.mails_closeBracket refs _ _ mem)
  · split
    · exact h.run _ _ _
    · split
      · dsimp only
        split
        · exact h.inline (by split <;> rfl) _ _
        · exact h.text _ _
      · exact h.text _ _

theorem mailed_scan (refs : References) (n : Nat) :
    ∀ {r : Reading}, r.Mailed → (scan refs n r).Mailed := by
  induction n with
  | zero => exact fun h => h
  | succ n ih =>
    intro r h
    rw [scan]
    split
    · exact h
    · exact ih (h.step refs)

/-- The addresses of electronic mail in a text are such addresses. -/
theorem isAddress_ofText (refs : References) (cs : List Char) :
    ∀ address ∈ mailsAll (ofText refs cs), IsAddress address := by
  intro address mem
  have begun : Reading.Mailed ⟨[], none, cs⟩ := nofun
  exact mailed_scan refs cs.length begun address
    (Piece.mem_mailsAll_reverse.1 (Piece.mails_resolve _ mem))

end Inline

end Stencil.Markdown
