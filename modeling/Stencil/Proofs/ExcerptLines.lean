import Mathlib.Data.List.DropRight
import Stencil.Error.Excerpt
import Stencil.Proofs.TokenSpans

/-!
# The lines of excerpts

An excerpt shows the line in which its region begins. At a character boundary there always is one,
and boundaries further on lie in the same line or below.

- `Text.lastLine`, `Text.firstLine`: the text behind the last line feed, and before the first one.
- `Text.line_induction`: a text read line by line.
- `Excerpt.lineAt`: the number of the line in which an offset lies.
- `Excerpt.lineAt_byteLength`: the line feeds before an offset count its line.
- `Excerpt.Shows`: an excerpt is rendered, and shows a line of a region.
- `Span.Fits.shows`: a region within another one shows a line of it.
-/

namespace Stencil

open Text (byteLength)

/-! ## Lines -/

namespace Text

/-- The text behind the last line feed. -/
def lastLine (cs : List Char) : List Char := cs.rtakeWhile (· != '\n')

/-- The text before the first line feed. -/
def firstLine (cs : List Char) : List Char := cs.takeWhile (· != '\n')

variable {l cs : List Char}

/-- A text is one line, or one line and a text below it. -/
@[elab_as_elim]
theorem line_induction {motive : List Char → Prop} (line : ∀ l, '\n' ∉ l → motive l)
    (below : ∀ l cs, '\n' ∉ l → motive cs → motive (l ++ '\n' :: cs)) (cs : List Char) :
    motive cs := by
  -- the line read so far goes in front
  suffices all : ∀ l, '\n' ∉ l → motive (l ++ cs) from all [] List.not_mem_nil
  induction cs with
  | nil => exact fun l free => (List.append_nil l).symm ▸ line l free
  | cons c cs ih =>
    intro l free
    by_cases feed : c = '\n'
    · subst feed
      exact below l cs free (ih [] List.not_mem_nil)
    · rw [← List.singleton_append, ← List.append_assoc]
      exact ih (l ++ [c]) (by simp [free, Ne.symm feed])

theorem lastLine_of_not_mem (free : '\n' ∉ l) : lastLine l = l :=
  List.rtakeWhile_eq_self_iff.2 fun _ mem => bne_iff_ne.2 fun same => free (same ▸ mem)

theorem lastLine_append (l cs : List Char) : lastLine (l ++ '\n' :: cs) = lastLine cs := by
  induction cs using List.reverseRecOn with
  | nil => exact List.rtakeWhile_concat_neg _ _ _ nofun
  | append_singleton cs c ih =>
    rw [← List.cons_append, ← List.append_assoc]
    simp only [lastLine, List.rtakeWhile_concat] at ih ⊢
    rw [ih]

theorem firstLine_append (free : '\n' ∉ l) : firstLine (l ++ cs) = l ++ firstLine cs :=
  List.takeWhile_append_of_pos fun _ mem => bne_iff_ne.2 fun same => free (same ▸ mem)

theorem count_append (free : '\n' ∉ l) :
    (l ++ '\n' :: cs).count '\n' = cs.count '\n' + 1 := by
  rw [List.count_append, List.count_eq_zero_of_not_mem free, List.count_cons_self, Nat.zero_add]

theorem byteLength_line (l cs : List Char) :
    byteLength (l ++ '\n' :: cs) = byteLength l + 1 + byteLength cs := by
  rw [byteLength_append, byteLength_cons, show ('\n').utf8Size = 1 from rfl, Nat.add_assoc]

end Text

/-! ## Excerpts -/

namespace Excerpt

/-- The number of the line in which an offset lies, counted from zero. -/
def lineAt (source : String) (offset : Nat) : Option Nat :=
  (place offset (lines source.toList)).map Prod.fst

/-- An excerpt is rendered, and its line is one of those from the beginning to the end of a
region. -/
structure Shows (x : Excerpt) (region : Span) : Prop where
  rendered : ∀ m name message, (x.render m name message).isSome
  line : ∃ first line last, lineAt x.source region.start = some first ∧
    lineAt x.source x.span.start = some line ∧ lineAt x.source region.stop = some last ∧
    first ≤ line ∧ line ≤ last

section

open Text (firstLine)

variable {l cs : List Char}

/-- The lines of a text that is not empty are the first one and those below it. -/
theorem lines_of_ne_nil (ne : cs ≠ []) :
    lines cs = firstLine cs :: lines (cs.dropWhile (· != '\n')).tail := by
  induction cs with
  | nil => exact absurd rfl ne
  | cons c cs ih =>
    rw [lines, firstLine]
    by_cases feed : c = '\n'
    · subst feed
      rfl
    · have other : (c != '\n') = true := bne_iff_ne.2 feed
      rw [if_neg feed, List.takeWhile_cons_of_pos (p := (· != '\n')) other,
        List.dropWhile_cons_of_pos (p := (· != '\n')) other]
      cases cs with
      | nil => rfl
      | cons d cs => rw [ih (List.cons_ne_nil d cs)]; rfl

theorem lines_ne_nil (ne : cs ≠ []) : lines cs ≠ [] := by
  rw [lines_of_ne_nil ne]
  exact List.cons_ne_nil _ _

/-- A line that ends comes first. -/
theorem lines_append (free : '\n' ∉ l) : lines (l ++ '\n' :: cs) = l :: lines cs := by
  have all : ∀ c ∈ l, (fun c => c != '\n') c = true := fun _ mem =>
    bne_iff_ne.2 fun same => free (same ▸ mem)
  rw [lines_of_ne_nil (List.append_ne_nil_of_right_ne_nil l (List.cons_ne_nil _ cs)),
    Text.firstLine_append free, List.dropWhile_append_of_pos all]
  simp [firstLine]

/-- At the end of the first line or before it. -/
theorem place_first (l rest : List Char) (free : '\n' ∉ l) :
    place (byteLength l) (lines (l ++ rest)) = some (0, l) := by
  by_cases none : l ++ rest = []
  · obtain ⟨rfl, rfl⟩ := List.append_eq_nil_iff.1 none
    rfl
  · have within : byteLength l < byteLength (l ++ firstLine rest) + 1 := by
      rw [Text.byteLength_append]
      omega
    rw [lines_of_ne_nil none, Text.firstLine_append free, place.eq_def]
    dsimp only
    rw [if_pos within, Text.takeBytes_append]
    rfl

/-- Below the first line, if a line follows. -/
theorem place_below (l : List Char) (ls : List (List Char)) (n : Nat) :
    place (byteLength l + 1 + n) (l :: ls) =
      if ls = [] then some (0, l) else (place n ls).map fun p => (p.1 + 1, p.2) := by
  rw [place.eq_def]
  dsimp only
  rw [if_neg (by omega), Nat.add_sub_cancel_left]
  cases ls with
  | nil => rfl
  | cons l ls => rfl

/-- An offset behind some text lies in the line that the line feeds of the text count. Behind the
last line it lies in that line. -/
theorem lineAt_byteLength (before after : List Char) :
    (place (byteLength before) (lines (before ++ after))).map Prod.fst =
      some (min (before.count '\n') ((lines (before ++ after)).length - 1)) := by
  induction before using Text.line_induction with
  | line l free =>
    rw [place_first l after free, List.count_eq_zero_of_not_mem free, Nat.zero_min]
    rfl
  | below l cs free ih =>
    rw [List.append_assoc, List.cons_append, lines_append free, Text.byteLength_line, place_below,
      Text.count_append free, List.length_cons, Nat.add_sub_cancel]
    split
    · next none =>
      rw [none, List.length_nil, Nat.min_zero]
      rfl
    · next some =>
      have pos := List.length_pos_iff.2 some
      obtain ⟨place, placed, line⟩ := Option.map_eq_some_iff.1 ih
      rw [placed, Option.map_some, Option.map_some, line]
      congr 1
      omega

end

end Excerpt

namespace Span

variable {source : String} {span region : Span} {m n : Nat}

/-- Further on there are no lines further up. -/
theorem exists_lines (hm : Text.Boundary source.toList m) (hn : Text.Boundary source.toList n)
    (le : m ≤ n) : ∃ i j, Excerpt.lineAt source m = some i ∧ Excerpt.lineAt source n = some j ∧
      i ≤ j := by
  obtain ⟨before, after, eq, rfl⟩ := hm
  obtain ⟨before', after', eq', rfl⟩ := hn
  have first : before <+: before' :=
    Text.prefix_of_byteLength_le ⟨after, eq.symm⟩ ⟨after', eq'.symm⟩ le
  have line := Excerpt.lineAt_byteLength before after
  have line' := Excerpt.lineAt_byteLength before' after'
  rw [← eq] at line
  rw [← eq'] at line'
  exact ⟨_, _, line, line', by
    have := first.sublist.count_le '\n'
    omega⟩

/-- The excerpt of a region is rendered, and shows a line of any region around it. -/
theorem Fits.shows (h : span.Fits source) (around : region.Fits source)
    (within : span.Within region) : Excerpt.Shows ⟨source, span⟩ region where
  rendered m name message := by
    obtain ⟨line, _, hline, -⟩ := exists_lines h.start h.start (Nat.le_refl _)
    obtain ⟨place, hplace, -⟩ := Option.map_eq_some_iff.1 hline
    obtain ⟨text, sliced⟩ := Option.isSome_iff_exists.1 h.slice
    obtain ⟨cs, hcs, -⟩ := Option.map_eq_some_iff.1 sliced
    simp only [Excerpt.render, hplace, hcs, Option.bind_eq_bind, Option.bind_some]
    rfl
  line := by
    obtain ⟨first, line, hfirst, hline, le⟩ := exists_lines around.start h.start within.1
    obtain ⟨line', last, hline', hlast, le'⟩ :=
      exists_lines h.start around.stop (Nat.le_trans h.le within.2)
    cases hline.symm.trans hline'
    exact ⟨first, line, last, hfirst, hline, hlast, le, le'⟩

end Span

end Stencil
