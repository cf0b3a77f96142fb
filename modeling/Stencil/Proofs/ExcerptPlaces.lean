import Stencil.Proofs.DirectiveText
import Stencil.Proofs.ExcerptLines

/-!
# The places that excerpts show

An excerpt names the line and the column in which its region begins, and shows that line with marks
below the region. The line is the one of the origin at the same offset. The columns are those of any
measure of texts, and an origin counts characters.

- `Text.Measure.AddsUp`: a text takes as many columns as its characters do one by one.
- `Excerpt.place_lines`: the place of an offset, from the text before it.
- `Excerpt.Drawing`: what is drawn of an excerpt.
- `Error.report_of_fits`: the report of an error whose region is one of its source.
-/

namespace Stencil

open Text (byteLength)

/-! ## Columns -/

/-- A text takes as many columns as its characters do one by one. Letters that are drawn as one take
fewer. -/
def Text.Measure.AddsUp (m : Measure) (cs : List Char) : Prop :=
  m cs = cs.foldr (fun c columns => m [c] + columns) 0

/-- Characters of one column each add up to their number. -/
theorem Text.Measure.addsUp_iff {m : Measure} {cs : List Char} (single : ∀ c ∈ cs, m [c] = 1) :
    m.AddsUp cs ↔ m cs = cs.length := by
  have length : cs.foldr (fun c columns => m [c] + columns) 0 = cs.length := by
    induction cs with
    | nil => rfl
    | cons c cs ih =>
      rw [List.foldr_cons, single c List.mem_cons_self,
        ih fun c mem => single c (List.mem_cons_of_mem _ mem), List.length_cons, Nat.add_comm]
  rw [AddsUp, length]

/-! ## Places -/

namespace Excerpt

open Text (firstLine lastLine)

/-- The place behind a text is at the end of its last line, unless a line feed at the end of the
source stands before it. It is shown in the whole of that line. -/
theorem place_lines (before rest : List Char)
    (inside : rest ≠ [] ∨ before.getLast? ≠ some '\n') :
    place (byteLength before) (lines (before ++ rest)) =
        some (before.count '\n', lastLine before) ∧
      (lines (before ++ rest))[before.count '\n']?.getD [] = lastLine before ++ firstLine rest := by
  induction before using Text.line_induction with
  | line l free =>
    rw [List.count_eq_zero_of_not_mem free, Text.lastLine_of_not_mem free]
    refine ⟨place_first l rest free, ?_⟩
    by_cases none : l ++ rest = []
    · obtain ⟨rfl, rfl⟩ := List.append_eq_nil_iff.1 none
      rfl
    · rw [lines_of_ne_nil none, Text.firstLine_append free]
      rfl
  | below l cs free ih =>
    have inside' : rest ≠ [] ∨ cs.getLast? ≠ some '\n' := by
      refine inside.imp_right fun last same => last ?_
      rw [List.getLast?_append, List.getLast?_cons, same]
      rfl
    obtain ⟨placed, shown⟩ := ih inside'
    have more : cs ++ rest ≠ [] := by
      intro none
      obtain ⟨rfl, rfl⟩ := List.append_eq_nil_iff.1 none
      refine inside.elim (fun ne => ne rfl) fun last => last ?_
      exact List.getLast?_append_cons ..
    rw [List.append_assoc, List.cons_append, lines_append free, Text.lastLine_append,
      Text.count_append free, Text.byteLength_line, place_below, if_neg (lines_ne_nil more), placed,
      List.getElem?_cons_succ]
    exact ⟨rfl, shown⟩

/-! ## Reports -/

/-- What is drawn of an excerpt. The line and the column are counted from one. -/
structure Drawing where
  name : Option String
  line : Nat
  column : Nat
  code : List Char
  marks : Nat
  message : String

/-- The place, if the template has a name, above the line with the marks below it. The number of the
line stands in front of a bar, and there is room for it in front of the others. -/
def Drawing.text (d : Drawing) : String :=
  let number := Nat.toDigits 10 d.line
  let margin := '\n' :: ' ' :: spaces number.length
  let place := match d.name with
    | none => []
    | some name => margin ++ "--> ".toList ++ name.toList ++ ':' :: number ++
        ':' :: Nat.toDigits 10 d.column
  String.ofList (place ++ margin ++ " |\n ".toList ++ number ++ " | ".toList ++ d.code ++
    margin ++ " | ".toList ++ spaces (d.column - 1) ++ List.replicate d.marks '^' ++
      ' ' :: d.message.toList ++ ['\n'])

variable {x : Excerpt} {before region after : List Char}

/-- An excerpt is drawn with the line in which its region begins. -/
theorem render_of_append (m : Text.Measure) (ne : x.source ≠ "")
    (eq : x.source.toList = before ++ (region ++ after))
    (start : byteLength before = x.span.start) (stop : byteLength (before ++ region) = x.span.stop)
    (inside : region ++ after ≠ [] ∨ before.getLast? ≠ some '\n') (name : Option String)
    (message : String) :
    x.render m name message = some (Drawing.text ⟨name, before.count '\n' + 1,
      m (lastLine before) + 1, lastLine before ++ firstLine (region ++ after),
      max 1 (m region), message⟩) := by
  obtain ⟨placed, shown⟩ := place_lines before (region ++ after) inside
  have chars : x.source.toList ≠ [] := fun none => ne (String.toList_eq_nil_iff.1 none)
  have column_eq : column m (lines x.source.toList) (lastLine before) = m (lastLine before) :=
    if_neg fun empty => lines_ne_nil chars (List.isEmpty_iff.1 empty)
  rw [← eq, start] at placed
  rw [← eq] at shown
  have sliced := Span.sliceChars_of_append eq start stop
  cases name <;>
    simp only [render, Drawing.text, placed, sliced, shown, column_eq, Option.bind_eq_bind,
      Option.bind_some, Nat.add_sub_cancel]

end Excerpt

open Excerpt Text

/-- With any measure, the report of an error with a region of its source shows the line in which
the region begins, and marks the columns of the region. At the end of a source that ends with a line
feed there is no such line, and there is a report all the same. An origin at the same offset is in
the same line. If the characters before the region take one column each, it is in the same column
exactly if they do so together as well. -/
theorem Error.report_of_fits (m : Measure) {e : Error} {x : Excerpt} (located : e.excerpt = some x)
    (ne : x.source ≠ "") (fits : x.span.Fits x.source) :
    (e.reportBy m).isSome ∧ ∃ before region after : List Char,
      x.source.toList = before ++ (region ++ after) ∧ byteLength before = x.span.start ∧
      byteLength (before ++ region) = x.span.stop ∧
      (x.span.start < byteLength x.source.toList ∨ x.source.toList.getLast? ≠ some '\n' →
        e.reportBy m = some (Drawing.text ⟨e.template, before.count '\n' + 1,
          m (lastLine before) + 1, lastLine before ++ firstLine (region ++ after),
          max 1 (m region), e.cause.message⟩)) ∧
      ∀ identity, ∃ column,
        Origin.at? identity x.source x.span.start =
          some ⟨identity, before.count '\n' + 1, column⟩ ∧
        ((∀ c ∈ lastLine before, m [c] = 1) →
          (column = m (lastLine before) + 1 ↔ m.AddsUp (lastLine before))) := by
  have report : e.reportBy m = x.render m e.template e.cause.message := by
    rw [Error.reportBy, located]
  obtain ⟨before, region, after, eq, start, stop⟩ := fits.exists_append
  refine ⟨report ▸ (fits.shows fits ⟨Nat.le_refl _, Nat.le_refl _⟩).rendered m _ _, before, region,
    after, eq, start, stop, fun inside => report ▸ render_of_append m ne eq start stop ?_ _ _,
    fun identity => ⟨(lastLine before).length + 1, ?_, fun single => ?_⟩⟩
  · rcases inside with behind | last
    · refine .inl fun none => ?_
      rw [eq, none, List.append_nil, start] at behind
      omega
    · refine (em (region ++ after = [])).symm.imp_right fun none => ?_
      rwa [eq, none, List.append_nil] at last
  · rw [Origin.at?, eq, ← start, takeBytes_append, Option.map_some, Origin.locate_eq]
    rfl
  · rw [Measure.addsUp_iff single]
    omega

/-- An unknown directive in the second line of a page. -/
def Error.unknownDirective : Error :=
  (syntaxAt (.unknownDirective "nope") "a\n\x7b% nope %\x7d" ⟨5, 9⟩).inTemplate (some "page")

theorem Error.report_unknownDirective :
    let x : Excerpt := ⟨"a\n\x7b% nope %\x7d", ⟨5, 9⟩⟩
    unknownDirective.excerpt = some x ∧ x.source ≠ "" ∧ x.span.Fits x.source ∧
    (unknownDirective.reportBy width).isSome ∧
    unknownDirective.reportBy width = some
      "\n  --> page:2:4\n   |\n 2 | \x7b% nope %\x7d\n   |    ^^^^ unknown directive `nope`\n" := by
  intro x
  have fits : x.span.Fits x.source :=
    @Span.fits_of_append _ "a\n\x7b% ".toList "nope".toList " %\x7d".toList (by decide)
  have ne : x.source ≠ "" := by decide
  exact ⟨rfl, ne, fits, (report_of_fits width rfl ne fits).1, by decide +kernel⟩

/-- A lam and an alef take one column each on their own, and one together. What stands behind them
on a line begins one column before that of its origin. -/
theorem Error.report_lam_alef :
    let source := "\u0644\u0627\x7b\x7b nope \x7d\x7d"
    let before := "\u0644\u0627\x7b\x7b ".toList
    let e := (renderAt .notInScope source ⟨7, 11⟩).inTemplate (some "t")
    Span.Fits source ⟨7, 11⟩ ∧ before <+: source.toList ∧ byteLength before = 7 ∧
    (∀ c ∈ lastLine before, width [c] = 1) ∧
    e.report = some ("\n  --> t:1:5\n   |\n 1 | " ++ source ++
      "\n   |     ^^^^ not found in this scope\n") ∧
    width (lastLine before) + 1 = 5 ∧ Origin.at? "t" source 7 = some ⟨"t", 1, 6⟩ := by
  have single : (lastLine "\u0644\u0627\x7b\x7b ".toList).all fun c => width [c] == 1 := by
    decide +kernel
  refine ⟨?_, by decide, by decide, fun c mem => eq_of_beq (List.all_eq_true.1 single c mem), ?_⟩
  · exact @Span.fits_of_append _ "\u0644\u0627\x7b\x7b ".toList "nope".toList
      " \x7d\x7d".toList (by decide)
  · decide +kernel

end Stencil
