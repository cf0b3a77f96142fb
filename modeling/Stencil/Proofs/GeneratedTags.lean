import Mathlib.Tactic.ByContra
import Stencil.Proofs.CommonMark
import Stencil.Proofs.GeneratedMarks
import Stencil.Proofs.HtmlTags

/-!
# The tags of generated HTML

A reader of generated HTML finds the tags that have been written, and no others. Only the names of
the attributes of headings may mislead it: the text of an author stands there, and a quote that is
read as an opening one takes what follows into the tag.

- `Mark.tag?`: the tag that a mark is to be read as.
- `Mark.IsTidy`: a mark is read so.
- `Mark.read_written`: what is read of a tidy mark.
- `Mark.read_print`: what is read of tidy marks and headings.
- `tags_of_render`: the tags in the HTML of a text.
- `handlesEvents_heading`: a heading that handles an event.
-/

namespace Stencil.Markdown

open Html

/-! ## Escapes -/

namespace Escape

/-- The entities of single characters. -/
def entities : List String := ["&amp;", "&lt;", "&gt;", "&quot;", "&#39;", "&#x27;"]

/-- There is neither an angle bracket nor a quote in an entity. -/
theorem mem_entity {s : String} (entity : s ∈ entities) {d : Char} (h : d ∈ s.toList) :
    d ≠ '<' ∧ d ≠ '>' ∧ d ≠ '"' := by
  have plain : ∀ s ∈ entities, s.toList.all fun d => d != '<' && d != '>' && d != '"' := by decide
  simpa [and_assoc] using List.all_eq_true.1 (plain s entity) d h

theorem mem_bodyEntity {c d : Char} (h : d ∈ bodyEntity c) :
    d ≠ '<' ∧ d ≠ '>' ∧ (d = '"' → c = '"') := by
  have known {s : String} (entity : s ∈ entities) (h : d ∈ s.toList) :
      d ≠ '<' ∧ d ≠ '>' ∧ (d = '"' → c = '"') := by
    obtain ⟨less, greater, quote⟩ := mem_entity entity h
    exact ⟨less, greater, fun same => absurd same quote⟩
  unfold bodyEntity at h
  split at h
  · exact known (by decide) h
  · split at h
    · exact known (by decide) h
    · split at h
      · exact known (by decide) h
      · next less greater =>
        cases List.mem_singleton.1 h
        exact ⟨less, greater, id⟩

theorem mem_attributeEntity {c d : Char} (h : d ∈ attributeEntity c) :
    d ≠ '<' ∧ d ≠ '>' ∧ d ≠ '"' := by
  unfold attributeEntity at h
  split at h
  · exact mem_entity (by decide) h
  · next notQuote =>
    split at h
    · exact mem_entity (by decide) h
    · obtain ⟨less, greater, quote⟩ := mem_bodyEntity h
      exact ⟨less, greater, fun same => notQuote (quote same)⟩

theorem mem_percent {n : Nat} (byte : n < 256) {d : Char} (h : d ∈ percent n) :
    d ≠ '<' ∧ d ≠ '>' ∧ d ≠ '"' := by
  have digit : ∀ k < 16, hexDigit k ≠ '<' ∧ hexDigit k ≠ '>' ∧ hexDigit k ≠ '"' := by decide
  unfold percent at h
  simp only [List.mem_cons, List.not_mem_nil, or_false] at h
  rcases h with rfl | rfl | rfl
  · decide
  · exact digit _ (by omega)
  · exact digit _ (by omega)

theorem mem_addressEntity {c d : Char} (h : d ∈ addressEntity c) :
    d ≠ '<' ∧ d ≠ '>' ∧ d ≠ '"' := by
  unfold addressEntity at h
  split at h
  · next plain =>
    cases List.mem_singleton.1 h
    refine ⟨?_, ?_, ?_⟩
    all_goals
      rintro rfl
      exact absurd plain (by decide)
  · split at h
    · exact mem_entity (by decide) h
    · split at h
      · exact mem_entity (by decide) h
      · obtain ⟨b, -, h⟩ := List.mem_flatMap.1 h
        exact mem_percent b.toNat_lt h

end Escape

/-! ## Attributes -/

namespace Attribute

/-- An attribute is read under its name, which is not that of a script for an event. -/
structure IsTidy (a : Attribute) : Prop where
  key : isKey a.name
  quiet : ['o', 'n'].isPrefixOf a.name = false
  plain : a.name.flatMap Escape.attributeEntity = a.name

/-- An attribute does not end its tag. -/
def Encloses (a : Attribute) : Prop := ∀ c ∈ a.text, c ≠ '>'

theorem mem_content {a : Attribute} {c : Char} (h : c ∈ a.content) :
    c ≠ '<' ∧ c ≠ '>' ∧ c ≠ '"' := by
  cases a with
  | plain name value =>
    obtain ⟨d, -, h⟩ := List.mem_flatMap.1 h
    exact Escape.mem_attributeEntity h
  | address name value =>
    obtain ⟨d, -, h⟩ := List.mem_flatMap.1 h
    exact Escape.mem_addressEntity h

theorem mem_plain {name value : List Char} {c : Char} (h : c ∈ (plain name value).text) :
    c ≠ '<' ∧ c ≠ '>' := by
  simp only [text, List.mem_append, List.mem_cons, List.mem_flatMap, List.not_mem_nil, or_false]
    at h
  rcases h with (((rfl | ⟨d, -, h⟩) | rfl | rfl) | ⟨d, -, h⟩) | rfl
  · decide
  · exact ⟨(Escape.mem_attributeEntity h).1, (Escape.mem_attributeEntity h).2.1⟩
  · decide
  · decide
  · exact ⟨(Escape.mem_attributeEntity h).1, (Escape.mem_attributeEntity h).2.1⟩
  · decide

theorem encloses_plain (name value : List Char) : (plain name value).Encloses :=
  fun _ mem => (mem_plain mem).2

theorem IsTidy.text_eq {a : Attribute} (h : a.IsTidy) :
    a.text = ' ' :: a.name ++ ['=', '"'] ++ a.content ++ ['"'] := by
  cases a with
  | plain name value =>
    have plain : name.flatMap Escape.attributeEntity = name := h.plain
    simp only [text, Attribute.name, content, plain]
  | address name value => rfl

theorem IsTidy.encloses {a : Attribute} (h : a.IsTidy) : a.Encloses := by
  intro c mem
  rw [h.text_eq] at mem
  have key := h.key
  simp only [isKey, Bool.and_eq_true, List.all_eq_true] at key
  simp only [List.mem_append, List.mem_cons, List.not_mem_nil, or_false] at mem
  rcases mem with (((rfl | mem) | rfl | rfl) | mem) | rfl
  · decide
  · have := key.2 c mem
    simp_all
  · decide
  · decide
  · exact (mem_content mem).2.1
  · decide

/-- The attributes of a tag are read. -/
theorem read_tidy {as : List Attribute} (h : ∀ a ∈ as, a.IsTidy) :
    ∀ (t : Html.Tag) {p : Place}, p = .name ∨ p = .between →
      ∃ p', (p' = .name ∨ p' = .between) ∧
        Html.read (.inside t p) (as.flatMap text) =
          (.inside { t with attributes := (as.map name).reverse ++ t.attributes } p', []) := by
  induction as with
  | nil => exact fun t p place => ⟨p, place, rfl⟩
  | cons a as ih =>
    intro t p place
    rw [List.forall_mem_cons] at h
    have first := read_attribute t place h.1.key fun c mem => (mem_content (a := a) mem).2.2
    obtain ⟨p', place', rest⟩ := ih h.2 (t.add a.name) (.inr rfl)
    refine ⟨p', place', ?_⟩
    rw [List.flatMap_cons, read_append, h.1.text_eq, first, rest]
    simp [Html.Tag.add]

end Attribute

/-! ## Marks -/

namespace Mark

/-- The tag that a mark is to be read as. -/
def tag? : Mark → Option Html.Tag
  | .opening name attributes => some ⟨false, name.toList, (attributes.map Attribute.name).reverse⟩
  | .empty name attributes _ => some ⟨false, name.toList, (attributes.map Attribute.name).reverse⟩
  | .closing name => some ⟨true, name.toList, []⟩
  | .text _ => none
  | .raw _ => none
  | .newline => none

/-- A mark is read as the tag that it is. -/
def IsTidy : Mark → Prop
  | .opening name attributes => isName name.toList ∧ ∀ a ∈ attributes, a.IsTidy
  | .empty name attributes gap =>
    isName name.toList ∧ (∀ a ∈ attributes, a.IsTidy) ∧ (gap = [] ∨ gap = [' '])
  | .closing name => isName name.toList
  | .text _ => True
  | .raw _ => False
  | .newline => True

/-- A mark begins a heading. -/
def IsHeading (m : Mark) : Prop :=
  ∃ (level : Level) (attributes : List Attribute), m = .opening level.name attributes ∧
    ∀ a ∈ attributes, a.Encloses

variable {m : Mark}

/-- What is read of the start of a tag. -/
theorem read_start {name : String} {attributes : List Attribute} (isName : isName name.toList)
    (tidy : ∀ a ∈ attributes, a.IsTidy) :
    ∃ p, (p = .name ∨ p = .between) ∧
      Html.read .text ('<' :: name.toList ++ attributes.flatMap Attribute.text) =
        (.inside ⟨false, name.toList, (attributes.map Attribute.name).reverse⟩ p, []) := by
  have start : Html.read .text ('<' :: name.toList) =
    (.inside ⟨false, name.toList, []⟩ .name, []) := read_name false isName
  obtain ⟨p, place, rest⟩ := Attribute.read_tidy tidy ⟨false, name.toList, []⟩ (.inl rfl)
  refine ⟨p, place, ?_⟩
  rw [read_append, start, rest, List.append_nil]
  rfl

/-- What is read of a tidy mark. -/
theorem read_written (tidy : m.IsTidy) :
    Html.read .text m.written = (.text, m.tag?.toList) := by
  cases m with
  | opening name attributes =>
    obtain ⟨p, place, start⟩ := read_start tidy.1 tidy.2
    have stop (t : Html.Tag) : Html.read (.inside t p) ['>'] = (.text, [t]) := by
      rcases place with rfl | rfl <;> rfl
    rw [written, read_append, start, stop]
    rfl
  | empty name attributes gap =>
    obtain ⟨isName, tidy, blank⟩ := tidy
    obtain ⟨p, place, start⟩ := read_start isName tidy
    have stop (t : Html.Tag) : Html.read (.inside t p) (gap ++ ['/', '>']) = (.text, [t]) := by
      rcases blank with rfl | rfl <;> rcases place with rfl | rfl <;> rfl
    rw [written, List.append_assoc, read_append, start, stop]
    rfl
  | closing name =>
    have start : Html.read .text ('<' :: '/' :: name.toList) =
      (.inside ⟨true, name.toList, []⟩ .name, []) := read_name true tidy
    rw [written, read_append, start]
    rfl
  | text cs =>
    refine read_text fun c mem => ?_
    obtain ⟨d, -, h⟩ := List.mem_flatMap.1 mem
    exact (Escape.mem_bodyEntity h).1
  | raw cs => cases tidy
  | newline => rfl

/-- The start of a tag does not end it. -/
theorem ne_of_mem_start {name : String} {attributes : List Attribute} (isName : isName name.toList)
    (encloses : ∀ a ∈ attributes, a.Encloses) :
    ∀ c ∈ '<' :: name.toList ++ attributes.flatMap Attribute.text, c ≠ '>' := by
  simp only [Html.isName, Bool.and_eq_true, List.all_eq_true] at isName
  intro c mem
  simp only [List.mem_append, List.mem_cons, List.mem_flatMap] at mem
  rcases mem with (rfl | mem) | ⟨a, inside, mem⟩
  · decide
  · have := isName.2 c mem
    simp_all
  · exact encloses a inside c mem

theorem isName_heading (level : Level) : isName level.name.toList := by
  cases level <;> decide

/-- A mark has an angle bracket at most at its end. -/
theorem exists_written (h : m.IsTidy ∨ m.IsHeading) :
    ∃ cs, (∀ c ∈ cs, c ≠ '>') ∧ (m.written = cs ∧ m.tag? = none ∨ m.written = cs ++ ['>']) := by
  have tag {name : String} {attributes : List Attribute} (isName : isName name.toList)
      (encloses : ∀ a ∈ attributes, a.Encloses) :
      ∃ cs, (∀ c ∈ cs, c ≠ '>') ∧
        ((Mark.opening name attributes).written = cs ∧ (Mark.opening name attributes).tag? = none ∨
          (Mark.opening name attributes).written = cs ++ ['>']) :=
    ⟨_, ne_of_mem_start isName encloses, .inr rfl⟩
  rcases h with tidy | ⟨level, attributes, rfl, encloses⟩
  · cases m with
    | opening name attributes => exact tag tidy.1 fun a mem => (tidy.2 a mem).encloses
    | empty name attributes gap =>
      obtain ⟨isName, tidy, blank⟩ := tidy
      have start := ne_of_mem_start isName fun a mem => (tidy a mem).encloses
      refine ⟨'<' :: name.toList ++ attributes.flatMap Attribute.text ++ gap ++ ['/'], ?_,
        .inr (by simp [written])⟩
      intro c mem
      rcases List.mem_append.1 mem with mem | mem
      · rcases List.mem_append.1 mem with mem | mem
        · exact start c mem
        · rcases blank with rfl | rfl
          · cases mem
          · cases List.mem_singleton.1 mem
            decide
      · cases List.mem_singleton.1 mem
        decide
    | closing name =>
      refine ⟨'<' :: '/' :: name.toList, fun c mem => ?_, .inr rfl⟩
      have start := ne_of_mem_start tidy (List.forall_mem_nil _)
      rcases List.mem_cons.1 mem with rfl | mem
      · decide
      · rcases List.mem_cons.1 mem with rfl | mem
        · decide
        · exact start c (List.mem_append_left _ (List.mem_cons_of_mem _ mem))
    | text cs =>
      refine ⟨cs.flatMap Escape.bodyEntity, fun c mem => ?_, .inl ⟨rfl, rfl⟩⟩
      obtain ⟨d, -, h⟩ := List.mem_flatMap.1 mem
      exact (Escape.mem_bodyEntity h).2.1
    | raw cs => cases tidy
    | newline => exact ⟨['\n'], List.forall_mem_singleton.2 (by decide), .inl ⟨rfl, rfl⟩⟩
  · exact tag (isName_heading level) encloses

/-- What is read of the start of a heading. -/
theorem read_heading (h : m.IsHeading) :
    ∃ t, m.tag? = some t ∧ t.IsHeading ∧
      (Within t.shape (Html.read .text m.written).1 ∧ (Html.read .text m.written).2 = [] ∨
        ∃ t', t'.shape = t.shape ∧ Html.read .text m.written = (.text, [t'])) := by
  obtain ⟨level, attributes, rfl, encloses⟩ := h
  let name := level.name.toList
  have start : Html.read .text ('<' :: name) = (.inside ⟨false, name, []⟩ .name, []) :=
    read_name false (isName_heading level)
  refine ⟨_, rfl, ⟨level, rfl⟩, ?_⟩
  cases attributes with
  | nil =>
    refine .inr ⟨⟨false, name, []⟩, rfl, ?_⟩
    show Html.read .text ('<' :: name ++ [] ++ ['>']) = _
    rw [List.append_nil, read_append, start]
    rfl
  | cons a as =>
    obtain ⟨cs, blank⟩ : ∃ cs, a.text = ' ' :: cs := by cases a <;> exact ⟨_, rfl⟩
    -- behind the blank the name is known, and what follows does not end the tag
    have between : Html.read .text ('<' :: name ++ [' ']) =
        (.inside ⟨false, name, []⟩ .between, []) := by
      rw [read_append, start]
      rfl
    have within : Within (false, name) (.inside ⟨false, name, []⟩ .between) :=
      ⟨_, _, rfl, rfl, nofun⟩
    have open_ : ∀ c ∈ cs ++ as.flatMap Attribute.text, c ≠ '>' := by
      intro c mem
      rw [List.forall_mem_cons] at encloses
      rcases List.mem_append.1 mem with mem | mem
      · exact encloses.1 c (blank ▸ List.mem_cons_of_mem _ mem)
      · obtain ⟨a', inside, mem⟩ := List.mem_flatMap.1 mem
        exact encloses.2 a' inside c mem
    have parts : (Mark.opening level.name (a :: as)).written =
        '<' :: name ++ [' '] ++ (cs ++ as.flatMap Attribute.text ++ ['>']) := by
      simp [written, blank, name]
    rw [parts, read_append, between]
    exact within.read_bracket open_

/-- What is read of tidy marks. -/
theorem read_print {ms : List Mark} (tidy : ∀ m ∈ ms, m.IsTidy) :
    Html.read .text (print ms) = (.text, ms.filterMap tag?) := by
  induction ms with
  | nil => rfl
  | cons m ms ih =>
    rw [List.forall_mem_cons] at tidy
    rw [print_cons, read_append, read_written tidy.1]
    dsimp only
    rw [ih tidy.2, List.filterMap_cons]
    cases m.tag? <;> rfl

/-- The tags of some marks without their attributes. -/
def shapes (ms : List Mark) : List (Bool × List Char) := (ms.filterMap tag?).map Html.Tag.shape

/-- Some tags are among given ones, and none but those of headings handle events. -/
structure Harmless (xs : List (Bool × List Char)) (ts : List Html.Tag) : Prop where
  shapes : (ts.map Html.Tag.shape).Sublist xs
  headings : ∀ t ∈ ts, t.handlesEvents → t.IsHeading

theorem Harmless.append {xs xs' : List (Bool × List Char)} {ts ts' : List Html.Tag}
    (h : Harmless xs ts) (h' : Harmless xs' ts') : Harmless (xs ++ xs') (ts ++ ts') := by
  refine ⟨?_, List.forall_mem_append.2 ⟨h.headings, h'.headings⟩⟩
  rw [List.map_append]
  exact h.shapes.append h'.shapes

theorem harmless_nil {xs : List (Bool × List Char)} : Harmless xs [] :=
  ⟨List.nil_sublist _, List.forall_mem_nil _⟩

theorem Harmless.mono {xs xs' : List (Bool × List Char)} {ts : List Html.Tag} (h : Harmless xs ts)
    (more : xs.Sublist xs') : Harmless xs' ts := ⟨h.shapes.trans more, h.headings⟩

theorem harmless_heading {t t' : Html.Tag} (heading : t.IsHeading) (same : t'.shape = t.shape) :
    Harmless [t.shape] [t'] := by
  obtain ⟨level, shape⟩ := heading
  refine ⟨by rw [← same]; exact .refl _, List.forall_mem_singleton.2 fun _ => ?_⟩
  exact ⟨level, same.trans shape⟩

theorem not_handlesEvents {attributes : List Attribute} (tidy : ∀ a ∈ attributes, a.IsTidy)
    (isClosing : Bool) (name : List Char) :
    ¬ Html.Tag.handlesEvents ⟨isClosing, name, (attributes.map Attribute.name).reverse⟩ := by
  intro handles
  obtain ⟨name', mem, handler⟩ := List.any_eq_true.1 handles
  obtain ⟨a, inside, rfl⟩ := List.mem_map.1 (List.mem_reverse.1 mem)
  exact Bool.false_ne_true ((tidy a inside).quiet.symm.trans handler)

/-- The tag of a tidy mark handles no event. -/
theorem IsTidy.quiet (tidy : m.IsTidy) {t : Html.Tag} (tag : m.tag? = some t) :
    ¬ t.handlesEvents := by
  cases m with
  | opening name attributes =>
    cases tag
    exact not_handlesEvents tidy.2 _ _
  | empty name attributes gap =>
    cases tag
    exact not_handlesEvents tidy.2.1 _ _
  | closing name =>
    cases tag
    exact Bool.false_ne_true
  | _ => cases tag

theorem harmless_tidy (tidy : m.IsTidy) : Harmless (shapes [m]) m.tag?.toList := by
  cases tag : m.tag? with
  | none => exact harmless_nil
  | some t =>
    refine ⟨?_, List.forall_mem_singleton.2 fun handles => absurd handles (tidy.quiet tag)⟩
    simp [shapes, tag]

theorem shapes_cons (m : Mark) (ms : List Mark) : shapes (m :: ms) = shapes [m] ++ shapes ms := by
  rw [shapes, ← List.singleton_append, List.filterMap_append, List.map_append]
  rfl

/-- What is read of tidy marks and headings, from their start or in the midst of a heading. -/
theorem harmless_print {ms : List Mark} (h : ∀ m ∈ ms, m.IsTidy ∨ m.IsHeading) :
    Harmless (shapes ms) (Html.read .text (print ms)).2 ∧
      ∀ t : Html.Tag, t.IsHeading → ∀ s, Within t.shape s →
        Harmless (t.shape :: shapes ms) (Html.read s (print ms)).2 := by
  induction ms with
  | nil => exact ⟨harmless_nil, fun _ _ _ _ => harmless_nil⟩
  | cons m ms ih =>
    rw [List.forall_mem_cons] at h
    rw [print_cons, shapes_cons]
    obtain ⟨fromText, fromHeading⟩ := ih h.2
    refine ⟨?_, fun t heading s within => ?_⟩
    · rcases h.1 with tidy | heading
      · rw [read_append, read_written tidy]
        exact (harmless_tidy tidy).append fromText
      · obtain ⟨t, tag, isHeading, ⟨within, none⟩ | ⟨t', same, read⟩⟩ := read_heading heading
        · rw [read_append, none]
          have rest := fromHeading t isHeading _ within
          have shape : shapes [m] = [t.shape] := by simp [shapes, tag]
          rw [shape]
          exact rest
        · rw [read_append, read]
          have shape : shapes [m] = [t.shape] := by simp [shapes, tag]
          rw [shape]
          exact (harmless_heading isHeading same).append fromText
    · -- the tag goes on up to an angle bracket outside of quotes
      obtain ⟨cs, open_, ⟨written, none⟩ | written⟩ := exists_written h.1
      · obtain ⟨within', nothing⟩ := within.read open_
        have shape : shapes [m] = [] := by simp [shapes, none]
        rw [read_append, written, nothing, shape]
        exact fromHeading t heading _ within'
      · rw [read_append, written]
        rcases within.read_bracket open_ with ⟨within', nothing⟩ | ⟨t', same, read⟩
        · rw [nothing]
          exact (fromHeading t heading _ within').mono
            (.cons_cons _ (List.sublist_append_right _ _))
        · rw [read]
          exact (harmless_heading heading same).append
            (fromText.mono (List.sublist_append_right _ _))

end Mark

/-! ## Generated HTML -/

/-- The elements of generated HTML. -/
def tagNames : List String := elements ++ ["a", "img", "h1", "h2", "h3", "h4", "h5", "h6"]

theorem name_mem_tagNames (level : Level) : level.name ∈ tagNames := by
  cases level <;> decide

theorem isName_of_element {name : String} (element : name ∈ elements) : isName name.toList := by
  have all : ∀ name ∈ elements, isName name.toList := by decide
  exact all name element

/-- Attributes with the names that a writer gives them are tidy. -/
theorem isTidy_of_name {a : Attribute} (name : String)
    (mem : name ∈ attributeNames ++ ["alt", "href", "src", "title"]) (same : a.name = name.toList) :
    a.IsTidy := by
  have all : ∀ name ∈ attributeNames ++ ["alt", "href", "src", "title"], isKey name.toList ∧
      ['o', 'n'].isPrefixOf name.toList = false ∧
        name.toList.flatMap Escape.attributeEntity = name.toList := by decide
  obtain ⟨key, quiet, plain⟩ := all name mem
  rw [← same] at key quiet plain
  exact ⟨key, quiet, plain⟩

theorem isTidy_common {attributes : List Attribute} (common : ∀ a ∈ attributes, IsCommon a) :
    ∀ a ∈ attributes, a.IsTidy := by
  intro a mem
  obtain ⟨name, known, value, rfl⟩ := common a mem
  exact isTidy_of_name name (List.mem_append_left _ known) rfl

theorem isTidy_titles (t : Target) : ∀ a ∈ t.titles, a.IsTidy := by
  unfold Target.titles
  split
  · exact List.forall_mem_nil _
  · exact List.forall_mem_singleton.2 (isTidy_of_name "title" (by decide) rfl)

/-- The names of the attributes of headings are escaped. -/
theorem exists_plain_of_mem_list {a : Attributes} {b : Attribute} (mem : b ∈ a.list) :
    ∃ name value, b = .plain name value := by
  simp only [Attributes.list, List.mem_append] at mem
  rcases mem with (mem | mem) | mem
  · cases id : a.id with
    | none => simp [id] at mem
    | some id' => simp_all
  · split at mem
    · cases mem
    · exact ⟨_, _, List.mem_singleton.1 mem⟩
  · obtain ⟨⟨name, value⟩, -, rfl⟩ := List.mem_map.1 mem
    exact ⟨_, _, rfl⟩

theorem encloses_list (a : Attributes) : ∀ b ∈ a.list, b.Encloses := by
  intro b mem
  obtain ⟨name, value, rfl⟩ := exists_plain_of_mem_list mem
  exact Attribute.encloses_plain name value

namespace Makes

variable {es : List Event} {m : Mark}

/-- Where there is no raw HTML, all marks are tidy but for headings with attributes. -/
theorem isTidy_or_isHeading (made : Makes es m)
    (escaped : ∀ cs, .html cs ∉ es ∧ .inlineHtml cs ∉ es) :
    m.IsTidy ∨ m.IsHeading ∧ ∃ level a, a ≠ .none ∧ .start (.heading level a) ∈ es := by
  cases made with
  | text cs => exact .inl trivial
  | newline => exact .inl trivial
  | @raw cs html => exact html.elim (absurd · (escaped cs).1) (absurd · (escaped cs).2)
  | opening element common => exact .inl ⟨isName_of_element element, isTidy_common common⟩
  | empty element common blank =>
    exact .inl ⟨isName_of_element element, isTidy_common common, blank⟩
  | closing element => exact .inl (isName_of_element element)
  | @link _ t _ =>
    exact .inl ⟨by decide, List.forall_mem_cons.2
      ⟨isTidy_of_name "href" (by decide) rfl, isTidy_titles t⟩⟩
  | reference label =>
    exact .inl ⟨by decide, List.forall_mem_singleton.2 (isTidy_of_name "href" (by decide) rfl)⟩
  | linkEnd => exact .inl (by decide : isName "a".toList)
  | @image _ t _ alt =>
    refine .inl ⟨by decide, List.forall_mem_cons.2 ⟨isTidy_of_name "src" (by decide) rfl, ?_⟩,
      .inr rfl⟩
    exact List.forall_mem_cons.2 ⟨isTidy_of_name "alt" (by decide) rfl, isTidy_titles t⟩
  | @heading level a mem =>
    by_cases bare : a = .none
    · subst bare
      exact .inl ⟨Mark.isName_heading level, List.forall_mem_nil _⟩
    · exact .inr ⟨⟨level, _, rfl, encloses_list a⟩, level, a, bare, mem⟩
  | headingEnd level => exact .inl (Mark.isName_heading level)

/-- The elements of tags are known. -/
theorem mem_tagNames (made : Makes es m) {t : Html.Tag} (tag : m.tag? = some t) :
    String.ofList t.name ∈ tagNames := by
  have element {name : String} (known : name ∈ elements) :
      String.ofList name.toList ∈ tagNames := by
    rw [String.ofList_toList]
    exact List.mem_append_left _ known
  have heading (level : Level) : String.ofList level.name.toList ∈ tagNames := by
    rw [String.ofList_toList]
    exact name_mem_tagNames level
  cases made with
  | text cs => cases tag
  | newline => cases tag
  | raw => cases tag
  | opening known common =>
    cases tag
    exact element known
  | empty known common blank =>
    cases tag
    exact element known
  | closing known =>
    cases tag
    exact element known
  | heading mem =>
    cases tag
    exact heading _
  | headingEnd level =>
    cases tag
    exact heading level
  | image mem alt =>
    cases tag
    exact (by decide : String.ofList "img".toList ∈ tagNames)
  | _ =>
    cases tag
    exact (by decide : String.ofList "a".toList ∈ tagNames)

end Makes

/-- Where raw HTML is escaped, the tags in the HTML of a text are those of its marks. None of them
handles an event, but for headings of the flavor that reads attributes of headings. -/
theorem tags_of_render {L : Library} (balances : L.Balances) (writes : L.WritesHtml)
    (headings : L.ReadsAttributes) {text : String} {flavor : Flavor} {s : Sanitizer}
    (escaped : s.allowsHtml = false ∨ flavor = .preEncode) :
    let found := Html.tags (L.render text flavor s).toList
    ∃ ms, L.Yields text flavor s ms ∧
      (∀ cs, .raw cs ∉ ms) ∧
      (found.map Html.Tag.shape).Sublist (Mark.shapes ms) ∧
      (flavor ≠ .extra → found = ms.filterMap Mark.tag?) ∧
      (∀ t ∈ found, String.ofList t.name ∈ tagNames) ∧
      ∀ t ∈ found, t.handlesEvents → flavor = .extra ∧ t.IsHeading := by
  intro found
  obtain ⟨ms, yields⟩ := L.exists_yields balances writes text flavor s
  have escapes (cs : List Char) : .html cs ∉ L.sanitized text flavor s ∧
      .inlineHtml cs ∉ L.sanitized text flavor s := by
    rw [← not_or]
    intro mem
    obtain ⟨allowed, other⟩ := Library.allowed_of_mem mem
    rcases escaped with escaped | same
    · exact Bool.false_ne_true (escaped.symm.trans allowed)
    · exact other same
  have kinds (m : Mark) (mem : m ∈ ms) := (yields.makes mem).isTidy_or_isHeading escapes
  have printed : found = (Html.read .text (Mark.print ms)).2 :=
    congrArg (fun html => (Html.read .text html).2) yields.html
  obtain ⟨harmless, -⟩ := Mark.harmless_print fun m mem => (kinds m mem).imp_right And.left
  rw [← printed] at harmless
  have allTidy (other : flavor ≠ .extra) :
      (∀ m ∈ ms, m.IsTidy) ∧ found = ms.filterMap Mark.tag? := by
    have unread : flavor.extensions.headingAttributes = false := by
      cases flavor with
      | extra => exact absurd rfl other
      | _ => rfl
    have tidy (m : Mark) (mem : m ∈ ms) : m.IsTidy :=
      (kinds m mem).resolve_right fun ⟨_, level, a, carries, mem⟩ =>
        carries (headings _ text level a unread (Library.mem_of_mem_heading mem))
    exact ⟨tidy, by rw [printed, Mark.read_print tidy]⟩
  refine ⟨ms, yields, fun cs mem => ?_, harmless.shapes, fun other => (allTidy other).2,
    fun t mem => ?_, fun t mem handles => ⟨?_, harmless.headings t mem handles⟩⟩
  · rcases kinds _ mem with tidy | ⟨⟨level, _, same, -⟩, -⟩
    · cases tidy
    · cases same
  · obtain ⟨t', tag, same⟩ := List.mem_map.1 (harmless.shapes.subset (List.mem_map_of_mem mem))
    obtain ⟨m, inside, tag⟩ := List.mem_filterMap.1 tag
    rw [← (Prod.mk.inj same).2]
    exact (yields.makes inside).mem_tagNames tag
  · by_contra other
    obtain ⟨tidy, all⟩ := allTidy other
    rw [all] at mem
    obtain ⟨m, inside, tag⟩ := List.mem_filterMap.1 mem
    exact (tidy m inside).quiet tag handles

/-- A tag in the text and the quotes of a title are escaped. -/
theorem tags_of_render_title :
    let text := "<b onclick=x> [a](b 'c\" onclick=\"d')"
    let found := Html.tags (commonMark.render text .classic .default).toList
    Sanitizer.default.allowsHtml = false ∧
      found = [⟨false, "p".toList, []⟩, ⟨false, "a".toList, ["title".toList, "href".toList]⟩,
        ⟨true, "a".toList, []⟩, ⟨true, "p".toList, []⟩] ∧
      ∃ ms, commonMark.Yields text .classic .default ms ∧ found = ms.filterMap Mark.tag? ∧
        ∀ t ∈ found, t.handlesEvents → Flavor.classic = .extra ∧ t.IsHeading := by
  intro text found
  obtain ⟨ms, yields, -, -, all, -, quiet⟩ := @tags_of_render commonMark commonMark_balances
    commonMark_writesHtml commonMark_readsAttributes text .classic .default (.inl rfl)
  exact ⟨rfl, by decide +kernel, ms, yields, all nofun, quiet⟩

/-- An author gives a heading an attribute with a script. -/
theorem handlesEvents_heading :
    let html := commonMark.render "# a \x7bonclick=x\x7d" .extra .default
    Sanitizer.default.allowsHtml = false ∧ html = "<h1 onclick=\"x\">a</h1>\n" ∧
      ∃ t ∈ Html.tags html.toList, t.handlesEvents := by
  decide +kernel

end Stencil.Markdown
