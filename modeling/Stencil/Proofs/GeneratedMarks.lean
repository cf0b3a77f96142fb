import Stencil.Markdown

/-!
# The marks of generated HTML

Events are written as the tags of a few elements. Only links, images and headings have attributes
that the author of a text has a say in, and these events are as they have been read but for what the
sanitizer changes.

- `Attribute.name`, `Attribute.content`: the parts of an attribute.
- `Makes`: the marks that some events are written as.
- `Written.makesAll`: the marks of a document.
- `Balanced.sanitized`: elements stay nested when events are sanitized.
- `Library.Yields`: some marks are the HTML of a text.
-/

namespace Stencil.Markdown

/-- The name of an attribute. -/
def Attribute.name : Attribute → List Char
  | .plain name _ => name
  | .address name _ => name

/-- The value of an attribute as it is written. -/
def Attribute.content : Attribute → List Char
  | .plain _ value => value.flatMap Escape.attributeEntity
  | .address _ value => value.flatMap Escape.addressEntity

/-- The elements that are neither links nor images nor headings. -/
def elements : List String :=
  ["blockquote", "br", "code", "del", "div", "em", "hr", "input", "li", "ol", "p", "pre", "strong",
    "sup", "table", "tbody", "td", "th", "thead", "tr", "ul"]

/-- The names of their attributes. -/
def attributeNames : List String :=
  ["checked", "class", "disabled", "id", "start", "style", "type"]

/-- An attribute with one of these names. -/
def IsCommon (a : Attribute) : Prop :=
  ∃ name ∈ attributeNames, ∃ value, a = .plain name.toList value

/-- The marks that some events are written as. -/
inductive Makes (es : List Event) : Mark → Prop
  | text (cs : List Char) : Makes es (.text cs)
  | newline : Makes es .newline
  | raw {cs : List Char} (html : .html cs ∈ es ∨ .inlineHtml cs ∈ es) : Makes es (.raw cs)
  | opening {name : String} {attributes : List Attribute} (element : name ∈ elements)
      (common : ∀ a ∈ attributes, IsCommon a) : Makes es (.opening name attributes)
  | empty {name : String} {attributes : List Attribute} {gap : List Char}
      (element : name ∈ elements) (common : ∀ a ∈ attributes, IsCommon a)
      (blank : gap = [] ∨ gap = [' ']) : Makes es (.empty name attributes gap)
  | closing {name : String} (element : name ∈ elements) : Makes es (.closing name)
  | link {kind : LinkKind} {t : Target} (mem : .start (.link kind t) ∈ es) :
      Makes es (.opening "a" (.address ['h', 'r', 'e', 'f'] (kind.scheme ++ t.url) :: t.titles))
  | reference (label : List Char) :
      Makes es (.opening "a" [.plain ['h', 'r', 'e', 'f'] ('#' :: label)])
  | linkEnd : Makes es (.closing "a")
  | image {kind : LinkKind} {t : Target} (mem : .start (.image kind t) ∈ es) (alt : List Char) :
      Makes es (t.image alt)
  | heading {level : Level} {a : Attributes} (mem : .start (.heading level a) ∈ es) :
      Makes es (.opening level.name a.list)
  | headingEnd (level : Level) : Makes es (.closing level.name)

/-- Some marks are made. -/
def MakesAll (es : List Event) (ms : List Mark) : Prop := ∀ m ∈ ms, Makes es m

namespace MakesAll

variable {es : List Event} {m : Mark} {ms ms' : List Mark}

theorem nil : MakesAll es [] := nofun

theorem cons (h : Makes es m) (hs : MakesAll es ms) : MakesAll es (m :: ms) :=
  List.forall_mem_cons.2 ⟨h, hs⟩

theorem one (h : Makes es m) : MakesAll es [m] := cons h nil

theorem append (h : MakesAll es ms) (h' : MakesAll es ms') : MakesAll es (ms ++ ms') :=
  List.forall_mem_append.2 ⟨h, h'⟩

/-- The opening tag of an element without attributes. -/
theorem opening (name : String) (element : name ∈ elements) : MakesAll es [.opening name []] :=
  one (.opening element (List.forall_mem_nil _))

/-- The closing tag of an element. -/
theorem closing (name : String) (element : name ∈ elements) : MakesAll es [.closing name] :=
  one (.closing element)

end MakesAll

open MakesAll

/-! ## Attributes -/

theorem isCommon_class (value : List Char) : IsCommon (.plain ['c', 'l', 'a', 's', 's'] value) :=
  ⟨"class", by simp [attributeNames], value, rfl⟩

theorem isCommon_classOf (name : String) : ∀ a ∈ classOf name, IsCommon a :=
  List.forall_mem_singleton.2 (isCommon_class _)

theorem isCommon_language (info : Option (List Char)) : ∀ a ∈ language info, IsCommon a := by
  unfold language
  split
  · exact List.forall_mem_nil _
  · exact List.forall_mem_singleton.2 (isCommon_class _)

theorem isCommon_style (alignment : Alignment) : ∀ a ∈ alignment.style, IsCommon a := by
  have common (side : String) : IsCommon
      (.plain ['s', 't', 'y', 'l', 'e'] ("text-align: ".toList ++ side.toList)) :=
    ⟨"style", by simp [attributeNames], _, rfl⟩
  cases alignment with
  | none => exact List.forall_mem_nil _
  | left => exact List.forall_mem_singleton.2 (common _)
  | center => exact List.forall_mem_singleton.2 (common _)
  | right => exact List.forall_mem_singleton.2 (common _)

theorem isCommon_numbering (start : Option Nat) : ∀ a ∈ numbering start, IsCommon a := by
  unfold numbering
  split
  · exact List.forall_mem_nil _
  · exact List.forall_mem_nil _
  · exact List.forall_mem_singleton.2 ⟨"start", by simp [attributeNames], _, rfl⟩

theorem isCommon_box (isTicked : Bool) : ∀ a ∈ box isTicked, IsCommon a := by
  have known : ∀ isTicked : Bool, ∀ p ∈ [("disabled", ""), ("type", "checkbox")] ++
      (if isTicked then [("checked", "")] else []), p.1 ∈ attributeNames := by decide
  intro a mem
  obtain ⟨⟨name, value⟩, inside, rfl⟩ := List.mem_map.1 mem
  exact ⟨name, known isTicked _ inside, value.toList, rfl⟩

/-! ## Events -/

section

variable {es es' : List Event} {ms : List Mark} (s : Setting)

theorem makesAll_raised (name : String) (h : MakesAll es ms) : MakesAll es (raised name ms) :=
  cons (.opening (by simp [elements]) (isCommon_classOf name))
    (h.append (closing "sup" (by simp [elements])))

theorem cell_mem : s.cell ∈ elements := by
  rw [Setting.cell]
  split <;> simp [elements]

/-- The marks of the start of an element. -/
theorem makesAll_start {x : Element} (mem : .start x ∈ es) : MakesAll es (x.marks s) := by
  cases x with
  | paragraph => exact opening "p" (by simp [elements])
  | heading level a => exact one (.heading mem)
  | quote => exact opening "blockquote" (by simp [elements])
  | code info =>
    exact (opening "pre" (by simp [elements])).append
      (one (.opening (by simp [elements]) (isCommon_language info)))
  | html => exact nil
  | list start =>
    refine one (.opening ?_ (isCommon_numbering start))
    split <;> simp [elements]
  | item => exact opening "li" (by simp [elements])
  | footnote label =>
    have attributes : ∀ a ∈ classOf "footnote-definition" ++ [.plain ['i', 'd'] label],
        IsCommon a :=
      List.forall_mem_append.2 ⟨isCommon_classOf _,
        List.forall_mem_singleton.2 ⟨"id", by simp [attributeNames], label, rfl⟩⟩
    exact cons (.opening (by simp [elements]) attributes) (makesAll_raised _ (one (.text _)))
  | table alignments => exact opening "table" (by simp [elements])
  | tableHead =>
    exact (opening "thead" (by simp [elements])).append (opening "tr" (by simp [elements]))
  | tableRow => exact opening "tr" (by simp [elements])
  | tableCell => exact one (.opening (cell_mem s) (isCommon_style _))
  | emphasis => exact opening "em" (by simp [elements])
  | strong => exact opening "strong" (by simp [elements])
  | strike => exact opening "del" (by simp [elements])
  | link kind t => exact one (.link mem)
  | image kind t => exact nil

/-- The marks of the end of an element. -/
theorem makesAll_stop (x : ElementEnd) : MakesAll es (x.marks s) := by
  cases x with
  | paragraph => exact closing "p" (by simp [elements])
  | heading level => exact one (.headingEnd level)
  | quote => exact closing "blockquote" (by simp [elements])
  | code => exact (closing "code" (by simp [elements])).append (closing "pre" (by simp [elements]))
  | html => exact nil
  | list isNumbered =>
    refine one (.closing ?_)
    split <;> simp [elements]
  | item => exact closing "li" (by simp [elements])
  | footnote => exact closing "div" (by simp [elements])
  | table =>
    exact (closing "tbody" (by simp [elements])).append (closing "table" (by simp [elements]))
  | tableHead =>
    exact (closing "tr" (by simp [elements])).append
      ((closing "thead" (by simp [elements])).append (opening "tbody" (by simp [elements])))
  | tableRow => exact closing "tr" (by simp [elements])
  | tableCell => exact closing s.cell (cell_mem s)
  | emphasis => exact closing "em" (by simp [elements])
  | strong => exact closing "strong" (by simp [elements])
  | strike => exact closing "del" (by simp [elements])
  | link => exact one .linkEnd
  | image => exact nil

/-- The marks of an event. -/
theorem makesAll_event {e : Event} (mem : e ∈ es) : MakesAll es (e.marks s) := by
  cases e with
  | start x => exact makesAll_start s mem
  | stop x => exact makesAll_stop s x
  | text cs => exact one (.text cs)
  | code cs =>
    exact (opening "code" (by simp [elements])).append
      (cons (.text cs) (closing "code" (by simp [elements])))
  | html cs => exact one (.raw (.inl mem))
  | inlineHtml cs => exact one (.raw (.inr mem))
  | footnote label =>
    exact makesAll_raised _ (cons (.reference label) (cons (.text _) (one .linkEnd)))
  | softBreak => exact nil
  | hardBreak => exact one (.empty (by simp [elements]) (List.forall_mem_nil _) (.inr rfl))
  | rule => exact one (.empty (by simp [elements]) (List.forall_mem_nil _) (.inr rfl))
  | task isTicked => exact one (.empty (by simp [elements]) (isCommon_box isTicked) (.inl rfl))

/-- The marks of a document are those of its events. -/
theorem Written.makesAll (h : Written es' ms) (inside : es' ⊆ es) : MakesAll es ms := by
  induction h with
  | nil => exact MakesAll.nil
  | newline _ ih => exact cons .newline (ih inside)
  | event s _ _ ih =>
    rw [List.cons_subset] at inside
    exact (makesAll_event s inside.1).append (ih inside.2)
  | image alt _ _ ih =>
    rw [List.append_subset, List.cons_subset, List.cons_subset] at inside
    exact cons (.image inside.1.1 alt) (ih inside.2.2)

end

/-! ## What the sanitizer changes -/

/-- Elements stay nested when events are sanitized. -/
theorem Balanced.sanitized {es : List Event} (h : Balanced es) (s : Sanitizer)
    (allowsHtml keepsBreaks : Bool) :
    Balanced (es.map (Event.sanitize s allowsHtml keepsBreaks)) := by
  induction h with
  | nil => exact .nil
  | @leaf e _ isLeaf _ ih =>
    refine .leaf ?_ ih
    cases e with
    | html cs => cases allowsHtml <;> rfl
    | inlineHtml cs => cases allowsHtml <;> rfl
    | softBreak => cases keepsBreaks <;> rfl
    | start x => cases isLeaf
    | stop x => cases isLeaf
    | _ => rfl
  | @element x _ _ _ _ within rest =>
    obtain ⟨y, start, stop⟩ : ∃ y, Event.sanitize s allowsHtml keepsBreaks (.start x) = .start y ∧
        y.stop = x.stop := by
      cases x <;> exact ⟨_, rfl, rfl⟩
    rw [List.map_append, List.map_cons, List.map_cons, start]
    have element := Balanced.element (x := y) within rest
    rw [stop] at element
    exact element

namespace Library

variable {L : Library} {text : String} {flavor : Flavor} {s : Sanitizer} {cs : List Char}
  {kind : LinkKind} {t : Target} {level : Level} {a : Attributes}

/-- Raw HTML is written only where it is allowed. -/
theorem allowed_of_mem (mem : .html cs ∈ L.sanitized text flavor s ∨
    .inlineHtml cs ∈ L.sanitized text flavor s) : s.allowsHtml ∧ flavor ≠ .preEncode := by
  have allowed {e : Event} (raw : e = .html cs ∨ e = .inlineHtml cs)
      (mem : e ∈ L.sanitized text flavor s) :
      (s.allowsHtml && flavor != .preEncode) = true := by
    obtain ⟨e', -, same⟩ := List.mem_map.1 mem
    unfold Event.sanitize at same
    split at same <;> grind
  rw [← bne_iff_ne, ← Bool.and_eq_true]
  rcases mem with mem | mem
  · exact allowed (.inl rfl) mem
  · exact allowed (.inr rfl) mem

/-- The targets of links and images have been checked. -/
theorem exists_of_mem_link (mem : .start (.link kind t) ∈ L.sanitized text flavor s) :
    ∃ t', .start (.link kind t') ∈ L.events flavor.extensions text ∧ t.url = s.clean t'.url := by
  obtain ⟨e, read, same⟩ := List.mem_map.1 mem
  unfold Event.sanitize at same
  split at same <;> grind

theorem exists_of_mem_image (mem : .start (.image kind t) ∈ L.sanitized text flavor s) :
    ∃ t', .start (.image kind t') ∈ L.events flavor.extensions text ∧ t.url = s.clean t'.url := by
  obtain ⟨e, read, same⟩ := List.mem_map.1 mem
  unfold Event.sanitize at same
  split at same <;> grind

/-- Headings are as they have been read. -/
theorem mem_of_mem_heading (mem : .start (.heading level a) ∈ L.sanitized text flavor s) :
    .start (.heading level a) ∈ L.events flavor.extensions text := by
  obtain ⟨e, read, same⟩ := List.mem_map.1 mem
  unfold Event.sanitize at same
  split at same <;> grind

/-- Some marks are the HTML of a text. -/
structure Yields (L : Library) (text : String) (flavor : Flavor) (s : Sanitizer) (ms : List Mark) :
    Prop where
  written : Written (L.sanitized text flavor s) ms
  html : (L.render text flavor s).toList = Mark.print ms

/-- Every text has HTML of some marks. -/
theorem exists_yields (balances : L.Balances) (writes : L.WritesHtml) (text : String)
    (flavor : Flavor) (s : Sanitizer) : ∃ ms, L.Yields text flavor s ms := by
  obtain ⟨ms, written, html⟩ := writes _ ((balances flavor.extensions text).sanitized s _ _)
  exact ⟨ms, written, by rw [render, sanitized, html, String.toList_ofList]⟩

theorem Yields.makes {ms : List Mark} {m : Mark} (h : L.Yields text flavor s ms) (mem : m ∈ ms) :
    Makes (L.sanitized text flavor s) m :=
  h.written.makesAll (List.Subset.refl _) m mem

end Library

end Stencil.Markdown
