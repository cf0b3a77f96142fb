import Stencil.Proofs.GeneratedTags
import Stencil.Proofs.ParagraphTags

/-!
# Markdown without its paragraph

HTML loses the tags `<p>` and `</p>` around it if there is no further `<p>`. They are the tags of
one paragraph, unless raw HTML has tags of paragraphs that are written otherwise.

- `Mark.beginning`: what a mark begins with.
- `Mark.rawSurplus`: by how many the other tags of paragraphs in raw HTML exceed `<p>`.
- `Written.balance_eq`, `Balanced.paragraphs_eq`: paragraphs that are opened are closed.
- `Library.Yields.surplus_eq`: they exceed it by as many in the HTML of a text.
- `Markdown.IsParagraph`: HTML is one paragraph and nothing else.
- `Filter.markdown_inline`: what the filter makes of HTML without its paragraph.
-/

namespace Stencil

namespace Markdown

open Html (Beginning endsName places)

/-! ## Marks -/

namespace Mark

/-- What a mark begins with as it is written. Raw HTML is left out. -/
def beginning : Mark → Beginning
  | .opening name attributes => if name = "p" then .paragraph attributes.isEmpty else .other
  | .closing name => if name = "p" then .paragraph false else .other
  | .empty name _ _ => if name = "p" then .paragraph false else .other
  | .text _ => .other
  | .raw _ => .other
  | .newline => .other

/-- By how many the other tags of paragraphs that begin in raw HTML exceed those that are `<p>`. A
tag may end in what follows. -/
def rawSurplus : List Mark → Int
  | [] => 0
  | .raw cs :: ms => Html.surplus (cs ++ print ms) - Html.surplus (print ms) + rawSurplus ms
  | _ :: ms => rawSurplus ms

/-- The same for the tag that a mark is. -/
def surplus (m : Mark) : Int :=
  (m.beginning.counts false).toNat - 2 * (m.beginning.counts true).toNat

/-- The same for the tags among some marks. -/
def balance : List Mark → Int
  | [] => 0
  | m :: ms => m.surplus + balance ms

/-- An angle bracket begins a mark and does not stand in it. -/
def IsClear : Mark → Prop
  | .opening name attributes => name ∈ tagNames ∧ ∀ a ∈ attributes, '<' ∉ a.text
  | .closing name => name ∈ tagNames
  | .empty name attributes gap =>
    name ∈ tagNames ∧ (∀ a ∈ attributes, '<' ∉ a.text) ∧ (gap = [] ∨ gap = [' '])
  | .text _ => True
  | .raw _ => True
  | .newline => True

theorem isName_of_mem_tagNames {name : String} (known : name ∈ tagNames) :
    Html.isName name.toList ∧ '<' ∉ name.toList := by
  have all : ∀ name ∈ tagNames, Html.isName name.toList ∧ '<' ∉ name.toList := by decide
  exact all name known

variable {b : Bool} {m : Mark} {name : String} {attributes : List Attribute}

/-- What stands behind the name of a tag ends it. It is an angle bracket if there are no attributes
and one follows. -/
theorem exists_cons_attributes (attributes : List Attribute) {d : Char} (ends : endsName d)
    (ds : List Char) :
    ∃ e es, attributes.flatMap Attribute.text ++ d :: ds = e :: es ∧ endsName e ∧
      (e == '>') = (attributes.isEmpty && d == '>') := by
  cases attributes with
  | nil => exact ⟨d, ds, rfl, ends, rfl⟩
  | cons a as =>
    obtain ⟨cs, blank⟩ : ∃ cs, a.text = ' ' :: cs := by cases a <;> exact ⟨_, rfl⟩
    rw [List.flatMap_cons, blank]
    exact ⟨_, _, rfl, rfl, rfl⟩

theorem toList_eq_iff : name.toList = ['p'] ↔ name = "p" := by
  rw [← String.toList_inj]
  rfl

/-- An angle bracket and what stands behind it up to the end of a mark. -/
theorem places_cons {body : List Char} (free : '<' ∉ body) (rest : List Char) :
    places b ('<' :: (body ++ rest)) =
      ((Html.beginning ('<' :: (body ++ rest))).counts b).toNat + places b rest := by
  rw [places, Html.places_append_of_not_mem free]

/-- An opening tag as it is written, or one without a closing one. -/
theorem places_start (known : name ∈ tagNames) (clear : ∀ a ∈ attributes, '<' ∉ a.text)
    (d : Char) (ds : List Char) (ends : endsName d) (free : '<' ∉ d :: ds) (rest : List Char) :
    places b ('<' :: name.toList ++ attributes.flatMap Attribute.text ++ d :: ds ++ rest) =
      (((if name = "p" then .paragraph (attributes.isEmpty && d == '>') else .other :
        Beginning)).counts b).toNat + places b rest := by
  obtain ⟨isName, plain⟩ := isName_of_mem_tagNames known
  have free' : '<' ∉ name.toList ++ (attributes.flatMap Attribute.text ++ d :: ds) := by
    simp only [List.mem_append, List.mem_flatMap, not_or, not_exists, not_and]
    exact ⟨plain, clear, free⟩
  obtain ⟨e, es, behind, ends', bracket⟩ := exists_cons_attributes attributes ends (ds ++ rest)
  have found : Html.beginning ('<' :: (name.toList ++ e :: es)) = _ :=
    Html.beginning_opening isName ends'
  rw [← behind, bracket] at found
  simp only [toList_eq_iff] at found
  have parts : '<' :: name.toList ++ attributes.flatMap Attribute.text ++ d :: ds ++ rest =
      '<' :: (name.toList ++ (attributes.flatMap Attribute.text ++ d :: ds) ++ rest) := by simp
  rw [parts, places_cons free', ← found]
  simp

/-- The tags of paragraphs that a mark adds in front of a text. -/
theorem places_written (clear : m.IsClear) (made : ∀ cs, m ≠ .raw cs) (rest : List Char) :
    places b (m.written ++ rest) = (m.beginning.counts b).toNat + places b rest := by
  have none (cs : List Char) (free : '<' ∉ cs) : places b (cs ++ rest) = 0 + places b rest := by
    rw [Html.places_append_of_not_mem free, Nat.zero_add]
  cases m with
  | opening name attributes =>
    rw [written, places_start clear.1 clear.2 '>' [] rfl (by decide), beginning, beq_self_eq_true,
      Bool.and_true]
  | empty name attributes gap =>
    obtain ⟨known, clear, blank⟩ := clear
    obtain ⟨d, ds, stop, ends, free, inside⟩ : ∃ d ds, gap ++ ['/', '>'] = d :: ds ∧ endsName d ∧
        '<' ∉ d :: ds ∧ (d == '>') = false := by
      rcases blank with rfl | rfl <;> exact ⟨_, _, rfl, rfl, by decide, rfl⟩
    have text : written (empty name attributes gap) =
        '<' :: name.toList ++ attributes.flatMap Attribute.text ++ d :: ds := by
      rw [written, List.append_assoc, stop]
    rw [text, places_start known clear d ds ends free, inside, Bool.and_false]
    rfl
  | closing name =>
    obtain ⟨isName, plain⟩ := isName_of_mem_tagNames clear
    have free : '<' ∉ '/' :: (name.toList ++ ['>']) := by simpa using plain
    have found : Html.beginning ('<' :: '/' :: (name.toList ++ '>' :: rest)) = _ :=
      Html.beginning_closing isName rfl
    simp only [toList_eq_iff] at found
    have text : written (closing name) ++ rest =
        '<' :: ('/' :: (name.toList ++ ['>']) ++ rest) := rfl
    rw [text, places_cons free, beginning, ← found]
    simp
  | text cs =>
    refine none _ fun mem => ?_
    obtain ⟨d, -, h⟩ := List.mem_flatMap.1 mem
    exact (Escape.mem_bodyEntity h).1 rfl
  | raw cs => exact absurd rfl (made cs)
  | newline => exact none ['\n'] (by decide)

/-- What is no tag of a paragraph does not count. -/
theorem surplus_of_other (other : m.beginning = .other) : m.surplus = 0 := by
  rw [surplus, other]
  rfl

@[simp] theorem surplus_opening (other : name ≠ "p") : (opening name attributes).surplus = 0 :=
  surplus_of_other (if_neg other)

@[simp] theorem surplus_closing (other : name ≠ "p") : (closing name).surplus = 0 :=
  surplus_of_other (if_neg other)

@[simp] theorem surplus_empty (other : name ≠ "p") (gap : List Char) :
    (empty name attributes gap).surplus = 0 :=
  surplus_of_other (if_neg other)

@[simp] theorem surplus_text (cs : List Char) : (text cs).surplus = 0 := surplus_of_other rfl

@[simp] theorem surplus_raw (cs : List Char) : (raw cs).surplus = 0 := surplus_of_other rfl

@[simp] theorem surplus_newline : newline.surplus = 0 := surplus_of_other rfl

@[simp] theorem balance_nil : balance [] = 0 := rfl

@[simp] theorem balance_cons (m : Mark) (ms : List Mark) :
    balance (m :: ms) = m.surplus + balance ms := rfl

@[simp] theorem balance_append (ms ms' : List Mark) :
    balance (ms ++ ms') = balance ms + balance ms' := by
  induction ms with
  | nil => exact (Int.zero_add _).symm
  | cons m ms ih => rw [List.cons_append, balance, balance, ih, Int.add_assoc]

theorem surplus_written (clear : m.IsClear) (made : ∀ cs, m ≠ .raw cs) (rest : List Char) :
    Html.surplus (m.written ++ rest) = m.surplus + Html.surplus rest := by
  have tags := places_written (b := false) clear made rest
  have plain := places_written (b := true) clear made rest
  rw [Html.surplus, Html.surplus, surplus, Html.paragraphTags, Html.paragraphTags]
  omega

theorem rawSurplus_of_not_mem {ms : List Mark} (none : ∀ cs, .raw cs ∉ ms) :
    rawSurplus ms = 0 := by
  induction ms with
  | nil => rfl
  | cons m ms ih =>
    rw [rawSurplus]
    · exact ih fun cs mem => none cs (List.mem_cons_of_mem m mem)
    · rintro cs rfl
      exact none cs List.mem_cons_self

/-- The tags of marks and of raw HTML are counted one after the other. -/
theorem surplus_print {ms : List Mark} (clear : ∀ m ∈ ms, m.IsClear) :
    Html.surplus (print ms) = rawSurplus ms + balance ms := by
  induction ms with
  | nil => rfl
  | cons m ms ih =>
    rw [List.forall_mem_cons] at clear
    have rest := ih clear.2
    rw [print_cons, balance]
    by_cases raw : ∃ cs, m = .raw cs
    · obtain ⟨cs, rfl⟩ := raw
      rw [rawSurplus, surplus_raw, written]
      omega
    · have made cs (same : m = .raw cs) : False := raw ⟨cs, same⟩
      rw [rawSurplus, surplus_written clear.1 made, rest]
      · omega
      · exact made

end Mark

/-! ## Documents -/

/-- The paragraphs that an event closes, less the ones that it opens. -/
def Event.paragraphs : Event → Int
  | .start .paragraph => -1
  | .stop .paragraph => 1
  | _ => 0

/-- The paragraphs that some events close, less the ones that they open. -/
def paragraphs : List Event → Int
  | [] => 0
  | e :: es => e.paragraphs + paragraphs es

section

variable {es es' : List Event} {ms : List Mark}

@[simp] theorem paragraphs_cons (e : Event) (es : List Event) :
    paragraphs (e :: es) = e.paragraphs + paragraphs es := rfl

@[simp] theorem paragraphs_append (es es' : List Event) :
    paragraphs (es ++ es') = paragraphs es + paragraphs es' := by
  induction es with
  | nil => exact (Int.zero_add _).symm
  | cons e es ih => rw [List.cons_append, paragraphs, paragraphs, ih, Int.add_assoc]

/-- Every paragraph that is opened is closed. -/
theorem Balanced.paragraphs_eq (h : Balanced es) : paragraphs es = 0 := by
  induction h with
  | nil => rfl
  | @leaf e _ isLeaf _ ih =>
    have leaf : e.paragraphs = 0 := by
      cases e with
      | start x => cases isLeaf
      | stop x => cases isLeaf
      | _ => rfl
    rw [paragraphs, leaf, ih, Int.add_zero]
  | @element x _ _ _ _ within rest =>
    have around : (Event.start x).paragraphs + (Event.stop x.stop).paragraphs = 0 := by
      cases x <;> rfl
    rw [paragraphs_append, paragraphs, paragraphs, within, rest]
    omega

@[simp] theorem Level.name_ne (level : Level) : level.name ≠ "p" := by
  cases level <;> decide

/-- The tags of paragraphs that an event is written as. -/
theorem balance_marks (s : Setting) (e : Event) : Mark.balance (e.marks s) = e.paragraphs := by
  have cell : s.cell ≠ "p" := by
    rw [Setting.cell]
    split <;> decide
  have listed (b : Bool) : (if b then "ol" else "ul") ≠ "p" := by cases b <;> decide
  cases e with
  | start x =>
    cases x with
    | paragraph => rfl
    | _ => simp [Event.marks, Element.marks, Event.paragraphs, raised, cell, listed]
  | stop x =>
    cases x with
    | paragraph => rfl
    | _ => simp [Event.marks, ElementEnd.marks, Event.paragraphs, cell, listed]
  | _ => simp [Event.marks, Event.paragraphs, raised]

/-- The tags of paragraphs in a document are those of its events. -/
theorem Written.balance_eq (h : Written es ms) : Mark.balance ms = paragraphs es := by
  induction h with
  | nil => rfl
  | newline _ ih => simpa using ih
  | event s _ _ ih => rw [Mark.balance_append, balance_marks, ih, paragraphs]
  | @image _ t _ _ _ alt within _ ih =>
    have image : (t.image alt).surplus = 0 := Mark.surplus_empty (by decide) [' ']
    rw [Mark.balance, image, ih, paragraphs_append, paragraphs, paragraphs, within.paragraphs_eq]
    simp [Event.paragraphs]

end

/-! ## Clear marks -/

theorem clear_plain (name value : List Char) : '<' ∉ (Attribute.plain name value).text :=
  fun mem => (Attribute.mem_plain mem).1 rfl

theorem clear_address {name : List Char} (free : '<' ∉ name) (value : List Char) :
    '<' ∉ (Attribute.address name value).text := by
  have content : '<' ∉ value.flatMap Escape.addressEntity := fun mem =>
    (@Attribute.mem_content (.address name value) _ mem).1 rfl
  simpa [Attribute.text, free] using content

theorem clear_common {attributes : List Attribute} (common : ∀ a ∈ attributes, IsCommon a) :
    ∀ a ∈ attributes, '<' ∉ a.text := by
  intro a mem
  obtain ⟨name, -, value, rfl⟩ := common a mem
  exact clear_plain _ value

theorem clear_titles (t : Target) : ∀ a ∈ t.titles, '<' ∉ a.text := by
  unfold Target.titles
  split
  · exact List.forall_mem_nil _
  · exact List.forall_mem_singleton.2 (clear_plain _ _)

theorem Makes.isClear {es : List Event} {m : Mark} (made : Makes es m) : m.IsClear := by
  cases made with
  | text cs => exact trivial
  | newline => exact trivial
  | raw html => exact trivial
  | opening element common => exact ⟨List.mem_append_left _ element, clear_common common⟩
  | empty element common blank =>
    exact ⟨List.mem_append_left _ element, clear_common common, blank⟩
  | closing element => exact List.mem_append_left _ element
  | @link _ t mem =>
    exact ⟨by decide, List.forall_mem_cons.2 ⟨clear_address (by decide) _, clear_titles t⟩⟩
  | reference label => exact ⟨by decide, List.forall_mem_singleton.2 (clear_plain _ _)⟩
  | linkEnd => exact (by decide : "a" ∈ tagNames)
  | @image _ t mem alt =>
    exact ⟨by decide, List.forall_mem_cons.2 ⟨clear_address (by decide) _,
      List.forall_mem_cons.2 ⟨clear_plain _ _, clear_titles t⟩⟩, .inr rfl⟩
  | @heading level a mem =>
    refine ⟨name_mem_tagNames level, fun b mem => ?_⟩
    obtain ⟨name, value, rfl⟩ := exists_plain_of_mem_list mem
    exact clear_plain name value
  | headingEnd level => exact name_mem_tagNames level

/-- In the HTML of a text the other tags of paragraphs exceed `<p>` by as many as in raw HTML. -/
theorem Library.Yields.surplus_eq {L : Library} {text : String} {flavor : Flavor} {s : Sanitizer}
    {ms : List Mark} (h : L.Yields text flavor s ms) (balances : L.Balances) :
    Html.surplus (L.render text flavor s).toList = Mark.rawSurplus ms := by
  have sanitized : Balanced (L.sanitized text flavor s) :=
    (balances flavor.extensions text).sanitized s _ _
  rw [h.html, Mark.surplus_print fun m mem => (h.makes mem).isClear, h.written.balance_eq,
    sanitized.paragraphs_eq, Int.add_zero]

/-! ## HTML without its paragraph -/

/-- HTML begins with `<p>` and ends with `</p>` and blanks. -/
def Wraps (html inner : String) : Prop :=
  Text.trimEnd html.toList = "<p>".toList ++ (inner.toList ++ "</p>".toList)

/-- HTML is one paragraph and nothing else. -/
structure IsParagraph (html inner : String) : Prop where
  wraps : Wraps html inner
  single : Html.paragraphTags inner.toList = 0

variable {html inner : String}

/-- The two tags around HTML are one of a paragraph each. -/
theorem Wraps.places_eq (wraps : Wraps html inner) (b : Bool) :
    places b html.toList = 1 + (places b inner.toList + (!b).toNat) := by
  obtain ⟨blanks, eq, blank⟩ := Text.exists_trimEnd_append html.toList
  have free : '<' ∉ '/' :: 'p' :: '>' :: blanks := by
    simpa using fun mem => nomatch blank _ mem
  have parts : html.toList =
      '<' :: ('p' :: '>' :: (inner.toList ++ '<' :: '/' :: 'p' :: '>' :: blanks)) := by
    rw [eq, wraps]
    simp
  have inside : places b (['p', '>'] ++ (inner.toList ++ '<' :: '/' :: 'p' :: '>' :: blanks)) =
      places b (inner.toList ++ '<' :: '/' :: 'p' :: '>' :: blanks) :=
    Html.places_append_of_not_mem (by decide) _
  have stop : places b ('<' :: '/' :: 'p' :: '>' :: blanks) = (!b).toNat := by
    rw [places, Html.places_of_not_mem free, Nat.add_zero]
    cases b <;> rfl
  have start : (Html.beginning
      ('<' :: 'p' :: '>' :: (inner.toList ++ '<' :: '/' :: 'p' :: '>' :: blanks))).counts b := by
    cases b <;> rfl
  rw [parts, places, start, Bool.toNat_true, ← stop, ← Html.places_bracket]
  exact congrArg (1 + ·) inside

/-- What stands within then are the tags of paragraphs that exceed `<p>`. -/
theorem Wraps.paragraphTags_eq (wraps : Wraps html inner) (none : places true inner.toList = 0) :
    Html.paragraphTags inner.toList = Html.surplus html.toList := by
  have tags := wraps.places_eq false
  have plain := wraps.places_eq true
  simp only [Html.surplus, Html.paragraphTags, Bool.not_false, Bool.not_true, Bool.toNat_true,
    Bool.toNat_false] at tags plain ⊢
  omega

theorem inline_of_wraps (wraps : Wraps html inner) :
    inline html = if places true inner.toList = 0 then inner else html := by
  rw [inline, between?_eq_some_iff.2 wraps]
  dsimp only
  rw [String.ofList_toList]
  split
  · next found =>
    rw [if_neg fun none => ?_]
    rw [afterFirst?_eq_none_iff.2 none] at found
    cases found
  · next found => rw [if_pos (afterFirst?_eq_none_iff.1 (Option.not_isSome_iff_eq_none.1 found))]

theorem inline_of_not_wraps (none : ∀ inner, ¬ Wraps html inner) : inline html = html := by
  rw [inline]
  split
  · next inner found =>
    refine absurd ?_ (none (String.ofList inner))
    rw [Wraps, @String.toList_ofList inner]
    exact between?_eq_some_iff.1 found
  · rfl

/-- A paragraph alone loses its tags. -/
theorem IsParagraph.inline_eq (h : IsParagraph html inner) : inline html = inner := by
  have fewer := Html.places_true_le inner.toList
  have single := h.single
  rw [Html.paragraphTags] at single
  rw [inline_of_wraps h.wraps, if_pos (by omega)]

/-- The flavor of an argument. -/
inductive Flavor.Names : Value → Flavor → Prop
  | standard : Names .none .classic
  | named {name : String} {flavor : Flavor} (read : Flavor.read name = .ok flavor) :
      Names (.text name) flavor

end Markdown

namespace Filter

open Markdown

variable {L : Library} {text : String} {flavor : Flavor} {v flag : Value}

/-- What the filter gives, with a flag or without one. -/
theorem markdown_eq (named : Flavor.Names v flavor) (flags : List Value) (few : flags.length ≤ 1) :
    Filter.markdown L (.text text) (v :: flags) =
      .ok (.text (if flags.head?.any Value.isTruthy
        then Markdown.inline (L.render text flavor .permissive)
        else L.render text flavor .permissive)) := by
  have arity : atMost 2 "markdown" (v :: flags) = .ok () :=
    if_neg (Nat.not_lt.2 (Nat.succ_le_succ few))
  have flag : (v :: flags)[1]? = flags.head? := by cases flags <;> rfl
  cases named with
  | standard =>
    simp only [Filter.markdown, arity, subject, List.head?_cons, flag, bind, Except.bind]
    cases flags.head?.any Value.isTruthy <;> simp only [if_true, Bool.false_eq_true, if_false]
  | named read =>
    simp only [Filter.markdown, arity, subject, List.head?_cons, flag, read, bind, Except.bind]
    cases flags.head?.any Value.isTruthy <;> simp only [if_true, Bool.false_eq_true, if_false]

/-- With the flag, the filter gives the same HTML as without it, or the HTML within the tags of one
paragraph if this is all that there is. Otherwise raw HTML has more tags of paragraphs than its
`<p>` account for, and these are left in what stands between the tags that are removed. -/
theorem markdown_inline (balances : L.Balances) (writes : L.WritesHtml)
    (named : Flavor.Names v flavor) (truthy : flag.isTruthy) :
    let html := L.render text flavor .permissive
    Filter.markdown L (.text text) [v] = .ok (.text html) ∧
      ∃ ms result, L.Yields text flavor .permissive ms ∧
        Filter.markdown L (.text text) [v, flag] = .ok (.text result) ∧
        (∀ inner, IsParagraph html inner → result = inner) ∧
        (result = html ∨ IsParagraph html result ∨
          Wraps html result ∧ (∃ cs, .raw cs ∈ ms) ∧ 0 < Mark.rawSurplus ms ∧
            Html.paragraphTags result.toList = Mark.rawSurplus ms) := by
  intro html
  obtain ⟨ms, yields⟩ := L.exists_yields balances writes text flavor .permissive
  refine ⟨markdown_eq named [] (Nat.zero_le 1), ms, Markdown.inline html, yields, ?_,
    fun inner alone => alone.inline_eq, ?_⟩
  · rw [markdown_eq named [flag] (Nat.le_refl 1), List.head?_cons, Option.any_some, truthy,
      if_pos rfl]
  by_cases wrapped : ∃ inner, Wraps html inner
  · obtain ⟨inner, wraps⟩ := wrapped
    rw [inline_of_wraps wraps]
    by_cases none : Html.places true inner.toList = 0
    · have left : Html.paragraphTags inner.toList = Mark.rawSurplus ms :=
        (wraps.paragraphTags_eq none).trans (yields.surplus_eq balances)
      rw [if_pos none]
      by_cases single : Html.paragraphTags inner.toList = 0
      · exact .inr (.inl ⟨wraps, single⟩)
      · have more : 0 < Mark.rawSurplus ms := by omega
        have raw : ∃ cs, .raw cs ∈ ms := by
          by_contra none
          rw [Mark.rawSurplus_of_not_mem fun cs mem => none ⟨cs, mem⟩] at more
          exact Int.lt_irrefl 0 more
        exact .inr (.inr ⟨wraps, raw, more, left⟩)
    · rw [if_neg none]
      exact .inl rfl
  · exact .inl (inline_of_not_wraps fun inner wraps => wrapped ⟨inner, wraps⟩)

/-- A paragraph with raw HTML in it. -/
theorem markdown_inline_bold :
    Flavor.Names .none .classic ∧ (Value.bool true).isTruthy ∧
      Filter.markdown commonMark (.text "*a* <b>c</b>") [.none, .bool true] =
        .ok (.text "<em>a</em> <b>c</b>") := by
  have alone : IsParagraph (commonMark.render "*a* <b>c</b>" .classic .permissive)
      "<em>a</em> <b>c</b>" :=
    ⟨by unfold Wraps; decide +kernel, by decide +kernel⟩
  obtain ⟨-, ms, result, -, found, single, -⟩ :=
    @markdown_inline commonMark "*a* <b>c</b>" .classic .none (.bool true) commonMark_balances
      commonMark_writesHtml .standard rfl
  exact ⟨.standard, rfl, single _ alone ▸ found⟩

/-- A second paragraph is raw HTML with an attribute. The tags of two paragraphs are removed, and
the other ones are left. -/
theorem markdown_inline_attribute :
    let text := "a\n\n<p id=\"x\">b</p>\n"
    let result := "a</p>\n<p id=\"x\">b"
    commonMark.render text .classic .permissive = "<p>a</p>\n<p id=\"x\">b</p>\n" ∧
      Filter.markdown commonMark (.text text) [.none, .bool true] = .ok (.text result) ∧
      result ≠ commonMark.render text .classic .permissive ∧
      ¬ IsParagraph (commonMark.render text .classic .permissive) result := by
  intro text result
  have rendered : commonMark.render text .classic .permissive =
      "<p>a</p>\n<p id=\"x\">b</p>\n" := by decide +kernel
  have removed : Markdown.inline "<p>a</p>\n<p id=\"x\">b</p>\n" = result := by decide +kernel
  refine ⟨rendered, ?_, ?_, fun alone => ?_⟩
  · rw [markdown_eq .standard [.bool true] (Nat.le_refl 1), rendered, removed]
    rfl
  · rw [rendered]
    decide
  · exact absurd alone.single (by decide +kernel)

end Filter

end Stencil
