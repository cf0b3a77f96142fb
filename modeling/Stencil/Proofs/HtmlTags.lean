import Stencil.Markdown.Character
import Stencil.Markdown.Event

/-!
# The tags of HTML

A reader of HTML tells tags from text by the characters of both, one after the other. What is
written wrongly is read nevertheless: a quote that is not closed takes what follows into the tag.
Comments are read as far as the next angle bracket, and every element as one that holds tags.

- `Html.Tag`: a tag, with the names of its attributes.
- `Html.State`, `Html.step`: how a reader goes on.
- `Html.read`, `Html.tags`: the tags of some HTML.
- `Html.read_inside`: a tag ends with an angle bracket only.
- `Html.read_attribute`, `Html.read_name`: what is written rightly is read so.
-/

namespace Stencil.Html

open Markdown (Level isLetter)

/-- A tag. The names of its attributes are in reverse. -/
structure Tag where
  isClosing : Bool
  name : List Char
  attributes : List (List Char)
deriving DecidableEq

namespace Tag

/-- Adds an attribute. -/
def add (t : Tag) (name : List Char) : Tag := { t with attributes := name :: t.attributes }

/-- Adds a character to the name of the latest attribute. -/
def extend (t : Tag) (c : Char) : Tag :=
  match t.attributes with
  | [] => t.add [c]
  | name :: names => { t with attributes := (name ++ [c]) :: names }

/-- What is known of a tag without its attributes. -/
def shape (t : Tag) : Bool × List Char := (t.isClosing, t.name)

/-- A tag has an attribute with a script for an event. -/
def handlesEvents (t : Tag) : Bool := t.attributes.any (['o', 'n'].isPrefixOf ·)

/-- A tag begins a heading. -/
def IsHeading (t : Tag) : Prop :=
  ∃ level : Level, t.shape = (false, level.name.toList)

end Tag

/-- The blanks of HTML. -/
def isSpace (c : Char) : Bool := c == ' ' || c == '\t' || c == '\n' || c == '\x0c' || c == '\r'

/-- A place within a tag. -/
inductive Place where
  /-- In the name of the element. -/
  | name
  | between
  /-- In the name of an attribute. -/
  | key
  /-- Behind the name of an attribute and a blank. -/
  | behind
  /-- Before the value of an attribute. -/
  | equals
  | quoted (mark : Char)
  | bare
deriving DecidableEq

/-- What a reader is in the midst of. -/
inductive State where
  | text
  /-- Behind `<`. -/
  | opened
  /-- Behind `</`. -/
  | ended
  /-- In what is neither text nor a tag. -/
  | other
  | inside (t : Tag) (p : Place)
deriving DecidableEq

/-- Reads a character of a tag that does not end it. -/
def Place.next (t : Tag) (c : Char) : Place → Tag × Place
  | .name =>
    if isSpace c || c == '/' then (t, .between)
    else ({ t with name := t.name ++ [c.toLower] }, .name)
  | .between =>
    if isSpace c || c == '/' then (t, .between) else (t.add [c.toLower], .key)
  | .key =>
    if isSpace c then (t, .behind)
    else if c == '/' then (t, .between)
    else if c == '=' then (t, .equals)
    else (t.extend c.toLower, .key)
  | .behind =>
    if isSpace c then (t, .behind)
    else if c == '/' then (t, .between)
    else if c == '=' then (t, .equals)
    else (t.add [c.toLower], .key)
  | .equals =>
    if isSpace c then (t, .equals)
    else if c == '"' || c == '\'' then (t, .quoted c)
    else (t, .bare)
  | .quoted mark => (t, if c = mark then .between else .quoted mark)
  | .bare => (t, if isSpace c then .between else .bare)

/-- An angle bracket does not end the tag. -/
def Place.isQuoted : Place → Bool
  | .quoted _ => true
  | _ => false

/-- Reads a character. It may end a tag. -/
def step (s : State) (c : Char) : State × List Tag :=
  match s with
  | .text => (if c = '<' then .opened else .text, [])
  | .opened =>
    if isLetter c then (.inside ⟨false, [c.toLower], []⟩ .name, [])
    else if c = '/' then (.ended, [])
    else if c = '!' ∨ c = '?' then (.other, [])
    else (if c = '<' then .opened else .text, [])
  | .ended =>
    if isLetter c then (.inside ⟨true, [c.toLower], []⟩ .name, [])
    else (if c = '>' then .text else .other, [])
  | .other => (if c = '>' then .text else .other, [])
  | .inside t p =>
    if c = '>' ∧ p.isQuoted = false then (.text, [t])
    else (.inside (p.next t c).1 (p.next t c).2, [])

/-- Reads some characters. -/
def read (s : State) : List Char → State × List Tag
  | [] => (s, [])
  | c :: cs =>
    let (s', ts) := step s c
    let (s'', ts') := read s' cs
    (s'', ts ++ ts')

/-- The tags of some HTML. -/
def tags (html : List Char) : List Tag := (read .text html).2

/-! ## Texts read one after the other -/

theorem read_append (s : State) (cs ds : List Char) :
    read s (cs ++ ds) =
      ((read (read s cs).1 ds).1, (read s cs).2 ++ (read (read s cs).1 ds).2) := by
  induction cs generalizing s with
  | nil => rfl
  | cons c cs ih => simp only [List.cons_append, read, ih, List.append_assoc]

theorem read_text {cs : List Char} (h : ∀ c ∈ cs, c ≠ '<') : read .text cs = (.text, []) := by
  induction cs with
  | nil => rfl
  | cons c cs ih =>
    rw [List.forall_mem_cons] at h
    simp only [read, step, if_neg h.1, ih h.2, List.append_nil]

/-! ## What ends a tag -/

/-- A reader is in the midst of a tag behind its name. -/
def Within (x : Bool × List Char) (s : State) : Prop :=
  ∃ t p, s = .inside t p ∧ t.shape = x ∧ p ≠ .name

variable {x : Bool × List Char} {s : State} {cs : List Char}

theorem within_next {t : Tag} {p : Place} (behind : p ≠ .name) (c : Char) :
    Within t.shape (.inside (p.next t c).1 (p.next t c).2) := by
  refine ⟨_, _, rfl, ?_, ?_⟩
  · unfold Place.next Tag.extend Tag.add Tag.shape
    grind
  · unfold Place.next
    grind

/-- Nothing but an angle bracket ends a tag. -/
theorem Within.read (h : Within x s) (open_ : ∀ c ∈ cs, c ≠ '>') :
    Within x (Html.read s cs).1 ∧ (Html.read s cs).2 = [] := by
  induction cs generalizing s with
  | nil => exact ⟨h, rfl⟩
  | cons c cs ih =>
    obtain ⟨t, p, rfl, rfl, behind⟩ := h
    rw [List.forall_mem_cons] at open_
    have one : step (.inside t p) c = (.inside (p.next t c).1 (p.next t c).2, []) :=
      if_neg fun ⟨ends, _⟩ => open_.1 ends
    obtain ⟨within, none⟩ := ih (within_next behind c) open_.2
    simp only [Html.read, one]
    exact ⟨within, by rw [none, List.append_nil]⟩

/-- An angle bracket may end a tag. -/
theorem Within.read_bracket (h : Within x s) (open_ : ∀ c ∈ cs, c ≠ '>') :
    Within x (Html.read s (cs ++ ['>'])).1 ∧ (Html.read s (cs ++ ['>'])).2 = [] ∨
      ∃ t, t.shape = x ∧ Html.read s (cs ++ ['>']) = (.text, [t]) := by
  obtain ⟨⟨t, p, inside, rfl, behind⟩, none⟩ := h.read open_
  rw [read_append, inside, none]
  cases quoted : p.isQuoted with
  | false =>
    have ended : step (.inside t p) '>' = (.text, [t]) := if_pos ⟨rfl, quoted⟩
    refine .inr ⟨t, rfl, ?_⟩
    simp only [Html.read, ended]
    rfl
  | true =>
    have goes : step (.inside t p) '>' = (.inside (p.next t '>').1 (p.next t '>').2, []) :=
      if_neg fun ⟨_, unquoted⟩ => Bool.false_ne_true (unquoted.symm.trans quoted)
    refine .inl ?_
    simp only [Html.read, goes]
    exact ⟨within_next behind '>', rfl⟩

/-! ## What is written rightly -/

/-- The name of an element. -/
def isName (cs : List Char) : Bool :=
  cs.head?.any isLetter && cs.all fun c => c.toLower == c && !isSpace c && c != '/' && c != '>'

/-- The name of an attribute. -/
def isKey (cs : List Char) : Bool :=
  !cs.isEmpty &&
    cs.all fun c => c.toLower == c && !isSpace c && c != '/' && c != '>' && c != '='

theorem read_nameRest (t : Tag)
    (h : cs.all fun c => c.toLower == c && !isSpace c && c != '/' && c != '>') :
    read (.inside t .name) cs = (.inside { t with name := t.name ++ cs } .name, []) := by
  induction cs generalizing t with
  | nil => simp [read]
  | cons c cs ih =>
    simp only [List.all_cons, Bool.and_eq_true] at h
    obtain ⟨⟨⟨⟨lower, notBlank⟩, notSlash⟩, notBracket⟩, rest⟩ := h
    have one : step (.inside t .name) c = (.inside { t with name := t.name ++ [c] } .name, []) := by
      simp_all [step, Place.next]
    simp only [read, one, ih _ rest, List.append_assoc, List.singleton_append, List.append_nil]

/-- The name of an element is read. -/
theorem read_name (isClosing : Bool) (h : isName cs) :
    read .text ((if isClosing then ['<', '/'] else ['<']) ++ cs) =
      (.inside ⟨isClosing, cs, []⟩ .name, []) := by
  cases cs with
  | nil => cases h
  | cons c cs =>
    simp only [isName, List.all_cons, Bool.and_eq_true] at h
    obtain ⟨letter, ⟨⟨⟨lower, -⟩, -⟩, -⟩, rest⟩ := h
    have letter : isLetter c = true := letter
    have lower : c.toLower = c := eq_of_beq lower
    have rest := read_nameRest ⟨isClosing, [c], []⟩ rest
    cases isClosing with
    | false =>
      have first : step .opened c = (.inside ⟨false, [c], []⟩ .name, []) := by
        simp only [step, letter, lower, if_true]
      have opened : read .text ['<'] = (.opened, []) := rfl
      rw [if_neg Bool.false_ne_true, read_append, opened]
      simp only [read, first, rest]
      rfl
    | true =>
      have first : step .ended c = (.inside ⟨true, [c], []⟩ .name, []) := by
        simp only [step, letter, lower, if_true]
      have ended : read .text ['<', '/'] = (.ended, []) := rfl
      rw [if_pos rfl, read_append, ended]
      simp only [read, first, rest]
      rfl

theorem read_keyRest (t : Tag) (name : List Char)
    (h : cs.all fun c => c.toLower == c && !isSpace c && c != '/' && c != '>' && c != '=') :
    read (.inside (t.add name) .key) cs = (.inside (t.add (name ++ cs)) .key, []) := by
  induction cs generalizing name with
  | nil => simp [read]
  | cons c cs ih =>
    simp only [List.all_cons, Bool.and_eq_true] at h
    obtain ⟨⟨⟨⟨⟨lower, notBlank⟩, notSlash⟩, notBracket⟩, notEquals⟩, rest⟩ := h
    have one : step (.inside (t.add name) .key) c = (.inside (t.add (name ++ [c])) .key, []) := by
      simp_all [step, Place.next, Tag.extend, Tag.add]
    simp only [read, one, ih _ rest, List.append_assoc, List.singleton_append, List.append_nil]

theorem read_quoted (t : Tag) (h : ∀ c ∈ cs, c ≠ '"') :
    read (.inside t (.quoted '"')) cs = (.inside t (.quoted '"'), []) := by
  induction cs with
  | nil => rfl
  | cons c cs ih =>
    rw [List.forall_mem_cons] at h
    have one : step (.inside t (.quoted '"')) c = (.inside t (.quoted '"'), []) := by
      simp [step, Place.next, Place.isQuoted, h.1]
    simp only [read, one, ih h.2, List.append_nil]

/-- An attribute is read behind the name of an element or another attribute. -/
theorem read_attribute (t : Tag) {p : Place} (place : p = .name ∨ p = .between)
    {name value : List Char} (key : isKey name) (quoted : ∀ c ∈ value, c ≠ '"') :
    read (.inside t p) (' ' :: name ++ ['=', '"'] ++ value ++ ['"']) =
      (.inside (t.add name) .between, []) := by
  cases name with
  | nil => cases key
  | cons c cs =>
    have blank : step (.inside t p) ' ' = (.inside t .between, []) := by
      rcases place with rfl | rfl <;> rfl
    simp only [isKey, List.all_cons, Bool.and_eq_true] at key
    obtain ⟨-, ⟨⟨⟨⟨lower, notBlank⟩, notSlash⟩, notBracket⟩, -⟩, rest⟩ := key
    have first : step (.inside t .between) c = (.inside (t.add [c]) .key, []) := by
      simp_all [step, Place.next]
    have rest := read_keyRest t [c] rest
    have read_value := read_quoted (t.add (c :: cs)) quoted
    have equals : read (.inside (t.add (c :: cs)) .key) ['=', '"'] =
      (.inside (t.add (c :: cs)) (.quoted '"'), []) := rfl
    have quote : read (.inside (t.add (c :: cs)) (.quoted '"')) ['"'] =
      (.inside (t.add (c :: cs)) .between, []) := rfl
    have text : ' ' :: (c :: cs) ++ ['=', '"'] ++ value ++ ['"'] =
      [' ', c] ++ (cs ++ (['=', '"'] ++ (value ++ ['"']))) := by simp
    have start : read (.inside t p) [' ', c] = (.inside (t.add [c]) .key, []) := by
      simp only [read, blank, first, List.append_nil]
    rw [text, read_append, start, read_append, rest]
    simp only [List.singleton_append, read_append, equals, read_value, quote, List.append_nil]

end Stencil.Html
