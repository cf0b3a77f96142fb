import Stencil.Proofs.JsonText

/-!
# Bars in documents

A reader that only counts quotes knows at each character of a document whether it is in a string.
Bars and backslashes are found in strings only, and a document read from the middle of a string
ends in the middle of one.

- `Place`, `scan`: where such a reader is.
- `scan_write`: a document is read from outside of strings to outside of strings.
- `Opposite.scan`: two readers that disagree disagree to the end.
- `bar_append_injective`: the last bar before a document is determined by the text.
-/

namespace Stencil.Json

/-! ## Readers -/

/-- Where a reader of a document is. -/
inductive Place where
  | outside
  /-- Between the quotes of a string. -/
  | inside
  /-- Behind a backslash in a string. -/
  | escaped
deriving DecidableEq

/-- Where the reader is behind one more character, which may be none of a document. -/
def Place.after : Place → Char → Option Place
  | .outside, c =>
    if c = '"' then some .inside else if c = '|' ∨ c = '\\' then none else some .outside
  | .inside, c =>
    if c = '"' then some .outside else if c = '\\' then some .escaped else some .inside
  | .escaped, _ => some .inside

/-- Where the reader is behind a text. -/
def scan (p : Place) (cs : List Char) : Option Place := cs.foldlM Place.after p

@[simp] theorem scan_nil (p : Place) : scan p [] = some p := rfl

@[simp] theorem scan_cons (p : Place) (c : Char) (cs : List Char) :
    scan p (c :: cs) = (p.after c).bind fun q => scan q cs := rfl

@[simp] theorem scan_append (p : Place) (cs ds : List Char) :
    scan p (cs ++ ds) = (scan p cs).bind fun q => scan q ds :=
  List.foldlM_append

/-! ## Documents -/

theorem after_of_isPlain {c : Char} (h : isPlain c) : Place.outside.after c = some .outside := by
  have ne : ∀ d, isPlain d = false → c ≠ d := by
    rintro d hd rfl
    exact absurd h (by simp [hd])
  have notBar : ¬(c = '|' ∨ c = '\\') := not_or.2 ⟨ne '|' rfl, ne '\\' rfl⟩
  rw [Place.after, if_neg (ne '"' rfl), if_neg notBar]

theorem scan_of_isPlain {cs : List Char} (h : ∀ c ∈ cs, isPlain c) :
    scan .outside cs = some .outside := by
  induction cs with
  | nil => rfl
  | cons c cs ih =>
    rw [scan_cons, after_of_isPlain (h c List.mem_cons_self), Option.bind_some]
    exact ih fun d hd => h d (List.mem_cons_of_mem c hd)

theorem after_digitChar {n : ℕ} (h : n < 16) :
    Place.inside.after (Nat.digitChar n) = some .inside := by
  have all : ∀ n < 16, Place.inside.after (Nat.digitChar n) = some .inside := by decide
  exact all n h

/-- The form of a character between quotes does not leave the string. -/
theorem scan_escape (c : Char) : scan .inside (escape c) = some .inside := by
  -- a short escape, four hexadecimal digits, or the character itself
  rcases escape_cases c with ⟨e, eq, -, -⟩ | ⟨control, eq⟩ | ⟨quote, backslash, eq⟩
  · rw [eq]
    rfl
  · rw [eq]
    show scan .inside [Nat.digitChar (c.toNat / 16), Nat.digitChar (c.toNat % 16)] = _
    rw [scan_cons, after_digitChar (by omega), Option.bind_some, scan_cons,
      after_digitChar (by omega)]
    rfl
  · rw [eq]
    simp [Place.after, quote, backslash]

theorem scan_quote (s : String) : scan .outside (quote s) = some .outside := by
  have body : ∀ cs : List Char, scan .inside (cs.flatMap escape) = some .inside := by
    intro cs
    induction cs with
    | nil => rfl
    | cons c cs ih => rw [List.flatMap_cons, scan_append, scan_escape, Option.bind_some, ih]
  rw [quote, scan_append, scan_cons]
  show ((scan .inside _).bind fun q => scan q ['"']) = _
  rw [body]
  rfl

mutual

/-- A document is read from outside of strings to outside of strings. -/
theorem scan_write : ∀ j : Json, j.Finite → scan .outside (write j) = some .outside
  | .null, finite => scan_of_isPlain (isPlain_write rfl finite)
  | .bool _, finite => scan_of_isPlain (isPlain_write rfl finite)
  | .int _, finite => scan_of_isPlain (isPlain_write rfl finite)
  | .float _, finite => scan_of_isPlain (isPlain_write rfl finite)
  | .string s, _ => by rw [write, scan_quote]
  | .array items, finite => by
    rw [write, scan_append, scan_cons]
    show ((scan .outside (writeItems items)).bind fun q => scan q [']']) = _
    rw [scan_writeItems items finite]
    rfl
  | .object members, finite => by
    rw [write, scan_append, scan_cons]
    show ((scan .outside (writeMembers members)).bind fun q => scan q ['\x7d']) = _
    rw [scan_writeMembers members finite]
    rfl

theorem scan_writeItems :
    ∀ items : List Json, FiniteItems items → scan .outside (writeItems items) = some .outside
  | [], _ => rfl
  | [item], finite => by rw [writeItems, scan_write item finite.1]
  | item :: item' :: items, finite => by
    rw [writeItems, scan_append, scan_write item finite.1, Option.bind_some, scan_cons]
    · exact scan_writeItems (item' :: items) finite.2
    · simp

theorem scan_writeMembers : ∀ members : List (String × Json), FiniteMembers members →
    scan .outside (writeMembers members) = some .outside
  | [], _ => rfl
  | [(key, value)], finite => by
    rw [writeMembers, scan_append, scan_quote, Option.bind_some, scan_cons]
    exact scan_write value finite.1
  | (key, value) :: member :: members, finite => by
    rw [writeMembers, scan_append, scan_quote, Option.bind_some, scan_cons]
    · show scan .outside (write value ++ ',' :: writeMembers (member :: members)) = _
      rw [scan_append, scan_write value finite.1, Option.bind_some, scan_cons]
      exact scan_writeMembers (member :: members) finite.2
    · simp

end

/-! ## Readers that disagree -/

/-- One reader is in a string and the other is not. -/
inductive Opposite : Place → Place → Prop where
  | outside : Opposite .outside .inside
  | inside : Opposite .inside .outside

theorem Opposite.symm {p q : Place} (h : Opposite p q) : Opposite q p := by
  cases h with
  | outside => exact .inside
  | inside => exact .outside

theorem opposite_after {c : Char} {p q : Place} (hp : Place.outside.after c = some p)
    (hq : Place.inside.after c = some q) : Opposite p q := by
  simp only [Place.after] at hp hq
  split at hp
  · next quote =>
    rw [if_pos quote] at hq
    cases hp
    cases hq
    exact .inside
  · next quote =>
    rw [if_neg quote] at hq
    split at hp
    · cases hp
    · next bar =>
      rw [not_or] at bar
      rw [if_neg bar.2] at hq
      cases hp
      cases hq
      exact .outside

/-- Readers that disagree before a text disagree behind it: a backslash, which only one of them
could read differently, is none of a document for the other one. -/
theorem Opposite.scan {cs : List Char} {p q p' q' : Place} (h : Opposite p q)
    (hp : scan p cs = some p') (hq : scan q cs = some q') : Opposite p' q' := by
  -- both readers move with each character, so they are carried along generalized
  induction cs generalizing p q with
  | nil =>
    cases hp
    cases hq
    exact h
  | cons c cs ih =>
    rw [scan_cons, Option.bind_eq_some_iff] at hp hq
    obtain ⟨p₁, stepP, restP⟩ := hp
    obtain ⟨q₁, stepQ, restQ⟩ := hq
    refine ih ?_ restP restQ
    cases h with
    | outside => exact opposite_after stepP stepQ
    | inside => exact (opposite_after stepQ stepP).symm

/-- Behind a bar the reader is in a string. -/
theorem scan_bar {cs : List Char} {p q : Place} (h : scan p (cs ++ ['|']) = some q) :
    q = .inside := by
  rw [scan_append, Option.bind_eq_some_iff] at h
  obtain ⟨r, -, step⟩ := h
  -- outside of strings no bar is read, and behind a backslash it is taken as it is
  cases r with
  | outside => simp [Place.after] at step
  | inside =>
    cases step
    rfl
  | escaped =>
    cases step
    rfl

/-- No part of a document that ends with a bar stands before a document. -/
theorem not_scan_bar_append {cs j : List Char} (h : scan .outside j = some .outside) :
    scan .outside (cs ++ ['|'] ++ j) ≠ some .outside := by
  intro whole
  -- behind the bar this reader is in a string, where one that begins with the document is not
  rw [scan_append, Option.bind_eq_some_iff] at whole
  obtain ⟨p, before, behind⟩ := whole
  obtain rfl := scan_bar before
  cases Opposite.outside.scan h behind

theorem append_eq_of_bar {a a' j j' s : List Char} (hj : scan .outside j = some .outside)
    (hj' : scan .outside j' = some .outside) (bars : a' ++ ['|'] = a ++ ['|'] ++ s)
    (rest : j = s ++ j') : a = a' ∧ j = j' := by
  -- cut at different bars, a document would begin with a text that ends with a bar
  rcases List.eq_nil_or_concat s with rfl | ⟨s, c, rfl⟩
  · rw [List.append_nil] at bars
    exact ⟨(List.append_cancel_right bars).symm, rest⟩
  · rw [List.concat_eq_append, ← List.append_assoc] at bars
    obtain ⟨-, last⟩ := List.append_inj' bars rfl
    obtain rfl := List.singleton_injective last
    rw [rest, List.concat_eq_append] at hj
    exact absurd hj (not_scan_bar_append hj')

/-- Texts that end with a bar and go on with a document are told apart, however many bars they
have. -/
theorem bar_append_injective {a a' j j' : List Char} (hj : scan .outside j = some .outside)
    (hj' : scan .outside j' = some .outside) (h : a ++ '|' :: j = a' ++ '|' :: j') :
    a = a' ∧ j = j' := by
  rw [← List.singleton_append, ← List.append_assoc, ← List.singleton_append (l := j'),
    ← List.append_assoc, List.append_eq_append_iff] at h
  rcases h with ⟨s, bars, rest⟩ | ⟨s, bars, rest⟩
  · exact append_eq_of_bar hj hj' bars rest
  · obtain ⟨rfl, rfl⟩ := append_eq_of_bar hj' hj bars rest
    exact ⟨rfl, rfl⟩

end Stencil.Json
