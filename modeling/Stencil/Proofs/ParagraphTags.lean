import Stencil.Markdown
import Stencil.Proofs.HtmlTags

/-!
# The tags of paragraphs in a text

A tag of a paragraph is told by the characters behind an angle bracket, wherever the bracket stands.
A text may end before it is known whether there is one.

- `Html.Beginning`, `Html.beginning`: what a text begins with.
- `Html.places`: how many tags of paragraphs there are in a text, or how many are `<p>`.
- `Html.surplus`: by how many the other ones exceed these.
- `Html.places_bracket`: an angle bracket separates the tags on both sides of it.
- `Markdown.between?_eq_some_iff`, `Markdown.afterFirst?_eq_none_iff`: the tests on HTML without its
  paragraph.
-/

namespace Stencil

namespace Html

/-! ## What a text begins with -/

/-- What a text begins with. -/
inductive Beginning where
  /-- The text ends before it is known. -/
  | undecided
  | other
  /-- A tag of a paragraph, which may be `<p>`. -/
  | paragraph (isPlain : Bool)
deriving DecidableEq

/-- The character ends the name of an element. -/
def endsName (c : Char) : Bool := isSpace c || c == '/' || c == '>'

/-- What a tag is whose name begins a text. -/
def named (isClosing : Bool) : List Char → Beginning
  | [] => .undecided
  | c :: cs =>
    if c = 'p' ∨ c = 'P' then
      cs.head?.elim .undecided fun d =>
        if endsName d then .paragraph (!isClosing && c == 'p' && d == '>') else .other
    else .other

/-- What a text begins with. -/
def beginning : List Char → Beginning
  | [] => .undecided
  | c :: cs =>
    if c ≠ '<' then .other
    else if cs.head? = some '/' then named true cs.tail
    else named false cs

/-- A tag of a paragraph counts, or only `<p>` does. -/
def Beginning.counts (plainOnly : Bool) : Beginning → Bool
  | .paragraph isPlain => isPlain || !plainOnly
  | .undecided => false
  | .other => false

/-- At how many places of a text a tag of a paragraph begins. -/
def places (plainOnly : Bool) : List Char → Nat
  | [] => 0
  | c :: cs => ((beginning (c :: cs)).counts plainOnly).toNat + places plainOnly cs

/-- The tags of paragraphs in a text. -/
def paragraphTags (cs : List Char) : Nat := places false cs

/-- By how many the other tags of paragraphs in a text exceed those that are `<p>`. -/
def surplus (cs : List Char) : Int := paragraphTags cs - 2 * places true cs

variable {b : Bool} {c d : Char} {cs ds name : List Char}

theorem beginning_of_ne (ne : c ≠ '<') : beginning (c :: cs) = .other := if_pos ne

/-- An angle bracket decides that there is no tag before it. -/
theorem counts_named_bracket (isClosing : Bool) (cs : List Char) :
    (named isClosing (cs ++ '<' :: ds)).counts b = (named isClosing cs).counts b := by
  cases cs with
  | nil => rfl
  | cons c cs =>
    rw [List.cons_append, named, named]
    split
    · cases cs <;> rfl
    · rfl

theorem counts_bracket (c : Char) (cs ds : List Char) :
    (beginning (c :: cs ++ '<' :: ds)).counts b = (beginning (c :: cs)).counts b := by
  rw [List.cons_append, beginning, beginning]
  split
  · rfl
  · cases cs with
    | nil => rfl
    | cons d cs =>
      rw [List.cons_append, List.head?_cons, List.head?_cons, List.tail_cons, List.tail_cons]
      split
      · exact counts_named_bracket true cs
      · exact counts_named_bracket false (d :: cs)

/-! ## The places of tags -/

theorem places_append_of_not_mem (free : '<' ∉ cs) (ds : List Char) :
    places b (cs ++ ds) = places b ds := by
  induction cs with
  | nil => rfl
  | cons c cs ih =>
    rw [List.mem_cons, not_or] at free
    rw [List.cons_append, places, beginning_of_ne (Ne.symm free.1), ih free.2]
    exact Nat.zero_add _

theorem places_of_not_mem (free : '<' ∉ cs) : places b cs = 0 := by
  rw [← List.append_nil cs, places_append_of_not_mem free]
  rfl

theorem places_true_le (cs : List Char) : places true cs ≤ places false cs := by
  induction cs with
  | nil => exact Nat.le_refl _
  | cons c cs ih =>
    refine Nat.add_le_add ?_ ih
    cases beginning (c :: cs) with
    | undecided => exact Nat.le_refl _
    | other => exact Nat.le_refl _
    | paragraph isPlain => cases isPlain <;> decide

/-- No tag begins before an angle bracket and ends behind it. -/
theorem places_bracket (cs ds : List Char) :
    places b (cs ++ '<' :: ds) = places b cs + places b ('<' :: ds) := by
  induction cs with
  | nil => exact (Nat.zero_add _).symm
  | cons c cs ih =>
    have first := counts_bracket (b := b) c cs ds
    rw [List.cons_append] at first ⊢
    rw [places, places, first, ih, Nat.add_assoc]

/-! ## Written tags -/

/-- The name of a tag, and what ends it. -/
theorem named_append (isClosing : Bool) (isName : isName name) (ends : endsName d) :
    named isClosing (name ++ d :: ds) =
      if name = ['p'] then .paragraph (!isClosing && d == '>') else .other := by
  cases name with
  | nil => cases isName
  | cons c cs =>
    simp only [Html.isName, List.all_cons, Bool.and_eq_true] at isName
    obtain ⟨-, ⟨⟨⟨lower, -⟩, -⟩, -⟩, rest⟩ := isName
    have notUpper : c ≠ 'P' := by
      rintro rfl
      cases lower
    rw [List.cons_append, named]
    by_cases letter : c = 'p'
    · subst letter
      cases cs with
      | nil => simp [ends]
      | cons e cs =>
        have goes : endsName e = false := by
          simp only [List.all_cons, Bool.and_eq_true] at rest
          obtain ⟨⟨⟨-, notBlank⟩, notSlash⟩, notBracket⟩ := rest.1
          simp_all [endsName]
        simp [goes]
    · simp [letter, notUpper]

theorem beginning_opening (isName : isName name) (ends : endsName d) :
    beginning ('<' :: (name ++ d :: ds)) =
      if name = ['p'] then .paragraph (d == '>') else .other := by
  have first : (name ++ d :: ds).head? ≠ some '/' := by
    cases name with
    | nil => cases isName
    | cons c cs =>
      rw [List.cons_append, List.head?_cons]
      rintro ⟨⟩
      cases isName
  rw [beginning, if_neg (by decide), if_neg first, named_append false isName ends]
  simp

theorem beginning_closing (isName : isName name) (ends : endsName d) :
    beginning ('<' :: '/' :: (name ++ d :: ds)) =
      if name = ['p'] then .paragraph false else .other :=
  named_append true isName ends

theorem exists_of_counts_named {isClosing : Bool} (h : (named isClosing cs).counts true) :
    isClosing = false ∧ ∃ rest, cs = 'p' :: '>' :: rest := by
  match cs with
  | [] => cases h
  | [c] =>
    rw [named] at h
    split at h <;> cases h
  | c :: d :: rest =>
    rw [named] at h
    split at h
    · simp only [List.head?_cons, Option.elim_some] at h
      split at h
      · simp only [Beginning.counts, Bool.not_true, Bool.or_false, Bool.and_eq_true,
          Bool.not_eq_true', beq_iff_eq] at h
        obtain ⟨⟨opens, rfl⟩, rfl⟩ := h
        exact ⟨opens, rest, rfl⟩
      · cases h
    · cases h

/-- The text `<p>` is found where such a tag begins. -/
theorem counts_true_iff (cs : List Char) : (beginning cs).counts true ↔ "<p>".toList <+: cs := by
  constructor
  · intro h
    cases cs with
    | nil => cases h
    | cons c cs =>
      rw [beginning] at h
      by_cases less : c = '<'
      · subst less
        rw [if_neg (not_not_intro rfl)] at h
        split at h
        · cases (exists_of_counts_named h).1
        · obtain ⟨-, rest, rfl⟩ := exists_of_counts_named h
          exact ⟨rest, rfl⟩
      · rw [if_pos less] at h
        cases h
  · rintro ⟨rest, rfl⟩
    rfl

end Html

namespace Markdown

theorem between?_eq_some_iff {start stop cs inner : List Char} :
    between? start stop cs = some inner ↔ cs = start ++ (inner ++ stop) := by
  rw [between?]
  split
  · next around =>
    rw [Bool.and_eq_true, List.isPrefixOf_iff_prefix, List.isSuffixOf_iff_suffix] at around
    obtain ⟨⟨rest, rfl⟩, behind⟩ := around
    rw [List.drop_left] at behind ⊢
    obtain ⟨inner', rfl⟩ := behind
    simp
  · next around =>
    refine ⟨nofun, ?_⟩
    rintro rfl
    refine absurd ?_ around
    rw [List.drop_left, Bool.and_eq_true, List.isPrefixOf_iff_prefix, List.isSuffixOf_iff_suffix]
    exact ⟨List.prefix_append .., List.suffix_append ..⟩

/-- A text is not found if it begins at none of the places. -/
theorem afterFirst?_eq_none_iff {cs : List Char} :
    afterFirst? "<p>".toList cs = none ↔ Html.places true cs = 0 := by
  induction cs with
  | nil => exact ⟨fun _ => rfl, fun _ => rfl⟩
  | cons c cs ih =>
    have first := Html.counts_true_iff (c :: cs)
    rw [afterFirst?, after?, Html.places]
    cases begins : (Html.beginning (c :: cs)).counts true with
    | true =>
      rw [begins] at first
      rw [if_pos (List.isPrefixOf_iff_prefix.2 (first.1 rfl))]
      exact ⟨nofun, fun none => nomatch Nat.add_eq_zero_iff.1 none⟩
    | false =>
      rw [begins] at first
      rw [if_neg fun found => nomatch first.2 (List.isPrefixOf_iff_prefix.1 found)]
      simpa using ih

end Markdown

end Stencil
