/-!
# Delimiters

Tags are told from text by the delimiters around them. Each kind of tag has an opening and a closing
delimiter, and both have a form with a dash that also trims the text next to the tag.

- `TagKind`: expressions, blocks and comments.
- `TagPair`: the two delimiters of a kind, neither of them empty.
- `Delimiters`: the pairs in use; a kind without a pair cannot be written.
- `Delimiters.match?`: the longest delimiter at the start of a text; of equal ones the first.
- `Delimiters.find`: the first position of a text at which a delimiter starts.

Specification: section E1; `Syntax`, `SyntaxBuilder.build`, `Searcher.find_at` and
`Searcher.starts_with`.
-/

namespace Stencil

/-- The kinds of tags. -/
inductive TagKind where
  | expression
  | block
  | comment
deriving DecidableEq

/-- The word for a kind of tag in messages. -/
def TagKind.word : TagKind → String
  | .expression => "expression"
  | .block => "block"
  | .comment => "comment"

/-- The two delimiters of a kind of tag. -/
structure TagPair where
  opening : List Char
  closing : List Char
  opening_ne_nil : opening ≠ []
  closing_ne_nil : closing ≠ []

/-- The pair of two texts, unless one of them is empty. -/
def TagPair.ofStrings? (opening closing : String) : Option TagPair :=
  if h : opening.toList ≠ [] ∧ closing.toList ≠ [] then
    some ⟨opening.toList, closing.toList, h.1, h.2⟩
  else none

/-- What a delimiter does: it begins or ends a tag, and may trim the text next to it. -/
structure Marker where
  kind : TagKind
  isOpening : Bool
  trims : Bool
deriving DecidableEq

/-- The delimiters in use. -/
structure Delimiters where
  expression : Option TagPair
  block : Option TagPair
  comment : Option TagPair

namespace Delimiters

/-- The four written forms of a pair. -/
def forms (kind : TagKind) : Option TagPair → List (Marker × List Char)
  | none => []
  | some p => [
      (⟨kind, true, false⟩, p.opening),
      (⟨kind, false, false⟩, p.closing),
      (⟨kind, true, true⟩, p.opening ++ ['-']),
      (⟨kind, false, true⟩, '-' :: p.closing)]

/-- All written forms with what they do. -/
def patterns (d : Delimiters) : List (Marker × List Char) :=
  forms .expression d.expression ++ forms .block d.block ++ forms .comment d.comment

/-- No written form is empty. -/
theorem ne_nil_of_mem_patterns {d : Delimiters} {p : Marker × List Char} (h : p ∈ d.patterns) :
    p.2 ≠ [] := by
  have key : ∀ (kind : TagKind) (pair : Option TagPair), p ∈ forms kind pair → p.2 ≠ [] := by
    intro kind pair hp
    cases pair with
    | none => simp [forms] at hp
    | some q =>
      simp only [forms, List.mem_cons, List.not_mem_nil, or_false] at hp
      rcases hp with rfl | rfl | rfl | rfl
      · exact q.opening_ne_nil
      · exact q.closing_ne_nil
      · simp
      · simp
  simp only [patterns, List.mem_append] at h
  rcases h with (h | h) | h <;> exact key _ _ h

/-- The longer of two matches, the first one if they are equally long. -/
def longer (best : Option (Marker × List Char)) (p : Marker × List Char) :
    Option (Marker × List Char) :=
  match best with
  | none => some p
  | some b => if b.2.length < p.2.length then some p else some b

/-- The longest written form at the start of a text. -/
def match? (d : Delimiters) (cs : List Char) : Option (Marker × List Char) :=
  (d.patterns.filter fun p => p.2.isPrefixOf cs).foldl longer none

/-- The text before the first delimiter, the delimiter, and the text from it on. -/
def find (d : Delimiters) : List Char → Option (List Char × (Marker × List Char) × List Char)
  | [] => none
  | c :: cs =>
    match d.match? (c :: cs) with
    | some p => some ([], p, c :: cs)
    | none => (d.find cs).map fun r => (c :: r.1, r.2)

/-- Two characters each: braces for expressions, braces with a percent sign for blocks, and braces
with a hash sign for comments. -/
def standard : Delimiters :=
  ⟨some ⟨['\x7b', '\x7b'], ['\x7d', '\x7d'], by decide, by decide⟩,
    some ⟨['\x7b', '%'], ['%', '\x7d'], by decide, by decide⟩,
    some ⟨['\x7b', '#'], ['#', '\x7d'], by decide, by decide⟩⟩

/-- A match is one of the forms and stands at the start of the text. -/
theorem mem_of_match? {d : Delimiters} {cs : List Char} {p : Marker × List Char}
    (h : d.match? cs = some p) : p ∈ d.patterns ∧ p.2 <+: cs := by
  have key : ∀ (ps : List (Marker × List Char)) (best : Option (Marker × List Char)),
      ps.foldl longer best = some p → best = some p ∨ p ∈ ps := by
    intro ps
    induction ps with
    | nil => intro best h; exact .inl h
    | cons q ps ih =>
      intro best h
      rcases ih _ h with h' | h'
      · cases best with
        | none => simp only [longer, Option.some.injEq] at h'; simp [h']
        | some b =>
          simp only [longer] at h'
          split at h' <;> simp_all
      · exact .inr (List.mem_cons_of_mem _ h')
  rcases key _ _ h with h' | h'
  · simp at h'
  · simp only [List.mem_filter] at h'
    exact ⟨h'.1, List.isPrefixOf_iff_prefix.mp h'.2⟩

/-- What is found together with the text before it is the whole text. -/
theorem append_of_find {d : Delimiters} {cs before rest : List Char} {p : Marker × List Char}
    (h : d.find cs = some (before, p, rest)) :
    before ++ rest = cs ∧ d.match? rest = some p := by
  induction cs generalizing before with
  | nil => simp [find] at h
  | cons c cs ih =>
    rw [find] at h
    split at h
    · next q hq =>
      simp only [Option.some.injEq, Prod.mk.injEq] at h
      obtain ⟨rfl, rfl, rfl⟩ := h
      exact ⟨rfl, hq⟩
    · obtain ⟨r, hr, heq⟩ := Option.map_eq_some_iff.mp h
      simp only [Prod.mk.injEq] at heq
      obtain ⟨rfl, hr2⟩ := heq
      have hf : d.find cs = some (r.1, p, rest) := by rw [hr, ← hr2]
      obtain ⟨h1, h2⟩ := ih hf
      exact ⟨by simp [h1], h2⟩

end Delimiters

end Stencil
