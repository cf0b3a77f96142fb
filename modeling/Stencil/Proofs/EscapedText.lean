import Stencil.Engine.Standard

/-!
# Escaped text

In an escaped text the characters that HTML gives a meaning stand in entities only, and reading the
entities from left to right gives the text back. No escaped ampersand is joined with what follows
it: the entity of an ampersand is read to its end before anything else is.

- `Html.significant`: the characters that have entities.
- `Html.unescape`: a text with its entities read.
- `Html.Safe`: a text in which the significant characters stand in entities only.
- `Html.unescape_escape`, `Html.escape_unescape`: escaping and reading are inverse to each other.
- `Html.escape_lossless`: escaped texts are safe and stand for one text each.
-/

namespace Stencil.Html

/-- The characters that have entities. -/
def significant : List Char := ['&', '<', '>', '"', '\'']

/-- The text with its entities read, from left to right. An ampersand that begins none of them
stands for itself. -/
def unescape : List Char → List Char
  | '&' :: 'a' :: 'm' :: 'p' :: ';' :: cs => '&' :: unescape cs
  | '&' :: 'l' :: 't' :: ';' :: cs => '<' :: unescape cs
  | '&' :: 'g' :: 't' :: ';' :: cs => '>' :: unescape cs
  | '&' :: 'q' :: 'u' :: 'o' :: 't' :: ';' :: cs => '"' :: unescape cs
  | '&' :: '#' :: 'x' :: '2' :: '7' :: ';' :: cs => '\'' :: unescape cs
  | c :: cs => c :: unescape cs
  | [] => []

/-- The significant characters stand in entities only: angle brackets and quotes do not occur, and
every ampersand begins an entity. -/
structure Safe (cs : List Char) : Prop where
  plain : ∀ c ∈ cs, c ≠ '<' ∧ c ≠ '>' ∧ c ≠ '"' ∧ c ≠ '\''
  ampersand : ∀ before after, cs = before ++ '&' :: after →
    ∃ c ∈ significant, entity c <+: '&' :: after

variable {c : Char} {cs ds : List Char}

theorem entity_of_not_mem (h : c ∉ significant) : entity c = [c] := by
  simp only [significant, List.mem_cons, List.not_mem_nil, or_false, not_or] at h
  simp only [entity, h, if_false]

/-! ## Escaped texts are safe -/

theorem safe_nil : Safe [] where
  plain := List.forall_mem_nil _
  ampersand before after eq := by cases before <;> cases eq

theorem Safe.append (h : Safe cs) (h' : Safe ds) : Safe (cs ++ ds) where
  plain := List.forall_mem_append.2 ⟨h.plain, h'.plain⟩
  ampersand before after eq := by
    rcases List.append_eq_append_iff.1 eq with ⟨rest, rfl, eq'⟩ | ⟨rest, rfl, eq'⟩
    · exact h'.ampersand rest after eq'
    · cases rest with
      | nil => exact h'.ampersand [] after eq'.symm
      | cons d rest =>
        obtain ⟨rfl, rfl⟩ := List.cons.inj eq'
        obtain ⟨c, mem, begins⟩ := h.ampersand before rest rfl
        exact ⟨c, mem, begins.trans (List.prefix_append ('&' :: rest) ds)⟩

/-- An entity is safe, and so is any other character. -/
theorem safe_entity (c : Char) : Safe (entity c) := by
  by_cases mem : c ∈ significant
  · have plain : significant.all fun c => (entity c).all fun d =>
        d != '<' && d != '>' && d != '"' && d != '\'' := by decide
    have once : significant.all fun c => !(entity c).tail.contains '&' := by decide
    have plain d (inside : d ∈ entity c) :=
      List.all_eq_true.1 (List.all_eq_true.1 plain c mem) d inside
    have once : '&' ∉ (entity c).tail := by simpa using List.all_eq_true.1 once c mem
    refine ⟨fun d inside => by simpa [and_assoc] using plain d inside,
      fun before after eq => ⟨c, mem, ?_⟩⟩
    cases before with
    | nil => exact eq ▸ List.prefix_rfl
    | cons d before =>
      refine absurd ?_ once
      rw [eq, List.cons_append, List.tail_cons]
      exact List.mem_append_right before List.mem_cons_self
  · rw [entity_of_not_mem mem]
    simp only [significant, List.mem_cons, List.not_mem_nil, or_false, not_or] at mem
    obtain ⟨ampersand, plain⟩ := mem
    refine ⟨List.forall_mem_singleton.2 plain, fun before after eq => absurd ?_ ampersand⟩
    have mem : '&' ∈ [c] := eq ▸ List.mem_append_right before List.mem_cons_self
    exact (List.mem_singleton.1 mem).symm

theorem safe_escape (cs : List Char) : Safe (escape cs) := by
  induction cs with
  | nil => exact safe_nil
  | cons c cs ih =>
    rw [escape_cons]
    exact (safe_entity c).append ih

/-! ## Reading entities -/

theorem unescape_cons (h : c ≠ '&') (cs : List Char) : unescape (c :: cs) = c :: unescape cs := by
  simp [unescape, h]

/-- The entity of a character is read as the character, whatever stands behind it. -/
theorem unescape_entity (c : Char) (cs : List Char) :
    unescape (entity c ++ cs) = c :: unescape cs := by
  by_cases mem : c ∈ significant
  · simp only [significant, List.mem_cons, List.not_mem_nil, or_false] at mem
    rcases mem with rfl | rfl | rfl | rfl | rfl <;> rfl
  · have other : c ≠ '&' := by
      rintro rfl
      exact mem (by decide)
    rw [entity_of_not_mem mem, List.singleton_append, unescape_cons other]

theorem unescape_escape (cs : List Char) : unescape (escape cs) = cs := by
  induction cs with
  | nil => rfl
  | cons c cs ih => rw [escape_cons, unescape_entity, ih]

theorem Safe.of_append (cs : List Char) (h : Safe (cs ++ ds)) : Safe ds where
  plain c mem := h.plain c (List.mem_append_right cs mem)
  ampersand before after eq := h.ampersand (cs ++ before) after (by rw [eq, List.append_assoc])

/-- A safe text is the escaped form of what is read of it. -/
theorem escape_unescape (h : Safe cs) : escape (unescape cs) = cs := by
  -- along the reading: an entity at a time, or a character that begins none
  fun_induction unescape cs with
  | case1 cs ih => rw [escape_cons, ih (h.of_append "&amp;".toList)]; rfl
  | case2 cs ih => rw [escape_cons, ih (h.of_append "&lt;".toList)]; rfl
  | case3 cs ih => rw [escape_cons, ih (h.of_append "&gt;".toList)]; rfl
  | case4 cs ih => rw [escape_cons, ih (h.of_append "&quot;".toList)]; rfl
  | case5 cs ih => rw [escape_cons, ih (h.of_append "&#x27;".toList)]; rfl
  | case6 c cs amp lt gt quot apos ih =>
    have single : c ∉ significant := by
      intro mem
      obtain ⟨less, greater, quote, tick⟩ := h.plain c List.mem_cons_self
      obtain rfl : c = '&' := by simpa [significant, less, greater, quote, tick] using mem
      obtain ⟨d, mem, rest, eq⟩ := h.ampersand [] cs rfl
      simp only [significant, List.mem_cons, List.not_mem_nil, or_false] at mem
      rcases mem with rfl | rfl | rfl | rfl | rfl
      · exact amp rest rfl (List.cons.inj eq).2.symm
      · exact lt rest rfl (List.cons.inj eq).2.symm
      · exact gt rest rfl (List.cons.inj eq).2.symm
      · exact quot rest rfl (List.cons.inj eq).2.symm
      · exact apos rest rfl (List.cons.inj eq).2.symm
    rw [escape_cons, entity_of_not_mem single, ih (h.of_append [c])]
    rfl
  | case7 => rfl

/-! ## Strings -/

@[simp] theorem toList_escapeString (s : String) : (escapeString s).toList = escape s.toList :=
  String.toList_ofList

/-- Escaped strings are safe, and every safe string is one of them. Reading the entities of an
escaped string gives the string back, so that no two strings have the same escaped form. Strings
are escaped part by part. The formatter of HTML writes and the filter `purify` gives the escaped
form of every string. -/
theorem escape_lossless (s t : String) :
    Safe (escapeString s).toList ∧
      unescape (escapeString s).toList = s.toList ∧
      Function.Injective escapeString ∧
      (∀ x : String, Safe x.toList ↔ ∃ s, escapeString s = x) ∧
      escapeString (s ++ t) = escapeString s ++ escapeString t ∧
      Formatter.html (.text s) = .written (escapeString s) ∧
      ∃ purify, Dict.get? "purify" Engine.standardFunctions = some (.filter purify) ∧
        purify (.text s) [] = .ok (.text (escapeString s)) := by
  refine ⟨?_, ?_, fun s t same => ?_, fun x => ⟨fun safe => ⟨.ofList (unescape x.toList), ?_⟩, ?_⟩,
    ?_, rfl, Filter.purify, rfl, rfl⟩
  · rw [toList_escapeString]
    exact safe_escape _
  · rw [toList_escapeString, unescape_escape]
  · have lists := congrArg String.toList same
    rw [toList_escapeString, toList_escapeString] at lists
    rw [← String.ofList_toList (s := s), ← String.ofList_toList (s := t),
      ← unescape_escape s.toList, lists, unescape_escape]
  · rw [escapeString, String.toList_ofList, escape_unescape safe, String.ofList_toList]
  · rintro ⟨s, rfl⟩
    rw [toList_escapeString]
    exact safe_escape _
  · rw [escapeString, String.toList_append, escape_append, String.ofList_append]
    rfl

/-- An entity is escaped once more, and read once. -/
example : escapeString "&lt;b&gt;" = "&amp;lt;b&amp;gt;" ∧
    unescape "&amp;lt;b&amp;gt;".toList = "&lt;b&gt;".toList := by
  decide

end Stencil.Html
