import Stencil.Proofs.ReaderFaults
import Stencil.Proofs.StringLiterals

/-!
# Places of faults

A reader of expressions that fails over the tokens of a region of a source reports a place in this
region: that of a token, or a part of a literal. Only where the tokens end too early nothing is left
to point at, and the fault is placed at the end of the source.

- `Error.Faulted`: a fault in a region of a source, or one at the end of the source.
- `Span.Narrow`: a region of a source, of characters of one byte each, such as a number.
- `Literal.faulted_number`, `Literal.faulted_string`: the faults of literals.
- `Parse.Row`: the tokens of a region without its blanks.
- `Parse.Blamed.faulted`: what a reader may fail with over such tokens is in their region.
- `Parse.faults_callArgs`, `Parse.faults_assignArgs`: the faults of lists of arguments.
-/

namespace Stencil

open Text (byteLength)

/-! ## Places of faults -/

/-- Something is wanted, and nothing is left. -/
def SyntaxFault.AtEnd (fault : SyntaxFault) : Prop := ∃ wanted, fault = .expected wanted none

theorem SyntaxFault.not_atEnd (wanted : String) (found : TokenKind) :
    ¬ (expected wanted (some found)).AtEnd := nofun

/-- A fault in a region of a source, or something is wanted where the source ends. -/
inductive Error.Faulted (source : String) (region : Span) : Error → Prop
  | inside {fault : SyntaxFault} {span : Span} (found : ¬ fault.AtEnd) (fits : span.Fits source)
      (within : span.Within region) : Faulted source region (Error.syntaxAt fault source span)
  | atEnd (wanted : String) : Faulted source region
      (Error.syntaxAt (.expected wanted none) source (Span.point source.utf8ByteSize))

/-- The error of a failure, if it is one, is a fault in a region or at the end of the source. -/
def Failure.Faulted (source : String) (region : Span) : Failure → Prop
  | .error err => err.Faulted source region
  | .broken => True

namespace Span

variable {source : String} {region span span' : Span}

theorem within_refl (span : Span) : span.Within span := ⟨Nat.le_refl _, Nat.le_refl _⟩

theorem Within.trans (h : span.Within span') (h' : span'.Within region) : span.Within region :=
  ⟨Nat.le_trans h'.1 h.1, Nat.le_trans h.2 h'.2⟩

theorem within_join_right (s t : Span) : t.Within (s.join t) :=
  ⟨Nat.min_le_right _ _, Nat.le_max_right _ _⟩

theorem Within.join {s t : Span} (hs : s.Within region) (ht : t.Within region) :
    (s.join t).Within region :=
  ⟨Nat.le_min.2 ⟨hs.1, ht.1⟩, Nat.max_le.2 ⟨hs.2, ht.2⟩⟩

/-- A region of a source, of characters of one byte each. -/
def Narrow (source : String) (span : Span) : Prop :=
  ∃ before cs after, source.toList = before ++ (cs ++ after) ∧
    span = ⟨byteLength before, byteLength before + cs.length⟩ ∧ ∀ c ∈ cs, c.utf8Size = 1

end Span

theorem Text.byteLength_of_narrow {cs : List Char} (h : ∀ c ∈ cs, c.utf8Size = 1) :
    byteLength cs = cs.length := by
  induction cs with
  | nil => rfl
  | cons c cs ih =>
    obtain ⟨first, others⟩ := List.forall_mem_cons.1 h
    rw [byteLength_cons, first, ih others, List.length_cons, Nat.add_comm]

namespace Span.Narrow

variable {source : String} {span : Span}

theorem fits (h : span.Narrow source) : span.Fits source := by
  obtain ⟨before, cs, after, eq, rfl, narrow⟩ := h
  rw [← Text.byteLength_of_narrow narrow]
  exact fits_of_append eq

/-- Every byte is a character. -/
theorem fits_byte (h : span.Narrow source) {m : Nat} (start : span.start ≤ m)
    (stop : m < span.stop) : Fits source ⟨m, m + 1⟩ := by
  obtain ⟨before, cs, after, eq, rfl, narrow⟩ := h
  obtain ⟨k, rfl⟩ := Nat.exists_eq_add_of_le start
  have lt : k < cs.length := Nat.lt_of_add_lt_add_left stop
  have split : source.toList = before ++ cs.take k ++ ([cs[k]] ++ (cs.drop (k + 1) ++ after)) := by
    rw [eq, List.append_assoc]
    congr 1
    rw [← List.append_assoc, ← List.append_assoc, List.append_assoc (cs.take k),
      List.singleton_append, List.getElem_cons_drop, List.take_append_drop]
  have before_length : byteLength (before ++ cs.take k) = byteLength before + k := by
    rw [Text.byteLength_append, Text.byteLength_of_narrow fun c mem =>
      narrow c (List.mem_of_mem_take mem), List.length_take, Nat.min_eq_left (Nat.le_of_lt lt)]
  have one : byteLength [cs[k]] = 1 := by
    rw [Text.byteLength_cons, narrow _ (List.getElem_mem lt)]
    rfl
  have fits := fits_of_append split
  rwa [before_length, one] at fits

end Span.Narrow

theorem Error.Faulted.mono {source : String} {region region' : Span} {err : Error}
    (h : err.Faulted source region) (within : region.Within region') :
    err.Faulted source region' := by
  cases h with
  | inside found fits inner => exact .inside found fits (inner.trans within)
  | atEnd wanted => exact .atEnd wanted

theorem Parse.map_eq_error {ε α β : Type} {x : Except ε α} {f : α → β} {e : ε}
    (h : x.map f = .error e) : x = .error e := by
  cases x with
  | ok a => cases h
  | error e' =>
    cases h
    rfl

/-! ## Literals -/

namespace Literal

variable {source : String} {span : Span} {err : Error}

theorem length_le_byteLength (cs : List Char) : cs.length ≤ byteLength cs := by
  induction cs with
  | nil => exact Nat.le_refl 0
  | cons c cs ih =>
    have := Char.utf8Size_pos c
    rw [List.length_cons, Text.byteLength_cons]
    omega

/-- The digits are looked for from the start of the place on, which may have a sign. -/
theorem faulted_integer {text : List Char} {negative : Bool}
    (h : integer source text span negative = .error err) (narrow : span.Narrow source)
    (room : span.start + text.length ≤ span.stop) : err.Faulted source span := by
  rcases exists_of_integer h with ⟨bad, rfl⟩ | ⟨base, rfl⟩
  · have inside := bad.position_lt
    exact .inside nofun (narrow.fits_byte (by omega) (by omega)) ⟨by dsimp only; omega,
      by dsimp only; omega⟩
  · exact .inside nofun narrow.fits span.within_refl

theorem faulted_number {text : List Char} {negative : Bool}
    (h : number source text span negative = .error err) (narrow : span.Narrow source)
    (room : span.start + text.length ≤ span.stop) : err.Faulted source span := by
  rcases eq_or_of_number h with rfl | whole
  · exact .inside nofun narrow.fits span.within_refl
  · exact faulted_integer whole narrow room

/-- A bad escape is within its literal. -/
theorem faulted_string {t : Token} {inner : List Char} (reads : t.Reads source)
    (text : t.text = String.ofList ('"' :: (inner ++ ['"']))) (hinner : Inner inner)
    (h : string source t.text t.span = .error (.error err)) : err.Faulted source t.span := by
  rcases hinner.quotes_or with ⟨xs, quotes⟩ | ⟨good, xs, c, rest, rfl, quotes, bad⟩
  · rw [string_of_quotes text quotes] at h
    cases h
  · rw [string_of_escape text quotes bad] at h
    cases h
    obtain ⟨before, cs, after, eq, span, text'⟩ := reads
    rw [text] at text'
    obtain rfl := String.ofList_injective text'
    have split : source.toList =
        before ++ '"' :: good ++ (['\\', c] ++ (rest ++ '"' :: after)) := by
      rw [eq]
      simp
    have fits := Span.fits_of_append split
    rw [Text.byteLength_append] at fits
    rw [span]
    refine .inside nofun fits ⟨Nat.le_add_right _ _, ?_⟩
    simp only [escapePlace, Text.byteLength_cons, Text.byteLength_append, Text.byteLength_nil]
    omega

end Literal

/-! ## Readers -/

namespace Parse

/-- A token in a region of a source: strings have quotes around them, and numbers have characters of
one byte each. -/
structure Located (source : String) (region : Span) (t : Token) : Prop where
  reads : t.Reads source
  within : t.span.Within region
  string : t.kind = .string →
    ∃ inner, t.text = String.ofList ('"' :: (inner ++ ['"'])) ∧ Literal.Inner inner
  number : t.kind = .number → t.span.Narrow source

/-- The tokens of a region, or the last ones of them, without the blanks. Between a sign and the
number behind it there were blanks only. -/
structure Row (source : String) (region : Span) (ts : List Token) : Prop where
  located : ∀ t ∈ ts, Located source region t
  signed : ∀ sign t, [sign, t] <:+: ts → sign.kind = .plus ∨ sign.kind = .minus →
    t.kind = .number → (sign.span.join t.span).Narrow source

variable {α : Type} {s : Surroundings} {region : Span} {ts : List Token} {t : Token} {f : Failure}

/-- There is room for the text of a token. -/
theorem Located.room (h : Located s.source region t) :
    t.span.stop = t.span.start + byteLength t.text.toList := by
  obtain ⟨before, cs, after, -, span, text⟩ := h.reads
  rw [span, text, String.toList_ofList]

/-- The place of a number is that of its token, or with a sign that of both. -/
theorem Located.faulted_number {span : Span} {negative : Bool} {err : Error}
    (ht : Located s.source region t) (narrow : span.Narrow s.source) (within : span.Within region)
    (around : t.span.Within span)
    (failed : Literal.number s.source t.text.toList span negative = .error err) :
    err.Faulted s.source region := by
  refine (Literal.faulted_number failed narrow ?_).mono within
  have := Literal.length_le_byteLength t.text.toList
  have := ht.room
  obtain ⟨start, stop⟩ := around
  omega

theorem not_atEnd_of_concerns {kind : TokenKind} {fault : SyntaxFault}
    (concerns : fault.Concerns kind) : ¬ fault.AtEnd := by
  rintro ⟨wanted, rfl⟩
  cases concerns

/-- What a reader may fail with over the tokens of a region is a fault in it, or one at the end of
the source. -/
theorem Blamed.faulted (h : Blamed s ts f) (hs : s.failure = none)
    (row : Row s.source region ts) : f.Faulted s.source region := by
  cases h with
  | broken => trivial
  | lexer failed => cases hs.symm.trans failed
  | atEnd wanted => exact Error.Faulted.atEnd wanted
  | token mem concerns =>
    have ht := row.located _ mem
    exact .inside (not_atEnd_of_concerns concerns) ht.reads.fits ht.within
  | string mem kind failed =>
    have ht := row.located _ mem
    obtain ⟨inner, text, hinner⟩ := ht.string kind
    exact (Literal.faulted_string ht.reads text hinner failed).mono ht.within
  | number mem kind failed =>
    have ht := row.located _ mem
    exact ht.faulted_number (ht.number kind) ht.within (Span.within_refl _) failed
  | @signed sign t negative _ near hsign kind failed =>
    have hsign' : sign.kind = .plus ∨ sign.kind = .minus := by
      cases negative with
      | true => exact .inr hsign
      | false => exact .inl hsign
    have ht := row.located t (near.subset (by simp))
    have first := row.located sign (near.subset (by simp))
    have narrow := row.signed sign t near hsign' kind
    exact ht.faulted_number narrow (first.within.join ht.within) (Span.within_join_right _ _) failed

/-- What a result fails with, if it does, is a fault in a region or at the end of the source. -/
abbrev Faults (s : Surroundings) (region : Span) (r : Except Failure α) : Prop :=
  Fails (Failure.Faulted s.source region) r

theorem faults_callArgs (hs : s.failure = none) (row : Row s.source region ts) :
    Faults s region (callArgs s ts) :=
  blames_callArgs.imp fun _ blamed => blamed.faulted hs row

theorem faults_assignArgs (hs : s.failure = none) (row : Row s.source region ts) :
    Faults s region (assignArgs s ts) :=
  blames_assignArgs.imp fun _ blamed => blamed.faulted hs row

end Parse

end Stencil
