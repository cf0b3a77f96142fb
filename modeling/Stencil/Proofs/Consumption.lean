import Stencil.Proofs.Grammar
import Stencil.Template.Parser

/-!
# What the parser leaves

Every function of the parser takes tokens off the start of its list: what it leaves is behind what
it has taken, and no tag begins or ends in that.

- `Parse.Leaves`: the result of reading is behind settled tokens.
- `Parse.leaves_expression`, `Parse.leaves_blockTag`: expressions and block tags.
-/

namespace Stencil.Parse

variable {α β : Type} {s : Surroundings} {ts ts' : List Token}

/-- What is read leaves the tokens behind some that are settled. -/
def Leaves (ts : List Token) (r : Except Failure (Taken α)) : Prop :=
  ∀ a rest, r = .ok (a, rest) →
    ∃ taken, ts = taken ++ rest ∧ Settled (taken.map Token.kind)

namespace Leaves

/-- Nothing is taken. -/
theorem ok (a : α) : Leaves ts (.ok (a, ts)) := by
  rintro _ _ ⟨⟩
  exact ⟨[], rfl, .nil⟩

theorem error (f : Failure) : Leaves ts (.error f : Except Failure (Taken α)) := by
  rintro _ _ ⟨⟩

/-- One reading after another. -/
theorem bind {x : Except Failure (Taken α)} {f : Taken α → Except Failure (Taken β)}
    (hx : Leaves ts x) (hf : ∀ a ts', Leaves ts' (f (a, ts'))) : Leaves ts (x >>= f) := by
  intro b rest h
  obtain ⟨⟨a, ts'⟩, first, second⟩ := bind_eq_ok h
  obtain ⟨front, rfl, settled⟩ := hx a ts' first
  obtain ⟨back, rfl, settled'⟩ := hf a ts' b rest second
  refine ⟨front ++ back, (List.append_assoc ..).symm, ?_⟩
  rw [List.map_append]
  exact settled.append settled'

/-- Reading after something that takes no token. -/
theorem after {γ : Type} {x : Except Failure γ} {f : γ → Except Failure (Taken β)}
    (hf : ∀ c, Leaves ts (f c)) : Leaves ts (x >>= f) := by
  intro b rest h
  obtain ⟨c, -, second⟩ := bind_eq_ok h
  exact hf c b rest second

theorem suffix {r : Except Failure (Taken α)} {a : α} {rest : List Token} (h : Leaves ts r)
    (read : r = .ok (a, rest)) : rest <:+ ts := by
  obtain ⟨taken, rfl, -⟩ := h a rest read
  exact List.suffix_append taken rest

end Leaves

/-! ## Names and expressions -/

theorem leaves_expect {kind : TokenKind} (plain : kind.isPlain) : Leaves ts (expect s kind ts) := by
  intro t rest h
  obtain ⟨rfl, rfl⟩ := expect_eq_ok h
  exact ⟨[t], rfl, .single plain⟩

theorem leaves_ident : Leaves ts (ident s ts) :=
  .bind (leaves_expect rfl) fun _ _ => .ok _

theorem leaves_keyword : Leaves ts (keyword s ts) := by
  refine .bind (leaves_expect rfl) fun t ts' => ?_
  simp only
  split
  · exact .ok _
  · exact .error _

theorem leaves_expectKeyword (k : Keyword) : Leaves ts (expectKeyword s k ts) := by
  refine .bind leaves_keyword fun k' ts' => ?_
  simp only
  split
  · exact .ok _
  · exact .error _

theorem leaves_expression : Leaves ts (expression s ts) := by
  intro x rest h
  obtain ⟨taken, rfl, written, -⟩ := written_of_expression h
  have settled := x.settled_of_written written
  rw [kinds, List.map_map] at settled
  exact ⟨taken, rfl, settled⟩

/-! ## Block tags -/

theorem leaves_condition : Leaves ts (condition s ts) := by
  refine .after fun negated => ?_
  split
  · exact .bind (leaves_expectKeyword _) fun _ _ => .bind leaves_expression fun _ _ =>
      .ok _
  · exact .bind leaves_expression fun _ _ => .ok _

theorem leaves_loopVars : Leaves ts (loopVars s ts) := by
  refine .bind leaves_ident fun key _ => .after fun comma => ?_
  split
  · exact .bind (leaves_expect rfl) fun _ _ => .bind leaves_ident fun _ _ => .ok _
  · exact .ok _

/-- A block tag leaves what is behind it. -/
theorem leaves_blockTag : Leaves ts (blockTag s ts) := by
  -- the keyword is taken, and each form of tag goes on by itself
  refine .bind leaves_keyword fun k ts' => ?_
  obtain ⟨k, span⟩ := k
  simp only
  split
  · exact .bind leaves_condition fun _ _ => .ok _
  · refine .after fun isIf => ?_
    split
    · exact .bind (leaves_expectKeyword _) fun _ _ => .bind leaves_condition fun _ _ =>
        .ok _
    · exact .ok _
  · exact .ok _
  · exact .bind leaves_loopVars fun _ _ => .bind (leaves_expectKeyword _) fun _ _ =>
      .bind leaves_expression fun _ _ => .ok _
  · exact .ok _
  · refine .bind (leaves_expect rfl) fun t _ => .after fun name => .after fun isWith => ?_
    split
    · exact .bind (leaves_expectKeyword _) fun _ _ => .bind leaves_expression fun _ _ =>
        .ok _
    · exact .ok _
  · exact .error _

end Stencil.Parse
