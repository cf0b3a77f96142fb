import Stencil.Proofs.KeyText
import Stencil.Proofs.Markers

/-!
# Derived keys

A cached block that names no key is kept under the digest of its key text. As far as digests tell
texts apart, the key tells the block and its options apart.

- `CacheOptions.lineColumn_ne`: different offsets have different lines or columns.
- `CacheOptions.derivedKey_unambiguous`: what key texts and derived keys determine.
-/

namespace Stencil.CacheOptions

/-- Different offsets of a source have different lines or columns. -/
theorem lineColumn_ne {identity source : String} {i j : Nat} {o p : Origin}
    (ho : Origin.at? identity source i = some o) (hp : Origin.at? identity source j = some p)
    (ne : i ≠ j) : (o.line, o.column) ≠ (p.line, p.column) := by
  intro same
  -- the place of the greater offset is behind that of the other one
  rcases Nat.lt_or_gt_of_ne ne with lt | gt
  · have before := Origin.before_of_at? ho hp lt
    rw [Origin.Before, same] at before
    exact Origin.not_earlier_self before
  · have before := Origin.before_of_at? hp ho gt
    rw [Origin.Before, same] at before
    exact Origin.not_earlier_self before

/-- A key text determines the place and the options if their doubles have digits. -/
theorem eq_of_keyText {o o' : Origin} {m m' : Dict Value} (finite : Value.FiniteEntries m)
    (finite' : Value.FiniteEntries m') (h : keyText o m = keyText o' m') : o = o' ∧ m = m' := by
  obtain ⟨places, options⟩ := keyText_injective h
  rw [Value.normalEntries_of_finite finite, Value.normalEntries_of_finite finite'] at options
  exact ⟨places, options⟩

/-- Equal key texts are of one place and of the same options, whatever the identities hold.
Different offsets of a source are different places, so no two cached blocks of a template share a
derived key, and one of them has the same key twice exactly for the same options; both unless two
key texts collide. The options are the same if they are written the same: zero and minus zero
differ. -/
theorem derivedKey_unambiguous :
    (∀ (o o' : Origin) (m m' : Dict Value), Value.FiniteEntries m → Value.FiniteEntries m' →
      keyText o m = keyText o' m' →
      o.identity = o'.identity ∧ o.line = o'.line ∧ o.column = o'.column ∧ m = m') ∧
    (∀ (identity source : String) (i j : Nat) (o p : Origin),
      Origin.at? identity source i = some o → Origin.at? identity source j = some p → i ≠ j →
      (o.line, o.column) ≠ (p.line, p.column)) ∧
    (∀ (l : Language) (name : Option String) (source : String) (t : Template),
      Template.compile l name source = .ok t →
      t.markers.Pairwise fun a b => ∀ m m' : Dict Value,
        ¬Digest.Collide (keyText a.origin m) (keyText b.origin m') →
        derivedKey a.origin m ≠ derivedKey b.origin m') ∧
    (∀ (o : Origin) (m m' : Dict Value), Value.FiniteEntries m → Value.FiniteEntries m' →
      ¬Digest.Collide (keyText o m) (keyText o m') →
      (derivedKey o m = derivedKey o m' ↔ m = m')) := by
  refine ⟨?text, ?offsets, ?blocks, ?options⟩
  case text =>
    intro o o' m m' finite finite' h
    obtain ⟨rfl, rfl⟩ := eq_of_keyText finite finite' h
    exact ⟨rfl, rfl, rfl, rfl⟩
  case offsets =>
    intro identity source i j o p ho hp ne
    exact lineColumn_ne ho hp ne
  case blocks =>
    intro l name source t compiled
    refine (Template.markers_before compiled).imp fun before m m' fair same => ?_
    exact before.ne (derivedKey_injective fair same).1
  case options =>
    intro o m m' finite finite' fair
    constructor
    · intro same
      exact (eq_of_keyText finite finite' (Digest.eq_of_hexOf same fair)).2
    · rintro rfl
      rfl

end Stencil.CacheOptions
