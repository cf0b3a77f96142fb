import Stencil.Cache.Options
import Stencil.Proofs.JsonScan

/-!
# Key texts

The text whose digest is a derived key determines the place and the options, although the identity
of a template may hold anything.

- `Value.Finite`: every double in a value has digits.
- `Value.normal_of_write`: the text of a value determines the value up to doubles without digits.
- `CacheOptions.keyText_injective`: what a key text determines.
- `Digest.Collide`: two texts have the same digest by accident.
- `CacheOptions.derivedKey_injective`: without such an accident a key determines as much.
-/

namespace Stencil

/-! ## Values -/

namespace Value

mutual

/-- Every double in the value is neither infinite nor undefined. -/
def Finite : Value → Prop
  | .float x => isFinite x
  | .list items => FiniteItems items
  | .map entries => FiniteEntries entries
  | _ => True

/-- `Finite` on the items of a list. -/
def FiniteItems : List Value → Prop
  | [] => True
  | v :: vs => Finite v ∧ FiniteItems vs

/-- `Finite` on the entries of a map. -/
def FiniteEntries : List (String × Value) → Prop
  | [] => True
  | (_, v) :: rest => Finite v ∧ FiniteEntries rest

end

mutual

/-- A value all of whose doubles have digits is what it is by way of a document. -/
theorem normal_of_finite : ∀ {v : Value}, v.Finite → v.normal = v
  | .none, _ => rfl
  | .bool _, _ => rfl
  | .int _, _ => rfl
  | .text _, _ => rfl
  | .float x, h => by
    rw [Finite] at h
    rw [normal, if_pos h]
  | .list items, h => by rw [normal, normalItems_of_finite h]
  | .map entries, h => by rw [normal, normalEntries_of_finite h]

theorem normalItems_of_finite : ∀ {items : List Value}, FiniteItems items →
    normalItems items = items
  | [], _ => rfl
  | _ :: _, h => by rw [normalItems, normal_of_finite h.1, normalItems_of_finite h.2]

theorem normalEntries_of_finite : ∀ {entries : List (String × Value)}, FiniteEntries entries →
    normalEntries entries = entries
  | [], _ => rfl
  | (_, _) :: _, h => by rw [normalEntries, normal_of_finite h.1, normalEntries_of_finite h.2]

end

mutual

/-- The document of a value has digits for every double. -/
theorem finite_toJson : ∀ v : Value, (toJson v).Finite
  | .none => trivial
  | .bool _ => trivial
  | .int _ => trivial
  | .text _ => trivial
  | .float x => by
    rw [toJson]
    split
    · next finite => exact finite
    · trivial
  | .list items => finite_itemsToJson items
  | .map entries => finite_entriesToJson entries

theorem finite_itemsToJson : ∀ items : List Value, Json.FiniteItems (itemsToJson items)
  | [] => trivial
  | v :: vs => ⟨finite_toJson v, finite_itemsToJson vs⟩

theorem finite_entriesToJson :
    ∀ entries : List (String × Value), Json.FiniteMembers (entriesToJson entries)
  | [] => trivial
  | (_, v) :: rest => ⟨finite_toJson v, finite_entriesToJson rest⟩

end

mutual

/-- The value whose document is given, with the members of an object in their order. -/
def ofDocument : Json → Value
  | .null => .none
  | .bool b => .bool b
  | .int n => .int (Int64.ofInt n)
  | .float x => .float x
  | .string s => .text s
  | .array items => .list (itemsOfDocument items)
  | .object members => .map (entriesOfDocument members)

/-- `ofDocument` on the items of an array. -/
def itemsOfDocument : List Json → List Value
  | [] => []
  | j :: js => ofDocument j :: itemsOfDocument js

/-- `ofDocument` on the members of an object. -/
def entriesOfDocument : List (String × Json) → List (String × Value)
  | [] => []
  | (k, j) :: rest => (k, ofDocument j) :: entriesOfDocument rest

end

mutual

/-- Nothing but doubles without digits is lost in a document. -/
theorem ofDocument_toJson : ∀ v : Value, ofDocument (toJson v) = v.normal
  | .none => rfl
  | .bool _ => rfl
  | .int n => by
    show Value.int (Int64.ofInt n.toInt) = .int n
    rw [Int64.ofInt_toInt]
  | .text _ => rfl
  | .float x => by
    rw [toJson, normal]
    split <;> rfl
  | .list items => by rw [toJson, ofDocument, itemsOfDocument_itemsToJson items, normal]
  | .map entries => by rw [toJson, ofDocument, entriesOfDocument_entriesToJson entries, normal]

theorem itemsOfDocument_itemsToJson :
    ∀ items : List Value, itemsOfDocument (itemsToJson items) = normalItems items
  | [] => rfl
  | v :: vs => by
    rw [itemsToJson, itemsOfDocument, ofDocument_toJson v, itemsOfDocument_itemsToJson vs,
      normalItems]

theorem entriesOfDocument_entriesToJson :
    ∀ entries : List (String × Value),
      entriesOfDocument (entriesToJson entries) = normalEntries entries
  | [] => rfl
  | (k, v) :: rest => by
    rw [entriesToJson, entriesOfDocument, ofDocument_toJson v, entriesOfDocument_entriesToJson rest,
      normalEntries]

end

/-- Values with the same text are the same up to doubles without digits. -/
theorem normal_of_write {v w : Value} (h : v.toJson.write = w.toJson.write) :
    v.normal = w.normal := by
  have documents := Json.write_injective (finite_toJson v) (finite_toJson w) h
  rw [← ofDocument_toJson, documents, ofDocument_toJson]

end Value

/-! ## Digests -/

namespace Digest

/-- The texts are different and have the same digest. -/
def Collide (s t : String) : Prop := s ≠ t ∧ sha256 s.toUTF8.toList = sha256 t.toUTF8.toList

theorem length_sha256 (message : List UInt8) : (sha256 message).length = 32 := rfl

theorem hexDigit_injective {m n : ℕ} (hm : m < 16) (hn : n < 16) (h : hexDigit m = hexDigit n) :
    m = n := by
  have all : ∀ m < 16, ∀ n < 16, hexDigit m = hexDigit n → m = n := by decide
  exact all m hm n hn h

/-- Bytes are determined by their hexadecimal digits. -/
theorem hex_injective {bytes bytes' : List UInt8} (h : hex bytes = hex bytes') :
    bytes = bytes' := by
  have digits := String.ofList_injective h
  clear h
  -- both lists are walked together, two digits for each byte
  induction bytes generalizing bytes' with
  | nil =>
    cases bytes' with
    | nil => rfl
    | cons b bytes' => simp at digits
  | cons b bytes ih =>
    cases bytes' with
    | nil => simp at digits
    | cons b' bytes' =>
      simp only [List.flatMap_cons, List.cons_append, List.nil_append, List.cons.injEq] at digits
      obtain ⟨high, low, rest⟩ := digits
      have bound := b.toNat_lt
      have bound' := b'.toNat_lt
      have high := hexDigit_injective (by omega) (by omega) high
      have low := hexDigit_injective (by omega) (by omega) low
      have same : b = b' := UInt8.toNat_inj.1 (by omega)
      rw [same, ih rest]

/-- A whole digest in hexadecimal determines the text, unless two texts have the same digest. -/
theorem eq_of_hexOf {s t : String} (h : hexOf s 32 = hexOf t 32) (fair : ¬Collide s t) : s = t := by
  by_contra ne
  have digests := hex_injective h
  rw [List.take_of_length_le (length_sha256 _).le, List.take_of_length_le (length_sha256 _).le]
    at digests
  exact fair ⟨ne, digests⟩

end Digest

/-! ## Key texts -/

namespace CacheOptions

theorem toList_keyText (o : Origin) (entries : Dict Value) :
    (keyText o entries).toList =
      (o.identity.toList ++ '|' :: (Nat.toDigits 10 o.line ++ ':' :: Nat.toDigits 10 o.column)) ++
        '|' :: (Value.map entries).toJson.write := by
  simp [keyText, Value.json, Json.render]

/-- The last separator of a text is determined by the text. -/
theorem eq_of_append_cons {a : Char} {before before' behind behind' : List Char} (h : a ∉ behind)
    (h' : a ∉ behind') (eq : before ++ a :: behind = before' ++ a :: behind') :
    before = before' ∧ behind = behind' := by
  -- cut at different separators, one of the tails would hold the other separator
  rcases List.append_eq_append_iff.1 eq with ⟨s, front, rest⟩ | ⟨s, front, rest⟩
  · cases s with
    | nil => exact ⟨by rw [front, List.append_nil], (List.cons.inj rest).2⟩
    | cons c s =>
      refine absurd ?_ h
      rw [(List.cons.inj rest).2]
      exact List.mem_append_right s List.mem_cons_self
  · cases s with
    | nil => exact ⟨by rw [front, List.append_nil], (List.cons.inj rest).2.symm⟩
    | cons c s =>
      refine absurd ?_ h'
      rw [(List.cons.inj rest).2]
      exact List.mem_append_right s List.mem_cons_self

theorem toDigits_injective {n n' : ℕ} (h : Nat.toDigits 10 n = Nat.toDigits 10 n') : n = n' := by
  rw [← Decimal.natOf_toDigits n, h, Decimal.natOf_toDigits]

/-- The text before the options determines the place: only the identity may hold separators. -/
theorem origin_injective {o o' : Origin}
    (h : o.identity.toList ++ '|' :: (Nat.toDigits 10 o.line ++ ':' :: Nat.toDigits 10 o.column) =
      o'.identity.toList ++
        '|' :: (Nat.toDigits 10 o'.line ++ ':' :: Nat.toDigits 10 o'.column)) : o = o' := by
  have notDigit : ∀ {c : Char} {n : ℕ}, c.isDigit = false → c ∉ Nat.toDigits 10 n :=
    fun hc => Decimal.notMem_of_isDigit hc Decimal.isDigit_of_mem_toDigits
  -- the place is cut from its end: no number holds a separator, while the identity may
  rw [← List.cons_append, ← List.append_assoc, ← List.cons_append, ← List.append_assoc] at h
  obtain ⟨front, column⟩ := eq_of_append_cons (notDigit rfl) (notDigit rfl) h
  obtain ⟨identity, line⟩ := eq_of_append_cons (notDigit rfl) (notDigit rfl) front
  obtain ⟨i, l, c⟩ := o
  obtain ⟨i', l', c'⟩ := o'
  obtain rfl := String.toList_inj.1 identity
  obtain rfl := toDigits_injective line
  obtain rfl := toDigits_injective column
  rfl

/-- A key text determines the place and the options up to doubles without digits. The identity
may hold anything: a bar in it cannot be taken for the one before the options, since the bars of a
document are in its strings. -/
theorem keyText_injective {o o' : Origin} {m m' : Dict Value}
    (h : keyText o m = keyText o' m') :
    o = o' ∧ Value.normalEntries m = Value.normalEntries m' := by
  have chars := congrArg String.toList h
  rw [toList_keyText, toList_keyText] at chars
  obtain ⟨places, documents⟩ := Json.bar_append_injective
    (Json.scan_write _ (Value.finite_toJson _)) (Json.scan_write _ (Value.finite_toJson _)) chars
  have options := Value.normal_of_write documents
  rw [Value.normal, Value.normal, Value.map.injEq] at options
  exact ⟨origin_injective places, options⟩

theorem derivedKey_injective {o o' : Origin} {m m' : Dict Value}
    (fair : ¬Digest.Collide (keyText o m) (keyText o' m')) (h : derivedKey o m = derivedKey o' m') :
    o = o' ∧ Value.normalEntries m = Value.normalEntries m' :=
  keyText_injective (Digest.eq_of_hexOf h fair)

end CacheOptions

end Stencil
