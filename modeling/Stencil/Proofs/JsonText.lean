import Mathlib.Data.List.TakeWhile
import Stencil.Json.Reading
import Stencil.Proofs.Doubles

/-!
# The texts of documents

The text of a document determines it, also where more text follows.

- `readString_quote`: a string between quotes is read back.
- `write_atom_injective`: names and numbers with the same text are the same.
- `write_append_injective`: documents whose texts begin a text are the same.
- `write_injective`: documents with the same text are the same.
-/

namespace Stencil.Json

/-! ## Strings -/

theorem hexValue_digitChar {n : ℕ} (h : n < 16) : hexValue (Nat.digitChar n) = some n := by
  have all : ∀ n < 16, hexValue (Nat.digitChar n) = some n := by decide
  exact all n h

/-- A character between quotes is a short escape, a control as its code point, or itself. -/
theorem escape_cases (c : Char) :
    (∃ e, escape c = ['\\', e] ∧ e ≠ 'u' ∧ escaped e = some c) ∨
      (c.toNat < 0x20 ∧ escape c =
        ['\\', 'u', '0', '0', Nat.digitChar (c.toNat / 16), Nat.digitChar (c.toNat % 16)]) ∨
      (c ≠ '"' ∧ c ≠ '\\' ∧ escape c = [c]) := by
  unfold escape
  -- the escapes are tested one after the other, as they are written
  split
  · next h => exact .inl ⟨'"', rfl, by decide, by rw [h]; rfl⟩
  split
  · next h => exact .inl ⟨'\\', rfl, by decide, by rw [h]; rfl⟩
  split
  · next h => exact .inl ⟨'b', rfl, by decide, by rw [h]; rfl⟩
  split
  · next h => exact .inl ⟨'f', rfl, by decide, by rw [h]; rfl⟩
  split
  · next h => exact .inl ⟨'n', rfl, by decide, by rw [h]; rfl⟩
  split
  · next h => exact .inl ⟨'r', rfl, by decide, by rw [h]; rfl⟩
  split
  · next h => exact .inl ⟨'t', rfl, by decide, by rw [h]; rfl⟩
  split
  · next control => exact .inr (.inl ⟨control, rfl⟩)
  · next quote backslash _ _ _ _ _ _ => exact .inr (.inr ⟨quote, backslash, rfl⟩)

theorem readHex_control {n : ℕ} (h : n < 0x20) (rest : List Char) :
    readHex ('0' :: '0' :: Nat.digitChar (n / 16) :: Nat.digitChar (n % 16) :: rest) =
      some (n, rest) := by
  have zero : hexValue '0' = some 0 := rfl
  have value : ((0 * 16 + 0) * 16 + n / 16) * 16 + n % 16 = n := by omega
  simp only [readHex, zero, hexValue_digitChar (show n / 16 < 16 by omega),
    hexValue_digitChar (show n % 16 < 16 by omega), Option.bind_eq_bind, Option.bind_some, value]

/-- An escaped character is read back. -/
theorem readString_escape (n : ℕ) (c : Char) (rest : List Char) :
    readString (n + 1) (escape c ++ rest) =
      (readString n rest).bind fun r => some (c :: r.1, r.2) := by
  rcases escape_cases c with ⟨e, eq, notU, back⟩ | ⟨control, eq⟩ | ⟨quote, backslash, eq⟩
  · rw [eq]
    simp [readString, back]
  -- a control is no half of a surrogate pair, so nothing more is read for it
  · have ordinary : ¬(0xD800 ≤ c.toNat ∧ c.toNat < 0xDC00) := by omega
    rw [eq]
    simp only [List.cons_append, List.nil_append, readString, readHex_control control,
      Option.bind_eq_bind, Option.bind_some, if_neg ordinary, Char.ofNat_toNat]
  · rw [eq]
    simp [readString, backslash]

/-- A string between quotes is read back, whatever follows. -/
theorem readString_quote {n : ℕ} {cs : List Char} (h : cs.length < n) (rest : List Char) :
    readString n (cs.flatMap escape ++ '"' :: rest) = some (cs, rest) := by
  induction cs generalizing n with
  | nil =>
    obtain ⟨n, rfl⟩ := Nat.exists_eq_succ_of_ne_zero (Nat.ne_of_gt h)
    rfl
  | cons c cs ih =>
    obtain ⟨n, rfl⟩ := Nat.exists_eq_succ_of_ne_zero (Nat.ne_of_gt (Nat.zero_lt_of_lt h))
    rw [List.flatMap_cons, List.append_assoc, readString_escape,
      ih (by simpa using h)]
    rfl

/-- A string between quotes is determined by a text that it begins. -/
theorem quote_append_injective {s t : String} {rest rest' : List Char}
    (h : quote s ++ rest = quote t ++ rest') : s = t ∧ rest = rest' := by
  simp only [quote, List.cons_append, List.append_assoc, List.nil_append, List.cons.injEq,
    true_and] at h
  -- one reader with room for both strings gives them back
  have read := congrArg (readString (s.toList.length + t.toList.length + 1)) h
  rw [readString_quote (by omega), readString_quote (by omega)] at read
  simp only [Option.some.injEq, Prod.mk.injEq] at read
  exact ⟨String.toList_inj.1 read.1, read.2⟩

/-! ## Atoms -/

mutual

/-- Every double of the document is neither infinite nor undefined. -/
def Finite : Json → Prop
  | .float x => (Decimal.Binary64.ofFloat x).isFinite
  | .array items => FiniteItems items
  | .object members => FiniteMembers members
  | _ => True

/-- `Finite` on the items of an array. -/
def FiniteItems : List Json → Prop
  | [] => True
  | item :: rest => Finite item ∧ FiniteItems rest

/-- `Finite` on the members of an object. -/
def FiniteMembers : List (String × Json) → Prop
  | [] => True
  | (_, value) :: rest => Finite value ∧ FiniteMembers rest

end

/-- The forms of documents that their first characters tell apart. -/
inductive Form where
  /-- Numbers and names. -/
  | atom
  | string
  | array
  | object
deriving DecidableEq

/-- The form of a document. -/
def form : Json → Form
  | .string _ => .string
  | .array _ => .array
  | .object _ => .object
  | _ => .atom

/-- The characters of numbers and names. -/
def isPlain (c : Char) : Bool := c.isAlphanum || c == '.' || c == '+' || c == '-'

/-- The form of the documents that begin with a character. -/
def formOf (c : Char) : Option Form :=
  if c = '"' then some .string
  else if c = '[' then some .array
  else if c = '\x7b' then some .object
  else if isPlain c then some .atom
  else none

theorem isPlain_of_isNumeral {c : Char} (h : Decimal.isNumeral c) : isPlain c := by
  simp only [Decimal.isNumeral, Bool.or_eq_true, beq_iff_eq] at h
  rcases h with (((h | rfl) | rfl) | rfl) | rfl
  · simp [isPlain, Char.isAlphanum, h]
  · rfl
  · rfl
  · rfl
  · rfl

theorem formOf_of_isPlain {c : Char} (h : isPlain c) : formOf c = some .atom := by
  unfold formOf
  split
  · next eq => subst eq; exact absurd h (by decide)
  split
  · next eq => subst eq; exact absurd h (by decide)
  split
  · next eq => subst eq; exact absurd h (by decide)
  · rfl

/-! ### Numbers -/

theorem isNumeral_writeInt (n : ℤ) : ∀ c ∈ writeInt n, Decimal.isNumeral c := by
  have digits : ∀ c ∈ Nat.toDigits 10 n.natAbs, Decimal.isNumeral c :=
    fun c hc => Decimal.isNumeral_of_isDigit (Decimal.isDigit_of_mem_toDigits c hc)
  unfold writeInt
  split
  · intro c hc
    rcases List.mem_cons.1 hc with rfl | hc
    · rfl
    · exact digits c hc
  · exact digits

/-- A whole number is written without a point and without an exponent. -/
theorem notMem_writeInt {c : Char} (digit : c.isDigit = false) (minus : c ≠ '-') (n : ℤ) :
    c ∉ writeInt n := by
  have digits : c ∉ Nat.toDigits 10 n.natAbs :=
    Decimal.notMem_of_isDigit digit Decimal.isDigit_of_mem_toDigits
  unfold writeInt
  split
  · simp [minus, digits]
  · exact digits

theorem signed_writeInt (n : ℤ) : Decimal.signed (writeInt n) = n := by
  unfold writeInt
  split
  · show -((Decimal.natOf (Nat.toDigits 10 n.natAbs) : ℕ) : ℤ) = n
    rw [Decimal.natOf_toDigits]
    omega
  · rw [Decimal.signed_toDigits]
    omega

/-- Whole numbers with the same text are the same. -/
theorem writeInt_injective {n n' : ℤ} (h : writeInt n = writeInt n') : n = n' := by
  rw [← signed_writeInt n, h, signed_writeInt]

theorem isNumeral_writeFloat {x : Float} (h : (Decimal.Binary64.ofFloat x).isFinite) :
    ∀ c ∈ writeFloat x, Decimal.isNumeral c := by
  simp only [writeFloat, h, if_true]
  exact Decimal.Layout.isNumeral_writeBinary h (Decimal.Binary64.legal_ofFloat x)

theorem mem_writeFloat {x : Float} (h : (Decimal.Binary64.ofFloat x).isFinite) :
    '.' ∈ writeFloat x ∨ 'e' ∈ writeFloat x := by
  simp only [writeFloat, h, if_true]
  exact Decimal.Layout.mem_writeBinary h rfl

/-- Finite doubles with the same text are the same; zero and minus zero have different ones. -/
theorem writeFloat_injective {x y : Float} (hx : (Decimal.Binary64.ofFloat x).isFinite)
    (hy : (Decimal.Binary64.ofFloat y).isFinite) (h : writeFloat x = writeFloat y) : x = y := by
  simp only [writeFloat, hx, hy, if_true] at h
  exact Decimal.Binary64.ofFloat_injective hx (Decimal.Layout.writeBinary_injective hx hy
    (Decimal.Binary64.legal_ofFloat x) (Decimal.Binary64.legal_ofFloat y) h)

/-! ### Names -/

/-- The document is a name, not a number. -/
def isName : Json → Bool
  | .null => true
  | .bool _ => true
  | _ => false

theorem exists_not_isNumeral {j : Json} (h : j.isName) :
    ∃ c ∈ write j, Decimal.isNumeral c = false := by
  cases j with
  | null => exact ⟨'n', by simp [write], rfl⟩
  | bool b =>
    cases b with
    | true => exact ⟨'t', by simp [write], rfl⟩
    | false => exact ⟨'f', by simp [write], rfl⟩
  | _ => simp [isName] at h

theorem isNumeral_write {j : Json} (atom : j.form = .atom) (finite : j.Finite)
    (h : j.isName = false) : ∀ c ∈ write j, Decimal.isNumeral c := by
  cases j with
  | int n =>
    rw [write]
    exact isNumeral_writeInt n
  | float x =>
    rw [Finite] at finite
    rw [write]
    exact isNumeral_writeFloat finite
  | null => simp [isName] at h
  | bool b => simp [isName] at h
  | _ => simp [form] at atom

/-- Names and numbers have the characters of atoms only. -/
theorem isPlain_write {j : Json} (atom : j.form = .atom) (finite : j.Finite) :
    ∀ c ∈ write j, isPlain c := by
  cases h : j.isName with
  | false => exact fun c hc => isPlain_of_isNumeral (isNumeral_write atom finite h c hc)
  | true =>
    cases j with
    | null =>
      rw [write]
      exact List.all_eq_true.1 rfl
    | bool b => cases b <;> rw [write] <;> exact List.all_eq_true.1 rfl
    | _ => simp [isName] at h

/-- A name is told from a number by a character that no number has. -/
theorem isName_eq {j j' : Json} (atom : j.form = .atom) (finite : j.Finite)
    (h : write j = write j') (name : j'.isName) : j.isName := by
  by_contra number
  obtain ⟨c, hc, notNumeral⟩ := exists_not_isNumeral name
  rw [isNumeral_write atom finite (by simpa using number) c (h ▸ hc)] at notNumeral
  exact absurd notNumeral (by decide)

theorem write_name_injective {j j' : Json} (name : j.isName) (name' : j'.isName)
    (h : write j = write j') : j = j' := by
  cases j with
  | null =>
    cases j' with
    | null => rfl
    | bool b => cases b <;> simp [write] at h
    | _ => simp [isName] at name'
  | bool b =>
    cases j' with
    | null => cases b <;> simp [write] at h
    | bool b' => cases b <;> cases b' <;> simp [write] at h ⊢
    | _ => simp [isName] at name'
  | _ => simp [isName] at name

theorem writeInt_ne_writeFloat {n : ℤ} {x : Float}
    (hx : (Decimal.Binary64.ofFloat x).isFinite) : writeInt n ≠ writeFloat x := by
  intro h
  rcases mem_writeFloat hx with point | exponent
  · exact notMem_writeInt rfl (by decide) n (h ▸ point)
  · exact notMem_writeInt rfl (by decide) n (h ▸ exponent)

/-- Names and numbers with the same text are the same. -/
theorem write_atom_injective {j j' : Json} (atom : j.form = .atom) (atom' : j'.form = .atom)
    (finite : j.Finite) (finite' : j'.Finite) (h : write j = write j') : j = j' := by
  -- either both are names or both are numbers
  by_cases name : j.isName
  · exact write_name_injective name (isName_eq atom' finite' h.symm name) h
  have name' : ¬j'.isName := fun name' => name (isName_eq atom finite h name')
  cases j with
  | int n =>
    cases j' with
    | int n' =>
      simp only [write] at h
      rw [writeInt_injective h]
    | float x =>
      rw [Finite] at finite'
      simp only [write] at h
      exact absurd h (writeInt_ne_writeFloat finite')
    | null => simp [isName] at name'
    | bool b => simp [isName] at name'
    | _ => simp [form] at atom'
  | float x =>
    rw [Finite] at finite
    cases j' with
    | int n' =>
      simp only [write] at h
      exact absurd h.symm (writeInt_ne_writeFloat finite)
    | float y =>
      rw [Finite] at finite'
      simp only [write] at h
      rw [writeFloat_injective finite finite' h]
    | null => simp [isName] at name'
    | bool b => simp [isName] at name'
    | _ => simp [form] at atom'
  | null => simp [isName] at name
  | bool b => simp [isName] at name
  | _ => simp [form] at atom

theorem write_ne_nil {j : Json} (atom : j.form = .atom) (finite : j.Finite) : write j ≠ [] := by
  cases j with
  | int n =>
    rw [write, writeInt]
    split
    · exact List.cons_ne_nil _ _
    · exact Nat.toDigits_ne_nil
  | float x =>
    rw [Finite] at finite
    rw [write]
    rcases mem_writeFloat finite with point | exponent
    · exact List.ne_nil_of_mem point
    · exact List.ne_nil_of_mem exponent
  | null => simp [write]
  | bool b => cases b <;> simp [write]
  | _ => simp [form] at atom

/-! ## Documents -/

/-- The first character of a document tells its form. -/
theorem exists_write_eq_cons {j : Json} (finite : j.Finite) :
    ∃ c cs, write j = c :: cs ∧ formOf c = some j.form := by
  by_cases atom : j.form = .atom
  · obtain ⟨c, cs, eq⟩ := List.exists_cons_of_ne_nil (write_ne_nil atom finite)
    have plain : isPlain c := isPlain_write atom finite c (by rw [eq]; exact List.mem_cons_self)
    exact ⟨c, cs, eq, by rw [atom, formOf_of_isPlain plain]⟩
  · cases j with
    | string s => exact ⟨_, _, by rw [write, quote, List.cons_append], rfl⟩
    | array items => exact ⟨_, _, write_array items, rfl⟩
    | object members => exact ⟨_, _, write_object members, rfl⟩
    | _ => exact absurd rfl atom

/-- A text does not go on with an atom. -/
def Closed (r : List Char) : Prop := ∀ c ∈ r.head?, isPlain c = false

theorem closed_nil : Closed [] := nofun

theorem closed_cons {c : Char} (h : isPlain c = false) (r : List Char) : Closed (c :: r) := by
  intro d hd
  rw [List.head?_cons, Option.mem_some_iff] at hd
  rw [← hd, h]

/-- An atom is as long as its characters are plain. -/
theorem takeWhile_append {w r : List Char} (plain : ∀ c ∈ w, isPlain c) (closed : Closed r) :
    (w ++ r).takeWhile isPlain = w := by
  rw [List.takeWhile_append_of_pos plain]
  cases r with
  | nil => rw [List.takeWhile_nil, List.append_nil]
  | cons c r =>
    rw [List.takeWhile_cons_of_neg (by simp [closed c rfl]), List.append_nil]

theorem atom_append_injective {j j' : Json} {r r' : List Char} (atom : j.form = .atom)
    (atom' : j'.form = .atom) (finite : j.Finite) (finite' : j'.Finite) (closed : Closed r)
    (closed' : Closed r') (h : write j ++ r = write j' ++ r') : j = j' ∧ r = r' := by
  -- both texts begin with as many plain characters as their atoms have
  have words := congrArg (List.takeWhile isPlain) h
  rw [takeWhile_append (isPlain_write atom finite) closed,
    takeWhile_append (isPlain_write atom' finite') closed'] at words
  rw [words] at h
  exact ⟨write_atom_injective atom atom' finite finite' words, List.append_cancel_left h⟩

/-- The text behind an item of an array. -/
def itemsTail (items : List Json) (r : List Char) : List Char :=
  match items with
  | [] => ']' :: r
  | items => ',' :: (writeItems items ++ ']' :: r)

/-- The text behind a member of an object. -/
def membersTail (members : List (String × Json)) (r : List Char) : List Char :=
  match members with
  | [] => '\x7d' :: r
  | members => ',' :: (writeMembers members ++ '\x7d' :: r)

theorem writeItems_cons (item : Json) (items : List Json) (r : List Char) :
    writeItems (item :: items) ++ ']' :: r = write item ++ itemsTail items r := by
  cases items with
  | nil => rw [writeItems, itemsTail]
  | cons item' items => simp [writeItems, itemsTail]

theorem writeMembers_cons (key : String) (value : Json) (members : List (String × Json))
    (r : List Char) :
    writeMembers ((key, value) :: members) ++ '\x7d' :: r =
      quote key ++ ':' :: (write value ++ membersTail members r) := by
  cases members with
  | nil => simp [writeMembers, membersTail]
  | cons member members => simp [writeMembers, membersTail]

theorem closed_itemsTail (items : List Json) (r : List Char) : Closed (itemsTail items r) := by
  cases items with
  | nil => exact closed_cons rfl _
  | cons item items => exact closed_cons rfl _

theorem closed_membersTail (members : List (String × Json)) (r : List Char) :
    Closed (membersTail members r) := by
  cases members with
  | nil => exact closed_cons rfl _
  | cons member members => exact closed_cons rfl _

theorem form_eq {j j' : Json} {r r' : List Char} (finite : j.Finite) (finite' : j'.Finite)
    (h : write j ++ r = write j' ++ r') : j.form = j'.form := by
  obtain ⟨c, cs, eq, hc⟩ := exists_write_eq_cons finite
  obtain ⟨c', cs', eq', hc'⟩ := exists_write_eq_cons finite'
  rw [eq, eq'] at h
  obtain ⟨rfl, -⟩ := List.cons.inj h
  exact Option.some.inj (hc.symm.trans hc')

/-- No array begins with its end. -/
theorem writeItems_cons_ne {item : Json} (finite : item.Finite) (items : List Json)
    (r r' : List Char) : writeItems (item :: items) ++ ']' :: r ≠ ']' :: r' := by
  obtain ⟨c, cs, eq, hc⟩ := exists_write_eq_cons finite
  rw [writeItems_cons, eq]
  intro h
  obtain ⟨rfl, -⟩ := List.cons.inj h
  simp [formOf, isPlain] at hc

theorem writeMembers_cons_ne (member : String × Json) (members : List (String × Json))
    (r r' : List Char) : writeMembers (member :: members) ++ '\x7d' :: r ≠ '\x7d' :: r' := by
  obtain ⟨key, value⟩ := member
  rw [writeMembers_cons, quote]
  simp

mutual

/-- A document is determined by a text that it begins, unless an atom goes on in the text. -/
theorem write_append_injective : ∀ (j : Json) {j' : Json} {r r' : List Char}, j.Finite →
    j'.Finite → Closed r → Closed r' → write j ++ r = write j' ++ r' → j = j' ∧ r = r'
  | .array items, j', r, r', finite, finite', closed, closed', h => by
    -- the first character leaves only an array on the other side
    have same := form_eq finite finite' h
    cases j' with
    | array items' =>
      simp only [write, List.cons_append, List.append_assoc, List.nil_append, List.cons.injEq,
        true_and] at h
      obtain ⟨rfl, rfl⟩ := writeItems_append_injective items finite finite' h
      exact ⟨rfl, rfl⟩
    | _ => simp [form] at same
  | .object members, j', r, r', finite, finite', closed, closed', h => by
    have same := form_eq finite finite' h
    cases j' with
    | object members' =>
      simp only [write, List.cons_append, List.append_assoc, List.nil_append, List.cons.injEq,
        true_and] at h
      obtain ⟨rfl, rfl⟩ := writeMembers_append_injective members finite finite' h
      exact ⟨rfl, rfl⟩
    | _ => simp [form] at same
  | .string s, j', r, r', finite, finite', closed, closed', h => by
    have same := form_eq finite finite' h
    cases j' with
    | string t =>
      simp only [write] at h
      obtain ⟨rfl, rfl⟩ := quote_append_injective h
      exact ⟨rfl, rfl⟩
    | _ => simp [form] at same
  | .null, j', r, r', finite, finite', closed, closed', h =>
    atom_append_injective rfl (form_eq finite finite' h).symm finite finite' closed closed' h
  | .bool b, j', r, r', finite, finite', closed, closed', h =>
    atom_append_injective rfl (form_eq finite finite' h).symm finite finite' closed closed' h
  | .int n, j', r, r', finite, finite', closed, closed', h =>
    atom_append_injective rfl (form_eq finite finite' h).symm finite finite' closed closed' h
  | .float x, j', r, r', finite, finite', closed, closed', h =>
    atom_append_injective rfl (form_eq finite finite' h).symm finite finite' closed closed' h

/-- The items of an array are determined by a text that begins with them and their end. -/
theorem writeItems_append_injective : ∀ (items : List Json) {items' : List Json}
    {r r' : List Char}, FiniteItems items → FiniteItems items' →
    writeItems items ++ ']' :: r = writeItems items' ++ ']' :: r' → items = items' ∧ r = r'
  | [], [], r, r', _, _, h => by
    simp only [writeItems, List.nil_append, List.cons.injEq, true_and] at h
    exact ⟨rfl, h⟩
  | [], item' :: items', r, r', _, finite', h =>
    absurd h.symm (writeItems_cons_ne finite'.1 items' r' r)
  | item :: items, [], r, r', finite, _, h => absurd h (writeItems_cons_ne finite.1 items r r')
  | item :: items, item' :: items', r, r', finite, finite', h => by
    rw [writeItems_cons, writeItems_cons] at h
    obtain ⟨rfl, tails⟩ := write_append_injective item finite.1 finite'.1
      (closed_itemsTail items r) (closed_itemsTail items' r') h
    -- behind equal items a comma or a bracket follows on both sides
    cases items with
    | nil =>
      cases items' with
      | nil => exact ⟨rfl, (List.cons.inj tails).2⟩
      | cons _ _ => exact absurd (List.cons.inj tails).1 (by decide)
    | cons item₂ items =>
      cases items' with
      | nil => exact absurd (List.cons.inj tails).1 (by decide)
      | cons item₂' items' =>
        obtain ⟨rest, rfl⟩ := writeItems_append_injective (item₂ :: items) finite.2 finite'.2
          (List.cons.inj tails).2
        exact ⟨by rw [rest], rfl⟩

/-- The members of an object are determined by a text that begins with them and their end. -/
theorem writeMembers_append_injective : ∀ (members : List (String × Json))
    {members' : List (String × Json)} {r r' : List Char}, FiniteMembers members →
    FiniteMembers members' →
    writeMembers members ++ '\x7d' :: r = writeMembers members' ++ '\x7d' :: r' →
    members = members' ∧ r = r'
  | [], [], r, r', _, _, h => by
    simp only [writeMembers, List.nil_append, List.cons.injEq, true_and] at h
    exact ⟨rfl, h⟩
  | [], member' :: members', r, r', _, _, h =>
    absurd h.symm (writeMembers_cons_ne member' members' r' r)
  | member :: members, [], r, r', _, _, h => absurd h (writeMembers_cons_ne member members r r')
  | (key, value) :: members, (key', value') :: members', r, r', finite, finite', h => by
    rw [writeMembers_cons, writeMembers_cons] at h
    -- first the keys, then the values, then what is behind them
    obtain ⟨rfl, values⟩ := quote_append_injective h
    obtain ⟨rfl, tails⟩ := write_append_injective value finite.1 finite'.1
      (closed_membersTail members r) (closed_membersTail members' r') (List.cons.inj values).2
    cases members with
    | nil =>
      cases members' with
      | nil => exact ⟨rfl, (List.cons.inj tails).2⟩
      | cons _ _ => exact absurd (List.cons.inj tails).1 (by decide)
    | cons member members =>
      cases members' with
      | nil => exact absurd (List.cons.inj tails).1 (by decide)
      | cons member' members' =>
        obtain ⟨rest, rfl⟩ := writeMembers_append_injective (member :: members) finite.2
          finite'.2 (List.cons.inj tails).2
        exact ⟨by rw [rest], rfl⟩

end

/-- Documents with the same text are the same. -/
theorem write_injective {j j' : Json} (finite : j.Finite) (finite' : j'.Finite)
    (h : write j = write j') : j = j' :=
  (write_append_injective j finite finite' closed_nil closed_nil (by rw [h])).1

end Stencil.Json
