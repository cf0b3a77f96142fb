import Stencil.Engine.Standard
import Stencil.Proofs.KeyText
import Stencil.Render

/-!
# Values by way of documents

Data that a template is rendered with may be a value, or anything that has a document, which is
converted to a value. The document of a value tells whole numbers from doubles, whatever they are,
and has the entries of maps in their order. So a value that is converted is what it was, but for the
doubles that have no digits, and it is rendered like the value itself if it has none of these.

- `Value.Ordered`: the maps in a value are dictionaries, as all are that are built by insertion.
- `Value.ordered_ofJson`: the maps in a value that has been converted are dictionaries.
- `Value.viaDocument_eq_normal`: what a value becomes by way of its document.
- `Engine.render_withDocument`: a template is rendered alike with a value and with its document.
-/

namespace Stencil

namespace Value

/-! ## The order of entries -/

mutual

/-- In every map in the value the keys increase. -/
def Ordered : Value → Prop
  | .list items => OrderedItems items
  | .map entries => Dict.Sorted entries ∧ OrderedEntries entries
  | _ => True

/-- `Ordered` on the items of a list. -/
def OrderedItems : List Value → Prop
  | [] => True
  | v :: vs => Ordered v ∧ OrderedItems vs

/-- `Ordered` on the entries of a map. -/
def OrderedEntries : List (String × Value) → Prop
  | [] => True
  | (_, v) :: rest => Ordered v ∧ OrderedEntries rest

end

theorem orderedEntries_iff {entries : List (String × Value)} :
    OrderedEntries entries ↔ ∀ e ∈ entries, e.2.Ordered := by
  induction entries with
  | nil =>
    constructor
    · rintro - e ⟨⟩
    · intro _
      trivial
  | cons e entries ih =>
    obtain ⟨k, v⟩ := e
    rw [OrderedEntries, ih, List.forall_mem_cons]

/-- The map of some entries is ordered if they are. -/
theorem ordered_ofEntries {entries : List (String × Value)} (h : OrderedEntries entries) :
    (ofEntries entries).Ordered := by
  have sorted := Dict.sorted_ofList entries
  refine ⟨sorted, orderedEntries_iff.2 ?_⟩
  rintro ⟨key, v⟩ mem
  have found := Dict.get?_of_mem (Dict.nodup_keys sorted) mem
  exact Dict.forall_of_ofList (P := Ordered) (orderedEntries_iff.1 h) key v found

mutual

/-- The value of a document is ordered, however the members of its objects stand. -/
theorem ordered_ofJson : ∀ j : Json, (ofJson j).Ordered
  | .null => trivial
  | .bool _ => trivial
  | .int n => by
    rw [ofJson]
    split
    · trivial
    · trivial
  | .float _ => trivial
  | .string _ => trivial
  | .array items => orderedItems_itemsOfJson items
  | .object members => ordered_ofEntries (orderedEntries_entriesOfJson members)

theorem orderedItems_itemsOfJson : ∀ items : List Json, OrderedItems (itemsOfJson items)
  | [] => trivial
  | j :: js => ⟨ordered_ofJson j, orderedItems_itemsOfJson js⟩

theorem orderedEntries_entriesOfJson :
    ∀ members : List (String × Json), OrderedEntries (entriesOfJson members)
  | [] => trivial
  | (_, j) :: rest => ⟨ordered_ofJson j, orderedEntries_entriesOfJson rest⟩

end

/-! ## There and back -/

theorem keys_normalEntries (entries : Dict Value) :
    Dict.keys (normalEntries entries) = Dict.keys entries := by
  induction entries with
  | nil => rfl
  | cons e entries ih => exact congrArg (e.1 :: ·) ih

/-- The keys increase still when the values have changed. -/
theorem sorted_normalEntries {entries : Dict Value} (h : Dict.Sorted entries) :
    Dict.Sorted (normalEntries entries) := by
  have keys : (Dict.keys entries).Pairwise (· < ·) := List.pairwise_map.2 h
  rw [← keys_normalEntries] at keys
  exact List.pairwise_map.1 keys

/-- A whole number of 64 bits is one still when it comes from a document. -/
theorem fitsSigned_toInt (n : Int64) : Word.fitsSigned n.toInt := by
  have low := n.le_toInt
  have high := n.toInt_lt
  have bound : Word.signedBound = 2 ^ 63 := Word.bound_eq.2
  rw [Word.fitsSigned, bound, Bool.and_eq_true, decide_eq_true_iff, decide_eq_true_iff,
    Int.ofNat_eq_natCast]
  omega

mutual

/-- A value is what it was by way of its document, but for the doubles that have no digits. -/
theorem viaDocument_eq_normal : ∀ {v : Value}, v.Ordered → v.viaDocument = v.normal
  | .none, _ => rfl
  | .bool _, _ => rfl
  | .int n, _ => by
    show ofJson (.int n.toInt) = .int n
    rw [ofJson, if_pos (fitsSigned_toInt n), Int64.ofInt_toInt]
  | .float x, _ => by
    rw [viaDocument, toJson, normal]
    split
    · rfl
    · rfl
  | .text _, _ => rfl
  | .list items, h => by
    show Value.list (itemsOfJson (itemsToJson items)) = _
    rw [itemsOfJson_eq_normalItems h, normal]
  | .map entries, h => by
    show ofEntries (entriesOfJson (entriesToJson entries)) = _
    -- the entries come back in their order, so that putting them in again changes nothing
    rw [entriesOfJson_eq_normalEntries h.2, ofEntries,
      Dict.ofList_of_sorted (sorted_normalEntries h.1), normal]

theorem itemsOfJson_eq_normalItems : ∀ {items : List Value}, OrderedItems items →
    itemsOfJson (itemsToJson items) = normalItems items
  | [], _ => rfl
  | v :: vs, h => by
    have first : ofJson (toJson v) = normal v := viaDocument_eq_normal h.1
    rw [itemsToJson, itemsOfJson, first, itemsOfJson_eq_normalItems h.2, normalItems]

theorem entriesOfJson_eq_normalEntries : ∀ {entries : List (String × Value)},
    OrderedEntries entries → entriesOfJson (entriesToJson entries) = normalEntries entries
  | [], _ => rfl
  | (k, v) :: rest, h => by
    have first : ofJson (toJson v) = normal v := viaDocument_eq_normal h.1
    rw [entriesToJson, entriesOfJson, first, entriesOfJson_eq_normalEntries h.2,
      normalEntries]

end

end Value

/-! ## Renders -/

/-- A value is what it was when it has been converted by way of its document, but for the doubles
that are infinite or undefined, which are none then. So a template is rendered alike with a value
and with its document, if the value has no such doubles. -/
theorem Engine.render_withDocument {v : Value} (ordered : v.Ordered) :
    v.viaDocument = v.normal ∧
      (v.Finite → ∀ (e : Engine) (t : Template) (job : Job),
        e.render t (job.withDocument (.ok v.toJson)) = e.render t (job.withValue v)) := by
  have converted := Value.viaDocument_eq_normal ordered
  refine ⟨converted, ?_⟩
  intro finite e t job
  have same : Value.ofJson v.toJson = v := converted.trans (Value.normal_of_finite finite)
  show e.render t { job with data := .ok (Value.ofJson v.toJson) } = _
  rw [same]
  rfl

/-- The lowest whole number and a whole double, in a map and in a list. -/
def Value.innumerable : Value :=
  .map [("low", .map [("n", .int (-9223372036854775808))]), ("xs", .list [.float 2.0])]

/-- A template that writes the number. -/
def Template.ofLowest : Template :=
  ⟨none, "", [.output (.variable ⟨"low", ⟨0, 0⟩⟩ [⟨false, .key ⟨"n", ⟨0, 0⟩⟩, ⟨0, 0⟩⟩]) ⟨0, 0⟩]⟩

/-- The lowest whole number is written as it is when it comes from a document. -/
theorem Engine.render_withDocument_lowest :
    Value.innumerable.Ordered ∧ Value.innumerable.Finite ∧
      Value.innumerable.viaDocument = Value.innumerable ∧
      ((Engine.new .standard).render .ofLowest
        ((Job.ofData .none).withDocument (.ok Value.innumerable.toJson))).body =
          "-9223372036854775808" := by
  have ordered : Value.innumerable.Ordered := by
    refine ⟨?_, ⟨?_, trivial, trivial⟩, ⟨trivial, trivial⟩, trivial⟩
    · show List.Pairwise _ _
      decide
    · exact List.pairwise_singleton _ _
  have finite : Value.innumerable.Finite := ⟨⟨trivial, trivial⟩, ⟨rfl, trivial⟩, trivial⟩
  obtain ⟨converted, alike⟩ := Engine.render_withDocument ordered
  refine ⟨ordered, finite, converted.trans (Value.normal_of_finite finite), ?_⟩
  rw [alike finite]
  rfl

end Stencil
