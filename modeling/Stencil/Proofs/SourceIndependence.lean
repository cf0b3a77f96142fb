import Mathlib.Data.List.Forall2
import Stencil.Proofs.Completeness
import Stencil.Render.Evaluate

/-!
# Expressions in other sources

The same expression may be written in two sources, at different places. If the names in it stand for
the same, it has the same value in both, or in both none for errors of one category: the places only
get into the errors.

- `Failure.kind`: the category of a failure.
- `eq_ok_iff_of_mapError`: results that are the same up to errors.
- `Scope.Agrees`: names stand for the same in two sources.
- `Member.follow_placeless`: a path leads to the same value, wherever it is written.
- `Expr.evaluateAll_eq_ok`: some expressions have their values in order.
- `Expr.kind_evaluate_placeless`: so has an expression without its places the same value.
- `Expr.kind_evaluate_congr`: an expression that is written in two sources.
-/

namespace Stencil

/-- The category of the error of a failure, if there is one. -/
def Failure.kind : Failure → Option ErrorKind
  | .error e => some e.cause.kind
  | .broken => none

theorem Failure.kind_renderAt (fault : RenderFault) (source : String) (span : Span) :
    (Failure.error (.renderAt fault source span)).kind = some .rendering := by
  rw [kind, Error.renderAt, Error.cause_locate]
  rfl

/-! ## Results up to errors -/

section

variable {α β : Type} {source : String} {span : Span}

theorem mapError_bind {ε ε' : Type} (g : ε → ε') (r : Except ε α) (k : α → Except ε β) :
    (r >>= k).mapError g = r.mapError g >>= fun a => (k a).mapError g := by
  cases r with
  | ok a => rfl
  | error f => rfl

theorem mapError_map {ε ε' : Type} (g : ε → ε') (r : Except ε α) (k : α → β) :
    (r.map k).mapError g = (r.mapError g).map k := by
  cases r with
  | ok a => rfl
  | error f => rfl

/-- Results that are the same up to errors are the same if there are any. -/
theorem eq_ok_iff_of_mapError {ε ε' : Type} (g : ε → ε') {r r' : Except ε α}
    (h : r.mapError g = r'.mapError g) (a : α) : r = .ok a ↔ r' = .ok a := by
  cases r with
  | ok b =>
    cases r' with
    | ok b' =>
      obtain rfl := Except.ok.inj h
      rfl
    | error f' => cases h
  | error f =>
    cases r' with
    | ok b' => cases h
    | error f' => exact ⟨nofun, nofun⟩

/-- A fault is one of rendering wherever it is located. -/
theorem kind_located (r : Except (RenderFault × Span) α) :
    (located source r).mapError Failure.kind =
      (r.mapError Prod.fst).mapError fun _ => some .rendering := by
  cases r with
  | ok a => rfl
  | error f => exact congrArg Except.error (Failure.kind_renderAt f.1 source f.2)

/-- The place of an error does not matter to its category. -/
theorem kind_located? (r : Except Error α) :
    (located? source span r).mapError Failure.kind = r.mapError fun e => some e.cause.kind := by
  cases r with
  | ok a => rfl
  | error e =>
    show Except.error (some (e.locate source span).cause.kind) = _
    rw [Error.cause_locate]
    rfl

end

/-! ## Members -/

namespace Member

theorem of?_placeless (m : Member) (v : Value) : m.placeless.of? v = m.of? v := by
  obtain ⟨isOptional, access, span⟩ := m
  cases access with
  | index n place => cases v <;> rfl
  | key name => cases v <;> rfl

/-- A path leads to the same value, wherever it is written. -/
theorem follow_placeless (path : List Member) (v : Value) :
    (follow (path.map placeless) v).mapError Prod.fst = (follow path v).mapError Prod.fst := by
  induction path generalizing v with
  | nil => rfl
  | cons m path ih =>
    rw [List.map_cons, follow, follow, of?_placeless]
    cases m.of? v with
    | error fault => rfl
    | ok found =>
      cases found with
      | some w => exact ih w
      | none => rfl

end Member

/-! ## Expressions -/

namespace Scope

/-- Names stand for the same in a scope for a source and in another one for another source, and the
functions are the same. -/
structure Agrees (s : Scope) (source : String) (s' : Scope) (source' : String) : Prop where
  functions : s.functions = s'.functions
  find : ∀ name, s.find? source name = s'.find? source' name

variable {s s' : Scope} {source source' : String}

theorem Agrees.refl (s : Scope) (source : String) : s.Agrees source s source :=
  ⟨rfl, fun _ => rfl⟩

theorem Agrees.kind_value (h : s.Agrees source s' source') (first : Ident) (place : Span)
    (path : List Member) :
    (s.value source first path).mapError Failure.kind =
      (s'.value source' ⟨first.name, place⟩ (path.map Member.placeless)).mapError
        Failure.kind := by
  rw [value, value, h.find first.name]
  cases s'.find? source' first.name with
  | none => rfl
  | some found =>
    cases found with
    | none =>
      show Except.error _ = Except.error _
      rw [Failure.kind_renderAt, Failure.kind_renderAt]
    | some v =>
      show (located source _).mapError _ = (located source' _).mapError _
      rw [kind_located, kind_located, Member.follow_placeless]

end Scope

namespace Expr

variable {s s' : Scope} {source source' : String}

/-! ### One expression after the other -/

theorem evaluate_list (items : List Expr) (span : Span) :
    (list items span).evaluate s source = (evaluateAll s source items).map .list := by
  rw [evaluate]
  cases evaluateAll s source items with
  | ok vs => rfl
  | error f => rfl

theorem evaluate_map (entries : List (String × Expr)) (span : Span) :
    (map entries span).evaluate s source = (evaluateEntries s source entries).map .ofEntries := by
  rw [evaluate]
  cases evaluateEntries s source entries with
  | ok es => rfl
  | error f => rfl

/-- What a function makes of a value that is piped into it with some arguments. -/
def applied (s : Scope) (source : String) (name : Ident) (args : List Expr) (v : Value) :
    Except Failure Value :=
  match Dict.get? name.name s.functions with
  | some (.filter f) => evaluateAll s source args >>= fun vs => located? source name.span (f v vs)
  | some (.formatter _) => .error (.error (.renderAt .formatterAsFilter source name.span))
  | none => .error (.error (.renderAt .unknownFilter source name.span))

theorem evaluate_filter (receiver : Expr) (name : Ident) (args : List Expr) (span : Span) :
    (filter receiver name args span).evaluate s source =
      receiver.evaluate s source >>= applied s source name args := by
  rw [evaluate]
  cases receiver.evaluate s source with
  | error f => rfl
  | ok v =>
    show _ = applied s source name args v
    unfold applied
    dsimp only
    cases Dict.get? name.name s.functions with
    | none => rfl
    | some function =>
      cases function with
      | formatter f => rfl
      | filter f =>
        dsimp only
        cases evaluateAll s source args with
        | ok vs => rfl
        | error f => rfl

theorem evaluateAll_cons (x : Expr) (xs : List Expr) :
    evaluateAll s source (x :: xs) =
      x.evaluate s source >>= fun v => (evaluateAll s source xs).map (v :: ·) := by
  rw [evaluateAll]
  cases x.evaluate s source with
  | error f => rfl
  | ok v =>
    cases evaluateAll s source xs with
    | ok vs => rfl
    | error f => rfl

theorem evaluateEntries_cons (key : String) (x : Expr) (es : List (String × Expr)) :
    evaluateEntries s source ((key, x) :: es) =
      x.evaluate s source >>= fun v => (evaluateEntries s source es).map ((key, v) :: ·) := by
  rw [evaluateEntries]
  cases x.evaluate s source with
  | error f => rfl
  | ok v =>
    cases evaluateEntries s source es with
    | ok vs => rfl
    | error f => rfl

/-- The values of expressions are theirs in order. -/
theorem evaluateAll_eq_ok {xs : List Expr} {vs : List Value} :
    evaluateAll s source xs = .ok vs ↔
      List.Forall₂ (fun x v => x.evaluate s source = .ok v) xs vs := by
  induction xs generalizing vs with
  | nil =>
    rw [evaluateAll, List.forall₂_nil_left_iff]
    exact ⟨fun h => (Except.ok.inj h).symm, fun h => by rw [h]⟩
  | cons x xs ih =>
    rw [evaluateAll]
    constructor
    · intro h
      split at h
      · cases h
      · next v first =>
        split at h
        · cases h
        · next vs' others =>
          cases h
          exact .cons first (ih.1 others)
    · rintro (_ | ⟨first, others⟩)
      rw [first, ih.2 others]

/-! ### Without places -/

/-- A function does the same wherever it is named. -/
theorem kind_applied (h : s.Agrees source s' source') (name : Ident) (place : Span)
    {args args' : List Expr}
    (same : (evaluateAll s source args).mapError Failure.kind =
      (evaluateAll s' source' args').mapError Failure.kind) (v : Value) :
    (applied s source name args v).mapError Failure.kind =
      (applied s' source' ⟨name.name, place⟩ args' v).mapError Failure.kind := by
  unfold applied
  rw [h.functions]
  dsimp only
  cases Dict.get? name.name s'.functions with
  | none =>
    show Except.error _ = Except.error _
    rw [Failure.kind_renderAt, Failure.kind_renderAt]
  | some function =>
    cases function with
    | formatter f =>
      show Except.error _ = Except.error _
      rw [Failure.kind_renderAt, Failure.kind_renderAt]
    | filter f =>
      dsimp only
      rw [mapError_bind, mapError_bind, same]
      simp only [kind_located?]

mutual

/-- An expression has the same value without its places, or errors of the same category. -/
theorem kind_evaluate_placeless (h : s.Agrees source s' source') : ∀ x : Expr,
    (x.evaluate s source).mapError Failure.kind =
      (x.placeless.evaluate s' source').mapError Failure.kind
  | .variable first path => by
    rw [placeless, evaluate, evaluate]
    exact h.kind_value first _ path
  | .literal v _ => rfl
  | .list items _ => by
    rw [placeless, evaluate_list, evaluate_list, mapError_map, mapError_map,
      kind_evaluateAll_placeless h items]
  | .map entries _ => by
    rw [placeless, evaluate_map, evaluate_map, mapError_map, mapError_map,
      kind_evaluateEntries_placeless h entries]
  | .filter receiver name args _ => by
    rw [placeless, evaluate_filter, evaluate_filter, mapError_bind, mapError_bind,
      kind_evaluate_placeless h receiver]
    simp only [kind_applied h name (Span.point 0) (kind_evaluateAll_placeless h args)]

theorem kind_evaluateAll_placeless (h : s.Agrees source s' source') : ∀ xs : List Expr,
    (evaluateAll s source xs).mapError Failure.kind =
      (evaluateAll s' source' (placelessAll xs)).mapError Failure.kind
  | [] => rfl
  | x :: xs => by
    rw [placelessAll, evaluateAll_cons, evaluateAll_cons, mapError_bind, mapError_bind,
      kind_evaluate_placeless h x]
    simp only [mapError_map, kind_evaluateAll_placeless h xs]

theorem kind_evaluateEntries_placeless (h : s.Agrees source s' source') :
    ∀ es : List (String × Expr),
      (evaluateEntries s source es).mapError Failure.kind =
        (evaluateEntries s' source' (placelessEntries es)).mapError Failure.kind
  | [] => rfl
  | (key, x) :: es => by
    rw [placelessEntries, evaluateEntries_cons, evaluateEntries_cons, mapError_bind, mapError_bind,
      kind_evaluate_placeless h x]
    simp only [mapError_map, kind_evaluateEntries_placeless h es]

end

/-- An expression that is written in two sources in which names stand for the same has the same
value in both, or errors of the same category. -/
theorem kind_evaluate_congr (h : s.Agrees source s' source') {x x' : Expr}
    (same : x.placeless = x'.placeless) :
    (x.evaluate s source).mapError Failure.kind =
      (x'.evaluate s' source').mapError Failure.kind := by
  calc (x.evaluate s source).mapError Failure.kind
      = (x.placeless.evaluate s' source').mapError Failure.kind := kind_evaluate_placeless h x
    _ = (x'.placeless.evaluate s' source').mapError Failure.kind := by rw [same]
    _ = (x'.evaluate s' source').mapError Failure.kind :=
      (kind_evaluate_placeless (.refl s' source') x').symm

end Expr

end Stencil
