import Stencil.Proofs.ErrorPlaces
import Stencil.Proofs.TokenSpans

/-!
# The places of a template lie in its source

The spans in a template are those of tokens, and the smallest ones that hold several of these. So
they are regions of the source from which the template has been compiled.

- `Parse.Within`: what is read has spans in the source if the tokens have.
- `Parse.Reading`: this holds of the readers of expressions, by induction on their depth.
- `Builder.Placed`: what has been read of a template has its places in the source.
- `Template.IsCompiled.places_fit`: the places of a template lie in its source.
-/

namespace Stencil

/-- All of some regions lie in a source. -/
def Span.AllFit (source : String) (ps : List Span) : Prop := ∀ p ∈ ps, p.Fits source

namespace Span.AllFit

variable {source : String} {p : Span} {ps qs : List Span}

theorem nil : AllFit source [] := nofun

theorem cons (hp : p.Fits source) (hps : AllFit source ps) : AllFit source (p :: ps) :=
  List.forall_mem_cons.2 ⟨hp, hps⟩

theorem append (hps : AllFit source ps) (hqs : AllFit source qs) : AllFit source (ps ++ qs) :=
  List.forall_mem_append.2 ⟨hps, hqs⟩

end Span.AllFit

/-- An expression and its parts have their places in a source. -/
structure Expr.Fits (source : String) (x : Expr) : Prop where
  span : x.span.Fits source
  places : Span.AllFit source x.places

/-- A member access has its places in a source. -/
structure Member.Fits (source : String) (m : Member) : Prop where
  span : m.span.Fits source
  access : m.access.span.Fits source

namespace Expr

variable {source : String}

theorem allFit_placesAll {xs : List Expr} (h : ∀ x ∈ xs, x.Fits source) :
    Span.AllFit source (placesAll xs) := by
  induction xs with
  | nil => exact .nil
  | cons x xs ih =>
    obtain ⟨first, others⟩ := List.forall_mem_cons.1 h
    exact first.places.append (ih others)

theorem allFit_placesEntries {es : List (String × Expr)} (h : ∀ e ∈ es, e.2.Fits source) :
    Span.AllFit source (placesEntries es) := by
  induction es with
  | nil => exact .nil
  | cons e es ih =>
    obtain ⟨first, others⟩ := List.forall_mem_cons.1 h
    exact first.places.append (ih others)

theorem fits_variable {first : Ident} {path : List Member} (hfirst : first.span.Fits source)
    (hpath : ∀ m ∈ path, m.Fits source) : (Expr.variable first path).Fits source := by
  refine ⟨?_, .cons hfirst (List.forall_mem_map.2 fun m hm => (hpath m hm).access)⟩
  rw [span]
  split
  · exact hfirst
  · next m last => exact hfirst.join (hpath m (List.mem_of_getLast? last)).span

end Expr

/-! ## Tokens -/

namespace Parse

open Lexer (Fit)

variable {α β : Type} {source : String} {good : α → Prop} {s : Surroundings} {ts : List Token}

/-- What is read is good, and the tokens behind it have spans in a source. -/
def Within (source : String) (good : α → Prop) (r : Except Failure (Taken α)) : Prop :=
  ∀ a rest, r = .ok (a, rest) → good a ∧ Fit source rest

namespace Within

theorem ok {a : α} (ha : good a) (fit : Fit source ts) : Within source good (.ok (a, ts)) := by
  rintro _ _ ⟨⟩
  exact ⟨ha, fit⟩

theorem error (f : Failure) : Within source good (.error f : Except Failure (Taken α)) := by
  rintro _ _ ⟨⟩

/-- One reading after another. -/
theorem bind {good' : β → Prop} {x : Except Failure (Taken α)}
    {f : Taken α → Except Failure (Taken β)} (hx : Within source good x)
    (hf : ∀ a ts', good a → Fit source ts' → Within source good' (f (a, ts'))) :
    Within source good' (x >>= f) := by
  intro b rest h
  obtain ⟨⟨a, ts'⟩, first, second⟩ := bind_eq_ok h
  obtain ⟨ha, fit⟩ := hx a ts' first
  exact hf a ts' ha fit b rest second

/-- Reading after something that takes no token. -/
theorem after {γ : Type} {x : Except Failure γ} {f : γ → Except Failure (Taken α)}
    (hf : ∀ c, x = .ok c → Within source good (f c)) : Within source good (x >>= f) := by
  intro b rest h
  obtain ⟨c, first, second⟩ := bind_eq_ok h
  exact hf c first b rest second

end Within

theorem within_any (fit : Fit source ts) :
    Within source (fun t => t.kind ≠ .raw → t.span.Fits source) (any s ts) := by
  intro t rest h
  obtain rfl := any_eq_ok h
  exact List.forall_mem_cons.1 fit

theorem within_expect {kind : TokenKind} (fit : Fit source ts) (token : kind ≠ .raw) :
    Within source (fun t => t.span.Fits source) (expect s kind ts) := by
  intro t rest h
  obtain ⟨rfl, rfl⟩ := expect_eq_ok h
  obtain ⟨first, others⟩ := List.forall_mem_cons.1 fit
  exact ⟨first token, others⟩

theorem within_ident (fit : Fit source ts) :
    Within source (fun name : Ident => name.span.Fits source) (ident s ts) :=
  .bind (within_expect fit nofun) fun _ _ ht fit => .ok ht fit

theorem within_keyword (fit : Fit source ts) : Within source (fun _ => True) (keyword s ts) := by
  refine .bind (within_expect fit nofun) fun t ts' _ fit => ?_
  dsimp only
  split
  · exact .ok trivial fit
  · exact .error _

theorem within_expectKeyword (k : Keyword) (fit : Fit source ts) :
    Within source (fun _ => True) (expectKeyword s k ts) := by
  refine .bind (within_keyword fit) fun k' ts' _ fit => ?_
  dsimp only
  split
  · exact .ok trivial fit
  · exact .error _

/-! ## Expressions -/

theorem within_access (fit : Fit source ts) :
    Within source (fun a : Access => a.span.Fits source) (access s ts) := by
  refine .bind (within_any fit) fun t ts' ht fit => ?_
  dsimp only
  split
  · next kind =>
    split
    · exact .ok (ht (kind ▸ nofun)) fit
    · exact .error _
  · next kind => exact .ok (ht (kind ▸ nofun)) fit
  · next kind => exact .ok (ht (kind ▸ nofun)) fit
  · exact .error _

theorem within_path {n : Nat} (fit : Fit source ts) :
    Within source (fun ms : List Member => ∀ m ∈ ms, m.Fits source) (path s n ts) := by
  induction n generalizing ts with
  | zero => exact .error _
  | succ n ih =>
    unfold path
    refine .after fun next first => ?_
    cases next with
    | none => exact .ok (List.forall_mem_nil _) fit
    | some taken =>
      obtain ⟨op, ts'⟩ := taken
      obtain rfl := next?_eq_some first
      obtain ⟨opFits, fit'⟩ := List.forall_mem_cons.1 fit
      dsimp only
      split
      · next dot =>
        have token : op.kind ≠ .raw := by
          rcases dot with kind | kind <;> simp [kind]
        have hop := opFits token
        exact .bind (within_access fit') fun a _ ha fit => .bind (ih fit) fun ms _ hms fit =>
          .ok (List.forall_mem_cons.2 ⟨⟨hop.join ha, ha⟩, hms⟩) fit
      · exact .ok (List.forall_mem_nil _) fit

theorem within_signed {sign : Token} {negative : Bool} (hsign : sign.span.Fits source)
    (fit : Fit source ts) : Within source (Expr.Fits source) (signed s sign negative ts) :=
  .bind (within_expect fit nofun) fun _ _ ht fit => .after fun _ _ =>
    .ok ⟨hsign.join ht, .nil⟩ fit

theorem within_mapKey (fit : Fit source ts) : Within source (fun _ => True) (mapKey s ts) := by
  refine .bind (within_any fit) fun t ts' _ fit => ?_
  dsimp only
  split
  · exact .ok trivial fit
  · exact .ok trivial fit
  · exact .after fun _ _ => .ok trivial fit
  · exact .error _

/-- The arguments of a filter end where the last of them does. -/
theorem fits_of_argsSpan {colon place : Span} {xs : List Expr} (hcolon : colon.Fits source)
    (hxs : ∀ x ∈ xs, x.Fits source) (h : argsSpan colon xs = .ok place) : place.Fits source := by
  unfold argsSpan at h
  split at h
  · cases h
  · next x last =>
    cases h
    exact hcolon.join (hxs x (List.mem_of_getLast? last)).span

/-- What the readers of expressions read has its places in a source, at some depth. -/
structure Reading (source : String) (s : Surroundings) (n : Nat) : Prop where
  term : ∀ {ts}, Fit source ts → Within source (Expr.Fits source) (term s n ts)
  expr : ∀ {ts}, Fit source ts → Within source (Expr.Fits source) (expr s n ts)
  filters : ∀ {ts x}, Fit source ts → x.Fits source →
    Within source (Expr.Fits source) (filters s n x ts)
  args : ∀ {ts}, Fit source ts → Within source (fun xs => ∀ x ∈ xs, x.Fits source) (args s n ts)
  items : ∀ {ts}, Fit source ts → Within source (fun xs => ∀ x ∈ xs, x.Fits source) (items s n ts)
  entries : ∀ {ts}, Fit source ts →
    Within source (fun es => ∀ e ∈ es, e.2.Fits source) (entries s n ts)

namespace Reading

variable {n : Nat}

theorem zero : Reading source s 0 :=
  ⟨fun _ => .error _, fun _ => .error _, fun _ _ => .error _, fun _ => .error _,
    fun _ => .error _, fun _ => .error _⟩

theorem term_succ (h : Reading source s n) (fit : Fit source ts) :
    Within source (Expr.Fits source) (Parse.term s (n + 1) ts) := by
  unfold Parse.term
  refine .bind (within_any fit) fun t ts' ht fit => ?_
  dsimp only
  split
  · next kind => exact .after fun _ _ => .ok ⟨ht (kind ▸ nofun), .nil⟩ fit
  · next kind => exact within_signed (ht (kind ▸ nofun)) fit
  · next kind => exact within_signed (ht (kind ▸ nofun)) fit
  · next kind => exact .after fun _ _ => .ok ⟨ht (kind ▸ nofun), .nil⟩ fit
  · next kind => exact .after fun _ _ => .ok ⟨ht (kind ▸ nofun), .nil⟩ fit
  · next kind =>
    refine .bind (h.items fit) fun xs _ hxs fit => .bind (within_expect fit nofun) fun _ _ hc fit =>
      .ok ⟨(ht (kind ▸ nofun)).join hc, Expr.allFit_placesAll hxs⟩ fit
  · next kind =>
    refine .bind (h.entries fit) fun es _ hes fit => .bind (within_expect fit nofun)
      fun _ _ hc fit => .ok ⟨(ht (kind ▸ nofun)).join hc, Expr.allFit_placesEntries hes⟩ fit
  · next kind =>
    exact .bind (within_path fit) fun ms _ hms fit =>
      .ok (Expr.fits_variable (ht (kind ▸ nofun)) hms) fit
  · exact .error _

theorem filters_succ (h : Reading source s n) {x : Expr} (fit : Fit source ts)
    (hx : x.Fits source) : Within source (Expr.Fits source) (Parse.filters s (n + 1) x ts) := by
  unfold Parse.filters
  refine .after fun isPipe _ => ?_
  split
  · refine .bind (within_expect fit (by simp)) fun _ _ _ fit => .bind (within_ident fit)
      fun name _ hname fit => .after fun isColon _ => ?_
    dsimp only
    split
    · refine .bind (within_expect fit (by simp)) fun colon _ hcolon fit => .bind (h.args fit)
        fun xs _ hxs fit => .after fun place spans => h.filters fit ⟨?_, ?_⟩
      · exact hx.span.join (fits_of_argsSpan hcolon hxs spans)
      · exact .cons hname (hx.places.append (Expr.allFit_placesAll hxs))
    · exact h.filters fit ⟨hx.span.join hname, .cons hname (hx.places.append .nil)⟩
  · exact .ok hx fit

theorem args_succ (h : Reading source s n) (fit : Fit source ts) :
    Within source (fun xs => ∀ x ∈ xs, x.Fits source) (Parse.args s (n + 1) ts) := by
  unfold Parse.args
  refine .bind (h.term fit) fun x _ hx fit => .after fun isComma _ => ?_
  dsimp only
  split
  · exact .bind (within_expect fit nofun) fun _ _ _ fit => .bind (h.args fit) fun xs _ hxs fit =>
      .ok (List.forall_mem_cons.2 ⟨hx, hxs⟩) fit
  · exact .ok (List.forall_mem_singleton.2 hx) fit

theorem items_succ (h : Reading source s n) (fit : Fit source ts) :
    Within source (fun xs => ∀ x ∈ xs, x.Fits source) (Parse.items s (n + 1) ts) := by
  unfold Parse.items
  refine .after fun closes _ => ?_
  split
  · exact .ok nofun fit
  · refine .bind (h.expr fit) fun x _ hx fit => .after fun isComma _ => ?_
    dsimp only
    split
    · exact .bind (within_expect fit nofun) fun _ _ _ fit => .bind (h.items fit)
        fun xs _ hxs fit => .ok (List.forall_mem_cons.2 ⟨hx, hxs⟩) fit
    · exact .ok (List.forall_mem_singleton.2 hx) fit

theorem entries_succ (h : Reading source s n) (fit : Fit source ts) :
    Within source (fun es => ∀ e ∈ es, e.2.Fits source) (Parse.entries s (n + 1) ts) := by
  unfold Parse.entries
  refine .after fun closes _ => ?_
  split
  · exact .ok nofun fit
  · refine .bind (within_mapKey fit) fun key _ _ fit => .bind (within_expect fit nofun)
      fun _ _ _ fit => .bind (h.expr fit) fun x _ hx fit => .after fun isComma _ => ?_
    dsimp only
    split
    · exact .bind (within_expect fit nofun) fun _ _ _ fit => .bind (h.entries fit)
        fun es _ hes fit => .ok (List.forall_mem_cons.2 ⟨hx, hes⟩) fit
    · exact .ok (List.forall_mem_singleton.2 hx) fit

theorem succ (h : Reading source s n) : Reading source s (n + 1) where
  term := h.term_succ
  expr fit := .bind (h.term fit) fun _ _ hx fit => h.filters fit hx
  filters := h.filters_succ
  args := h.args_succ
  items := h.items_succ
  entries := h.entries_succ

end Reading

theorem reading (source : String) (s : Surroundings) : ∀ n, Reading source s n
  | 0 => .zero
  | n + 1 => (reading source s n).succ

theorem within_expression (fit : Fit source ts) :
    Within source (Expr.Fits source) (expression s ts) := (reading source s _).expr fit

/-! ## Arguments -/

theorem fits_of_callArgsFrom {n : Nat} {xs : List Expr} (fit : Fit source ts)
    (h : callArgsFrom s n ts = .ok xs) : ∀ x ∈ xs, x.Fits source := by
  induction n generalizing ts xs with
  | zero => cases h
  | succ n ih =>
    obtain ⟨⟨x, ts₁⟩, read, h₁⟩ := bind_eq_ok h
    obtain ⟨hx, fit₁⟩ := within_expression fit x ts₁ read
    obtain ⟨next, first, h₂⟩ := bind_eq_ok h₁
    cases next with
    | none =>
      cases h₂
      exact List.forall_mem_singleton.2 hx
    | some taken =>
      obtain ⟨-, fit₂⟩ := List.forall_mem_cons.1 (next?_eq_some first ▸ fit₁)
      dsimp only at h₂
      split at h₂
      · obtain ⟨ys, others, h₃⟩ := bind_eq_ok h₂
        cases h₃
        exact List.forall_mem_cons.2 ⟨hx, ih fit₂ others⟩
      · cases h₂

theorem fits_of_callArgs {xs : List Expr} (fit : Fit source ts) (h : callArgs s ts = .ok xs) :
    ∀ x ∈ xs, x.Fits source := by
  obtain ⟨next, first, h⟩ := bind_eq_ok h
  cases next with
  | none =>
    cases h
    exact nofun
  | some taken => exact fits_of_callArgsFrom fit h

theorem fits_of_assignArgsFrom {n : Nat} {bs : List (Ident × Expr)} (fit : Fit source ts)
    (h : assignArgsFrom s n ts = .ok bs) : ∀ b ∈ bs, b.2.Fits source := by
  induction n generalizing ts bs with
  | zero => cases h
  | succ n ih =>
    obtain ⟨⟨name, ts₁⟩, named, h₁⟩ := bind_eq_ok h
    obtain ⟨-, fit₁⟩ := within_ident fit name ts₁ named
    obtain ⟨⟨sign, ts₂⟩, equals, h₂⟩ := bind_eq_ok h₁
    obtain ⟨-, fit₂⟩ := within_expect fit₁ (by nofun) sign ts₂ equals
    obtain ⟨⟨x, ts₃⟩, read, h₃⟩ := bind_eq_ok h₂
    obtain ⟨hx, fit₃⟩ := within_expression fit₂ x ts₃ read
    obtain ⟨next, first, h₄⟩ := bind_eq_ok h₃
    cases next with
    | none =>
      cases h₄
      exact List.forall_mem_singleton.2 hx
    | some taken =>
      obtain ⟨-, fit₄⟩ := List.forall_mem_cons.1 (next?_eq_some first ▸ fit₃)
      dsimp only at h₄
      split at h₄
      · obtain ⟨others, read', h₅⟩ := bind_eq_ok h₄
        cases h₅
        exact List.forall_mem_cons.2 ⟨hx, ih fit₄ read'⟩
      · cases h₄

variable {r : Reader} {b b' : Builder} {name : Ident} {raw span : Span} {o : Occurrence}

/-- The arguments of a directive are read in their region of the source. -/
theorem allFit_of_directiveArgs {mode : Mode} {args : DirectiveArgs}
    (h : directiveArgs r name mode o = .ok args) : Span.AllFit r.source args.places := by
  unfold directiveArgs at h
  split at h
  · split at h
    · cases h
      exact .nil
    · cases h
  · split at h
    · cases h
    · next l region =>
      obtain ⟨xs, read, rfl⟩ := map_eq_ok h
      exact Expr.allFit_placesAll (fits_of_callArgs (fits_of_lexRegion region) read)
  · split at h
    · cases h
    · next l region =>
      obtain ⟨bs, read, rfl⟩ := map_eq_ok h
      refine Expr.allFit_placesAll (List.forall_mem_map.2 ?_)
      exact fits_of_assignArgsFrom (fits_of_lexRegion region) read

theorem allFit_of_invocation {mode : Mode} {i : Invocation} (hspan : span.Fits r.source)
    (h : invocation r name mode o span = .ok i) : Span.AllFit r.source i.places := by
  obtain ⟨args, read, h⟩ := bind_eq_ok h
  cases h
  exact .cons hspan (allFit_of_directiveArgs read)

theorem allFit_of_directive {compile : Compile} {d : Directive} (hspan : span.Fits r.source)
    (h : directive r compile name o span = .ok d) : Span.AllFit r.source d.places := by
  unfold directive at h
  split at h
  · cases h
  · obtain ⟨i, invoked, h⟩ := bind_eq_ok h
    cases h
    exact allFit_of_invocation hspan invoked

end Parse

/-! ## Builders -/

namespace Stmt

theorem mem_placesAll {p : Span} {ss : List Stmt} : p ∈ placesAll ss ↔ ∃ s ∈ ss, p ∈ s.places := by
  induction ss with
  | nil => simp [placesAll]
  | cons s ss ih => simp [placesAll, ih]

theorem allFit_reverse {source : String} {ss : List Stmt} (h : Span.AllFit source (placesAll ss)) :
    Span.AllFit source (placesAll ss.reverse) := by
  intro p hp
  obtain ⟨s, hs, hp⟩ := mem_placesAll.1 hp
  exact h p (mem_placesAll.2 ⟨s, List.mem_reverse.1 hs, hp⟩)

end Stmt

section

variable (source : String)

/-- The places in some statements lie in a source. -/
abbrev Stmt.AllPlaced (ss : List Stmt) : Prop := Span.AllFit source (Stmt.placesAll ss)

/-- The places in an open block lie in a source. -/
def OpenBlock.Placed : OpenBlock → Prop
  | .thenBranch clause _ before => clause.cond.Fits source ∧ Stmt.AllPlaced source before
  | .elseBranch clause _ thenBody before =>
    clause.cond.Fits source ∧ Stmt.AllPlaced source thenBody ∧ Stmt.AllPlaced source before
  | .loop vars iterable _ before =>
    vars.place.Fits source ∧ iterable.Fits source ∧ Stmt.AllPlaced source before
  | .paired start _ before => Span.AllFit source start.places ∧ Stmt.AllPlaced source before
  | .cached start before => Span.AllFit source start.places ∧ Stmt.AllPlaced source before

/-- The places of what has been read lie in a source. -/
structure Builder.Placed (b : Builder) : Prop where
  current : Stmt.AllPlaced source b.current
  blocks : ∀ block ∈ b.blocks, block.Placed source

/-- The places of a block tag lie in a source. -/
def Parse.BlockTag.Placed : Parse.BlockTag → Prop
  | .ifTag _ cond => cond.Fits source
  | .elseIfTag _ cond => cond.Fits source
  | .forTag vars iterable => vars.place.Fits source ∧ iterable.Fits source
  | .includeTag name globals => Span.AllFit source (name.includePlaces globals)
  | _ => True

end

namespace Builder

variable {source : String} {b b' : Builder}

theorem placed_empty : empty.Placed source := ⟨.nil, nofun⟩

theorem Placed.add (h : b.Placed source) {s : Stmt} (hs : Span.AllFit source s.places) :
    (b.add s).Placed source :=
  ⟨hs.append h.current, h.blocks⟩

theorem Placed.push (h : b.Placed source) {block : OpenBlock} (hb : block.Placed source) :
    Builder.Placed source ⟨[], block :: b.blocks⟩ :=
  ⟨.nil, List.forall_mem_cons.2 ⟨hb, h.blocks⟩⟩

theorem Placed.addElse (h : b.Placed source) (eq : b.addElse = some b') : b'.Placed source := by
  unfold Builder.addElse at eq
  split at eq
  · next clause nested before rest blocks =>
    obtain ⟨⟨cond, first⟩, others⟩ := List.forall_mem_cons.1 (blocks ▸ h.blocks)
    cases eq
    exact ⟨.nil, List.forall_mem_cons.2 ⟨⟨cond, Stmt.allFit_reverse h.current, first⟩, others⟩⟩
  · cases eq

theorem Placed.addElseIf (h : b.Placed source) {clause : Clause}
    (eq : b.addElseIf clause = some b') (cond : clause.cond.Fits source) : b'.Placed source := by
  obtain ⟨b₁, added, rfl⟩ := Option.map_eq_some_iff.1 eq
  exact (h.addElse added).push ⟨cond, .nil⟩

theorem placed_of_closeClauses {current : List Stmt} {blocks : List OpenBlock}
    (eq : closeClauses current blocks = some b) (hc : Stmt.AllPlaced source current)
    (hb : ∀ block ∈ blocks, block.Placed source) : b.Placed source := by
  -- on the open blocks; a condition in the second branch of another one is closed with it
  induction blocks generalizing current with
  | nil => cases eq
  | cons block rest ih =>
    obtain ⟨first, others⟩ := List.forall_mem_cons.1 hb
    have last := Stmt.allFit_reverse hc
    cases block with
    | thenBranch clause nested before =>
      rw [closeClauses] at eq
      obtain ⟨cond, before_placed⟩ := first
      have closed : Stmt.AllPlaced source
          (.ifElse clause.negated clause.cond current.reverse none :: before) :=
        .append (.cons cond.span (cond.places.append (last.append .nil))) before_placed
      cases nested with
      | true => exact ih eq closed others
      | false =>
        cases eq
        exact ⟨closed, others⟩
    | elseBranch clause nested thenBody before =>
      rw [closeClauses] at eq
      obtain ⟨cond, then_placed, before_placed⟩ := first
      have closed : Stmt.AllPlaced source
          (.ifElse clause.negated clause.cond thenBody (some current.reverse) :: before) :=
        .append (.cons cond.span (cond.places.append (then_placed.append last))) before_placed
      cases nested with
      | true => exact ih eq closed others
      | false =>
        cases eq
        exact ⟨closed, others⟩
    | loop vars iterable span before => cases eq
    | paired start stop before => cases eq
    | cached start before => cases eq

theorem Placed.closeFor (h : b.Placed source) (eq : b.closeFor = some b') : b'.Placed source := by
  unfold Builder.closeFor at eq
  split at eq
  · next vars iterable span before rest blocks =>
    obtain ⟨⟨place, value, first⟩, others⟩ := List.forall_mem_cons.1 (blocks ▸ h.blocks)
    cases eq
    refine ⟨.append (.cons place (.cons value.span (value.places.append ?_))) first, others⟩
    exact Stmt.allFit_reverse h.current
  · cases eq

end Builder

/-! ## Statements -/

namespace Parse

open Lexer (Fit)

variable {source : String} {s : Surroundings} {r : Reader} {ts : List Token} {b b' : Builder}
  {name : Ident} {raw span : Span}

theorem within_condition (fit : Fit source ts) :
    Within source (fun c => c.2.Fits source) (condition s ts) := by
  refine .after fun negated _ => ?_
  split
  · exact .bind (within_expectKeyword _ fit) fun _ _ _ fit => .bind (within_expression fit)
      fun _ _ hx fit => .ok hx fit
  · exact .bind (within_expression fit) fun _ _ hx fit => .ok hx fit

theorem within_loopVars (fit : Fit source ts) :
    Within source (fun vars : LoopVars => vars.place.Fits source) (loopVars s ts) := by
  refine .bind (within_ident fit) fun key _ hkey fit => .after fun comma _ => ?_
  dsimp only
  split
  · exact .bind (within_expect fit nofun) fun _ _ _ fit => .bind (within_ident fit)
      fun value _ hvalue fit => .ok (hkey.join hvalue) fit
  · exact .ok hkey fit

/-- A block tag has its places in the source. -/
theorem within_blockTag (fit : Fit source ts) :
    Within source (BlockTag.Placed source) (blockTag s ts) := by
  refine .bind (within_keyword fit) fun k ts' _ fit => ?_
  obtain ⟨k, span⟩ := k
  simp only
  split
  · exact .bind (within_condition fit) fun _ _ hx fit => .ok hx fit
  · refine .after fun isIf _ => ?_
    split
    · exact .bind (within_expectKeyword _ fit) fun _ _ _ fit => .bind (within_condition fit)
        fun _ _ hx fit => .ok hx fit
    · exact .ok trivial fit
  · exact .ok trivial fit
  · exact .bind (within_loopVars fit) fun _ _ place fit => .bind (within_expectKeyword _ fit)
      fun _ _ _ fit => .bind (within_expression fit) fun _ _ hx fit => .ok ⟨place, hx⟩ fit
  · exact .ok trivial fit
  · refine .bind (within_expect fit nofun) fun t _ ht fit =>
      .after fun name _ => .after fun isWith _ => ?_
    dsimp only
    split
    · exact .bind (within_expectKeyword _ fit) fun _ _ _ fit => .bind (within_expression fit)
        fun _ _ hx fit => .ok (.cons ht hx.places) fit
    · exact .ok (.cons ht .nil) fit
  · exact .error _

theorem placed_applyTag {tag : BlockTag} (hb : b.Placed source) (ht : tag.Placed source)
    (h : applyTag s b span tag = .ok b') : b'.Placed source := by
  cases tag with
  | ifTag negated cond =>
    cases h
    exact hb.push ⟨ht, hb.current⟩
  | elseTag => exact hb.addElse (placed_eq_ok h)
  | elseIfTag negated cond => exact hb.addElseIf (placed_eq_ok h) ht
  | endifTag => exact Builder.placed_of_closeClauses (placed_eq_ok h) hb.current hb.blocks
  | forTag vars iterable =>
    cases h
    exact hb.push ⟨ht.1, ht.2, hb.current⟩
  | endforTag => exact hb.closeFor (placed_eq_ok h)
  | includeTag name globals =>
    cases h
    exact hb.add ht

theorem placed_applied (hb : b.Placed r.source) (hspan : span.Fits r.source)
    (h : Applied r b name raw span b') : b'.Placed r.source := by
  cases h with
  | closed blocks occurs compiled =>
    obtain ⟨⟨start, before⟩, others⟩ := List.forall_mem_cons.1 (blocks ▸ hb.blocks)
    have ended := allFit_of_directive hspan compiled
    exact ⟨.append (start.append (ended.append (Stmt.allFit_reverse hb.current))) before, others⟩
  | closedCached blocks occurs invoked =>
    obtain ⟨⟨start, before⟩, others⟩ := List.forall_mem_cons.1 (blocks ▸ hb.blocks)
    have ended := allFit_of_invocation hspan invoked
    exact ⟨.append (start.append (ended.append (Stmt.allFit_reverse hb.current))) before, others⟩
  | single found occurs compiled => exact hb.add (allFit_of_directive hspan compiled)
  | opened found occurs compiled => exact hb.push ⟨allFit_of_directive hspan compiled, hb.current⟩
  | openedCached found occurs invoked =>
    exact hb.push ⟨allFit_of_invocation hspan invoked, hb.current⟩

/-- The closing delimiter behind the arguments of a directive. -/
theorem within_rawArgs (fit : Fit source ts) :
    Within source (fun p => p.2.Fits source) (rawArgs s raw ts) := by
  induction ts generalizing raw with
  | nil =>
    unfold rawArgs
    split
    · exact .error _
    · exact .error _
  | cons t ts ih =>
    obtain ⟨first, others⟩ := List.forall_mem_cons.1 fit
    unfold rawArgs
    split
    · next kind => exact .ok (first (kind ▸ nofun)) others
    · exact ih others

/-- What begins with a token is read into a builder. -/
theorem within_statement {t : Token} (hb : b.Placed r.source) (fit : Fit r.source (t :: ts)) :
    Within r.source (Builder.Placed r.source) (statement r b t ts) := by
  obtain ⟨ht, fit⟩ := List.forall_mem_cons.1 fit
  unfold statement
  dsimp only
  split
  -- raw text
  · exact .ok (hb.add .nil) fit
  -- a comment
  · refine .after fun isRaw _ => ?_
    split
    · refine .after fun ts₁ text => ?_
      obtain ⟨⟨raw, ts₁⟩, taken, rfl⟩ := map_eq_ok text
      obtain ⟨rfl, -⟩ := expect_eq_ok taken
      exact .bind (within_expect (List.forall_mem_cons.1 fit).2 nofun) fun _ _ _ fit => .ok hb fit
    · exact .bind (within_expect fit nofun) fun _ _ _ fit => .ok hb fit
  -- an expression
  · next kind =>
    refine .bind (within_expression fit) fun x _ hx fit => .bind (within_expect fit nofun)
      fun close _ hclose fit => .ok (hb.add ?_) fit
    exact .cons ((ht (kind ▸ nofun)).join hclose) (.cons hx.span hx.places)
  -- a directive, or a tag of the language
  · next kind =>
    refine .after fun isName _ => ?_
    split
    · refine .bind (within_ident fit) fun name _ _ fit => .bind (within_rawArgs fit)
        fun p _ hclose fit => .after fun b₁ applied => ?_
      have hspan := (ht (kind ▸ nofun)).join hclose
      exact .ok (placed_applied hb hspan (applied_of_applyDirective applied)) fit
    · refine .bind (within_blockTag fit) fun tag _ htag fit => .bind (within_expect fit nofun)
        fun close _ _ fit => .after fun b₁ applied => .ok (placed_applyTag hb htag applied) fit
  · exact .error _

/-- The statements of some tokens have their places in the source. -/
theorem allPlaced_statements {n : Nat} {body : List Stmt} (hb : b.Placed r.source)
    (fit : Fit r.source ts) (h : statements r n b ts = .ok body) :
    Stmt.AllPlaced r.source body := by
  induction n generalizing b ts with
  | zero => cases h
  | succ n ih =>
    obtain ⟨found, first, h⟩ := bind_eq_ok h
    cases found with
    | none =>
      simp only [finish] at h
      split at h
      · cases h
        exact Stmt.allFit_reverse hb.current
      · cases h
    | some taken =>
      obtain rfl := next?_eq_some first
      obtain ⟨⟨b₁, ts₁⟩, stated, h⟩ : ∃ next, statement r b taken.1 taken.2 = .ok next ∧
          statements r n next.1 next.2 = .ok body := bind_eq_ok h
      obtain ⟨placed, fit⟩ := within_statement hb fit b₁ ts₁ stated
      exact ih placed fit h

end Parse

/-- The places of a template lie in its source. -/
theorem Template.IsCompiled.places_fit {t : Template} (h : t.IsCompiled) :
    Span.AllFit t.source t.places := by
  obtain ⟨l, compiled⟩ := h
  unfold Template.compile at compiled
  split at compiled
  · next body read =>
    have body_eq : body = t.body := congrArg Template.body (Except.ok.inj compiled)
    rw [Template.places, ← body_eq]
    exact Parse.allPlaced_statements Builder.placed_empty fits_of_lex read
  · cases compiled

end Stencil
