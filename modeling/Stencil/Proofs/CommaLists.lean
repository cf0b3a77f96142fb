import Stencil.Proofs.ArgumentGrammar
import Stencil.Proofs.Lexemes
import Stencil.Proofs.SourceIndependence
import Stencil.Template.Parser

/-!
# Lists of expressions

Expressions are listed with commas between them: as the arguments of a directive, in a list, in a
map and in an assignment. A comma behind the arguments of a filter belongs to the filter, so a list
is read as the expressions that it is made of if and only if none of them but the last one ends in
such arguments.

- `Expr.Separable`: none of the expressions but the last one ends in the arguments of a filter.
- `Parse.Alone`: what a text is on its own.
- `Listing`: the ways in which expressions are listed.
- `Listing.Parses`: a list is read as some expressions.
- `Listing.parses_iff_separable`: when it is.
-/

namespace Stencil

/-! ## Separable expressions -/

namespace Expr

/-- None of the expressions but the last one ends in the arguments of a filter. -/
def Separable (xs : List Expr) : Prop := ∀ x ∈ xs.dropLast, x.endsInArguments = false

variable {x : Expr} {xs : List Expr}

theorem separable_nil : Separable [] := nofun

theorem separable_singleton : Separable [x] := nofun

theorem separable_cons (apart : x.endsInArguments = false) (h : Separable xs) :
    Separable (x :: xs) := by
  cases xs with
  | nil => exact separable_singleton
  | cons y ys =>
    rw [Separable, List.dropLast_cons_cons]
    exact List.forall_mem_cons.2 ⟨apart, h⟩

theorem separable_cons_cons {y : Expr} (h : Separable (x :: y :: xs)) :
    x.endsInArguments = false ∧ Separable (y :: xs) := by
  rw [Separable, List.dropLast_cons_cons] at h
  exact List.forall_mem_cons.1 h

/-- Spans do not matter. -/
theorem separable_of_placeless {ys : List Expr} (same : placelessAll ys = placelessAll xs)
    (h : Separable ys) : Separable xs := by
  intro x hx
  rw [placelessAll_eq_map, placelessAll_eq_map] at same
  have mem : x.placeless ∈ (ys.map placeless).dropLast := by
    rw [same, ← List.map_dropLast]
    exact List.mem_map_of_mem hx
  rw [← List.map_dropLast] at mem
  obtain ⟨y, hy, eq⟩ := List.mem_map.1 mem
  rw [← endsInArguments_placeless, ← eq, endsInArguments_placeless]
  exact h y hy

theorem eq_list_of_placeless {span : Span} (h : x.placeless = (Expr.list xs span).placeless) :
    ∃ ys span', x = .list ys span' ∧ placelessAll ys = placelessAll xs := by
  cases x with
  | list ys span' => exact ⟨ys, span', rfl, (Expr.list.inj h).1⟩
  | _ => cases h

theorem eq_map_of_placeless {es : List (String × Expr)} {span : Span}
    (h : x.placeless = (Expr.map es span).placeless) :
    ∃ fs span', x = .map fs span' ∧ placelessEntries fs = placelessEntries es := by
  cases x with
  | map fs span' => exact ⟨fs, span', rfl, (Expr.map.inj h).1⟩
  | _ => cases h

theorem map_snd_placelessEntries (es : List (String × Expr)) :
    (placelessEntries es).map Prod.snd = placelessAll (es.map Prod.snd) := by
  rw [placelessEntries_eq_map, placelessAll_eq_map, List.map_map, List.map_map]
  rfl

theorem separable_of_writtenItems {ks : List Lexeme} (h : WrittenItems xs ks) : Separable xs := by
  induction xs generalizing ks with
  | nil => exact separable_nil
  | cons x xs ih =>
    obtain ⟨_, _, _, _, ⟨rfl, _⟩ | ⟨apart, _, _, _, others⟩⟩ := h
    · exact separable_singleton
    · exact separable_cons apart (ih others)

theorem separable_of_writtenArguments {ks : List Lexeme} (h : WrittenArguments xs ks) :
    Separable xs := by
  induction xs generalizing ks with
  | nil => exact separable_nil
  | cons x xs ih =>
    cases xs with
    | nil => exact separable_singleton
    | cons y xs =>
      obtain ⟨_, _, _, -, apart, others, -⟩ := h
      exact separable_cons apart (ih others)

theorem separable_of_writtenEntries {es : List (String × Expr)} {ks : List Lexeme}
    (h : WrittenEntries es ks) : Separable (es.map Prod.snd) := by
  induction es generalizing ks with
  | nil => exact separable_nil
  | cons e es ih =>
    obtain ⟨_, _, _, _, _, _, _, ⟨rfl, _⟩ | ⟨apart, _, _, _, others⟩⟩ := h
    · exact separable_singleton
    · exact separable_cons apart (ih others)

end Expr

/-! ## Tokens with commas between them -/

/-- Lists of tokens with commas between them. -/
def commas (kss : List (List Lexeme)) : List Lexeme := [(.comma, ",")].intercalate kss

theorem commas_cons_cons (ks ls : List Lexeme) (kss : List (List Lexeme)) :
    commas (ks :: ls :: kss) = ks ++ (.comma, ",") :: commas (ls :: kss) := by
  rw [commas, List.intercalate_cons_cons, List.append_assoc]
  rfl

@[simp] theorem commas_singleton (ks : List Lexeme) : commas [ks] = ks :=
  List.intercalate_singleton

theorem settled_commas {α : Type} {R : α → List Lexeme → Prop}
    (hR : ∀ {a ks}, R a ks → Settled (kinds ks)) {as : List α} {kss : List (List Lexeme)}
    (h : List.Forall₂ R as kss) : Settled (kinds (commas kss)) := by
  induction h with
  | nil => exact .nil
  | cons first others ih =>
    cases others with
    | nil =>
      rw [commas_singleton]
      exact hR first
    | cons second others =>
      rw [commas_cons_cons, kinds_append, kinds_cons]
      exact (hR first).append (.plain rfl ih)

/-- A labelled expression is written with some tokens: the one of the label, a mark, and those of
the expression. -/
def Labelled (label : String → Lexeme → Prop) (mark : Lexeme) (e : String × Expr)
    (ks : List Lexeme) : Prop :=
  ∃ name front, label e.1 name ∧ e.2.Written front ∧ ks = name :: mark :: front

/-- An entry of a map is written with some tokens. -/
abbrev EntryText := Labelled KeyText (.colon, ":")

/-- The token of a name. -/
def NameText (name : String) (k : Lexeme) : Prop := k = (.identifier, name)

/-- A binding is written with some tokens. -/
abbrev BindingText := Labelled NameText (.equals, "=")

theorem NameText.isPlain {name : String} {k : Lexeme} (h : NameText name k) : k.1.isPlain := by
  rw [h]
  rfl

theorem Labelled.settled {label : String → Lexeme → Prop} {mark : Lexeme} {e : String × Expr}
    {ks : List Lexeme} (hlabel : ∀ {name k}, label name k → k.1.isPlain) (hmark : mark.1.isPlain)
    (h : Labelled label mark e ks) : Settled (kinds ks) := by
  obtain ⟨name, front, hname, written, rfl⟩ := h
  exact .plain (hlabel hname) (.plain hmark (e.2.settled_of_written written))

namespace Expr

theorem writtenItems_commas {xs : List Expr} {kss : List (List Lexeme)}
    (h : List.Forall₂ Written xs kss) (apart : Separable xs) : WrittenItems xs (commas kss) := by
  match xs, kss, h with
  | _, _, .nil => rfl
  | _, _, .cons first .nil =>
    exact ⟨_, [], first, by simp, .inl ⟨rfl, rfl⟩⟩
  | _, _, .cons first (.cons second others) =>
    obtain ⟨apart, apart'⟩ := separable_cons_cons apart
    exact ⟨_, _, first, commas_cons_cons _ _ _, .inr ⟨apart, _, _, rfl,
      writtenItems_commas (.cons second others) apart'⟩⟩

theorem writtenArguments_commas {xs : List Expr} {kss : List (List Lexeme)}
    (h : List.Forall₂ Written xs kss) (apart : Separable xs) :
    WrittenArguments xs (commas kss) := by
  match xs, kss, h with
  | _, _, .nil => rfl
  | _, _, .cons first .nil =>
    rw [commas_singleton]
    exact first
  | _, _, .cons first (.cons second others) =>
    obtain ⟨apart, apart'⟩ := separable_cons_cons apart
    rw [commas_cons_cons]
    exact writtenArguments_cons first apart (List.cons_ne_nil _ _)
      (writtenArguments_commas (.cons second others) apart')

theorem writtenEntries_commas {es : List (String × Expr)} {kss : List (List Lexeme)}
    (h : List.Forall₂ EntryText es kss) (apart : Separable (es.map Prod.snd)) :
    WrittenEntries es (commas kss) := by
  match es, kss, h with
  | _, _, .nil => rfl
  | _, _, .cons ⟨name, front, key, written, eq⟩ .nil =>
    exact ⟨name, ":", front, [], key, written, by simp [eq], .inl ⟨rfl, rfl⟩⟩
  | _, _, .cons ⟨name, front, key, written, eq⟩ (.cons second others) =>
    obtain ⟨apart, apart'⟩ := separable_cons_cons apart
    exact ⟨name, ":", front, _, key, written, by rw [commas_cons_cons, eq]; rfl,
      .inr ⟨apart, _, _, rfl, writtenEntries_commas (.cons second others) apart'⟩⟩

end Expr

/-! ## Arguments -/

namespace Parse

variable {s : Surroundings} {ts : List Token}

theorem separable_of_callArgs {xs : List Expr} (h : callArgs s ts = .ok xs) :
    Expr.Separable xs := Expr.separable_of_writtenArguments (writtenArguments_of_callArgs h).2

/-- Bindings with commas between them are separable. -/
theorem separable_of_assignArgsFrom {n : Nat} {bs : List (Ident × Expr)}
    (h : assignArgsFrom s n ts = .ok bs) : Expr.Separable (bs.map Prod.snd) := by
  induction n generalizing ts bs with
  | zero => cases h
  | succ n ih =>
    obtain ⟨⟨name, ts₁⟩, -, h₁⟩ := bind_eq_ok h
    obtain ⟨⟨equals, ts₂⟩, -, h₂⟩ := bind_eq_ok h₁
    obtain ⟨⟨x, rest⟩, readFirst, h₃⟩ := bind_eq_ok h₂
    obtain ⟨next, readNext, h₄⟩ := bind_eq_ok h₃
    obtain ⟨_, -, -, ends⟩ := written_of_expression readFirst
    cases next with
    | none =>
      cases h₄
      exact Expr.separable_singleton
    | some first =>
      obtain ⟨t, rest'⟩ := first
      dsimp only at h₄
      split at h₄
      · next comma =>
        obtain ⟨bs', others, h₅⟩ := bind_eq_ok h₄
        cases h₅
        exact Expr.separable_cons (apart_of_next ends readNext comma) (ih others)
      · cases h₄

/-- The tokens of the first list, the comma behind it, and those of the others. -/
theorem exists_tokens_of_commas {ks ls : List Lexeme} {kss : List (List Lexeme)}
    (h : ts.map Token.lexeme = commas (ks :: ls :: kss)) :
    ∃ C comma D, ts = C ++ comma :: D ∧ C.map Token.lexeme = ks ∧ comma.kind = .comma ∧
      D.map Token.lexeme = commas (ls :: kss) := by
  rw [commas_cons_cons] at h
  obtain ⟨C, D, rfl, hC, hD⟩ := List.map_eq_append_iff.1 h
  obtain ⟨comma, D, rfl, hcomma, hD⟩ := List.map_eq_cons_iff.1 hD
  exact ⟨C, comma, D, rfl, hC, (Prod.mk.inj hcomma).1, hD⟩

/-- The tokens of a binding: a name, an equals sign, and those of the expression. -/
theorem exists_tokens_of_bindingText {b : String × Expr}
    (h : BindingText b (ts.map Token.lexeme)) :
    ∃ name equals C, ts = name :: equals :: C ∧ name.kind = .identifier ∧ name.text = b.1 ∧
      equals.kind = .equals ∧ b.2.Written (C.map Token.lexeme) := by
  obtain ⟨_, front, rfl, written, hts⟩ := h
  obtain ⟨name, C, rfl, hname, hC⟩ := List.map_eq_cons_iff.1 hts
  obtain ⟨equals, C, rfl, hequals, rfl⟩ := List.map_eq_cons_iff.1 hC
  obtain ⟨nameKind, nameText⟩ := Prod.mk.inj hname
  exact ⟨name, equals, C, rfl, nameKind, nameText, (Prod.mk.inj hequals).1, written⟩

/-- Separable bindings are read. -/
theorem reads_assignArgsFrom (hs : s.failure = none) {n : Nat} {bs : List (String × Expr)}
    {kss : List (List Lexeme)} (h : List.Forall₂ BindingText bs kss)
    (apart : Expr.Separable (bs.map Prod.snd)) (hbs : bs ≠ [])
    (hts : ts.map Token.lexeme = commas kss) (hn : ts.length < n) :
    ∃ cs, assignArgsFrom s n ts = .ok cs ∧
      cs.map (fun c => (c.1.name, c.2.placeless)) = Expr.placelessEntries bs := by
  induction h generalizing ts n with
  | nil => exact absurd rfl hbs
  | @cons b ks bs kss first others ih =>
    obtain ⟨n, rfl⟩ := Nat.exists_eq_succ_of_ne_zero (Nat.ne_of_gt (Nat.zero_lt_of_lt hn))
    cases others with
    | nil =>
      rw [commas_singleton] at hts
      subst hts
      obtain ⟨name, equals, C, rfl, nameKind, nameText, equalsKind, written⟩ :=
        exists_tokens_of_bindingText first
      obtain ⟨y, read, same⟩ := reads_last hs written
      refine ⟨[(⟨name.text, name.span⟩, y)], ?_, ?_⟩
      · simp only [assignArgsFrom, ident_cons nameKind, expect_cons equalsKind, read, ok_bind,
          next?_of_nil hs]
      · rw [Expr.placelessEntries, List.map_singleton, same, nameText]
        rfl
    | cons second others =>
      obtain ⟨apart, apart'⟩ := Expr.separable_cons_cons apart
      obtain ⟨B, comma, D, rfl, rfl, kind, hD⟩ := exists_tokens_of_commas hts
      obtain ⟨name, equals, C, rfl, nameKind, nameText, equalsKind, written⟩ :=
        exists_tokens_of_bindingText first
      obtain ⟨y, read, same⟩ := reads_before_comma (D := D) hs written kind apart
      have shorter : D.length < n := by
        rw [List.length_append, List.length_cons, List.length_cons, List.length_cons] at hn
        omega
      obtain ⟨cs, readOthers, sameOthers⟩ := ih apart' (List.cons_ne_nil _ _) hD shorter
      refine ⟨(⟨name.text, name.span⟩, y) :: cs, ?_, ?_⟩
      · simp only [List.cons_append, assignArgsFrom, ident_cons nameKind, expect_cons equalsKind,
          read, ok_bind, next?, kind, if_true, readOthers]
      · rw [Expr.placelessEntries, List.map_cons, same, nameText, sameOthers]

end Parse

/-! ## Directives -/

namespace Parse

variable {r : Reader} {name : Ident} {o : Occurrence}

/-- The arguments of a directive are read in its region. -/
theorem directiveArgs_call_eq_ok {ys : List Expr} :
    directiveArgs r name .call o = .ok (.call ys) ↔
      ∃ l, lexRegion r.language.delimiters r.source o.span = some l ∧
        callArgs ⟨r.source, l.failure⟩ l.significant = .ok ys := by
  constructor
  · intro h
    rw [directiveArgs] at h
    split at h
    · cases h
    · next l lexed =>
      obtain ⟨as, read, eq⟩ := map_eq_ok h
      cases eq
      exact ⟨l, lexed, read⟩
  · rintro ⟨l, lexed, read⟩
    simp only [directiveArgs, lexed, read]
    rfl

/-- The bindings of a directive are read in its region. -/
theorem directiveArgs_assign_eq_ok {bs : List (Ident × Expr)} :
    directiveArgs r name .assign o = .ok (.assign bs) ↔
      ∃ l, lexRegion r.language.delimiters r.source o.span = some l ∧
        assignArgs ⟨r.source, l.failure⟩ l.significant = .ok bs := by
  constructor
  · intro h
    rw [directiveArgs] at h
    split at h
    · cases h
    · next l lexed =>
      obtain ⟨as, read, eq⟩ := map_eq_ok h
      cases eq
      exact ⟨l, lexed, read⟩
  · rintro ⟨l, lexed, read⟩
    simp only [directiveArgs, lexed, read]
    rfl

end Parse

/-! ## Texts -/

namespace Parse

variable {d : Delimiters} {α : Type} {text : String}

/-- Something is all that is read in a region. -/
def ReadIn (d : Delimiters) (source : String) (span : Span)
    (read : Surroundings → List Token → Except Failure (Taken α)) (a : α) : Prop :=
  ∃ l, lexRegion d source span = some l ∧ l.failure = none ∧
    read ⟨source, none⟩ l.significant = .ok (a, [])

/-- Something is all that is read in a text on its own. -/
def Alone (d : Delimiters) (text : String)
    (read : Surroundings → List Token → Except Failure (Taken α)) (a : α) : Prop :=
  ReadIn d text ⟨0, Text.byteLength text.toList⟩ read a

/-- The tokens of a text on its own, if they are settled. -/
theorem exists_spelled {read : Surroundings → List Token → Except Failure (Taken α)} {a : α}
    (h : Alone d text read a) {P : List Lexeme → Prop}
    (sound : ∀ {s ts}, read s ts = .ok (a, []) → P (ts.map Token.lexeme))
    (settled : ∀ {ks}, P ks → Settled (kinds ks)) :
    ∃ ks, Lexer.Spelled false text.toList ks ∧ P ks := by
  obtain ⟨l, lexed, ok, h⟩ := h
  have whole : Text.slice ⟨0, Text.byteLength text.toList⟩ text = some text := by
    have middle := Text.sliceChars_append [] text.toList []
    simp only [List.nil_append, List.append_nil, Text.byteLength_nil, Nat.zero_add] at middle
    rw [Text.slice, middle, Option.map_some, String.ofList_toList]
  refine ⟨_, spelled_of_lexRegion whole lexed ok ?_, sound h⟩
  rintro t mem closes
  have inside : t.kind ∈ kinds (l.significant.map Token.lexeme) := by
    refine List.mem_map_of_mem (List.mem_map_of_mem (List.mem_filter.2 ⟨mem, ?_⟩))
    rw [closes]
    rfl
  exact (((settled (sound h)).inner _ inside).2.2 .block).2 closes

theorem exists_written {x : Expr} (h : Alone d text expression x) :
    ∃ ks, Lexer.Spelled false text.toList ks ∧ x.Written ks := by
  refine exists_spelled h (fun read => ?_) x.settled_of_written
  obtain ⟨taken, rfl, written, -⟩ := written_of_expression read
  rwa [List.append_nil]

theorem exists_keyText {key : String} (h : Alone d text mapKey key) :
    ∃ k, Lexer.Spelled false text.toList [k] ∧ KeyText key k := by
  obtain ⟨ks, spelled, k, rfl, written⟩ := exists_spelled h
    (P := fun ks => ∃ k, ks = [k] ∧ KeyText key k)
    (fun read => by
      obtain ⟨t, rfl, written⟩ := keyText_of_mapKey read
      exact ⟨t.lexeme, rfl, written⟩)
    (fun ⟨k, eq, written⟩ => eq ▸ .single written.isPlain)
  exact ⟨k, spelled, written⟩

theorem spelled_of_ident {name : Ident} (h : Alone d text ident name) :
    Lexer.Spelled false text.toList [(.identifier, name.name)] := by
  obtain ⟨ks, spelled, rfl⟩ := exists_spelled h (P := fun ks => ks = [(.identifier, name.name)])
    (fun read => by
      obtain ⟨t, rfl, eq⟩ := ident_eq_ok read
      rw [List.map_singleton, eq])
    (fun eq => eq ▸ .single rfl)
  exact spelled

/-- Texts with commas between them. -/
theorem spelled_commas {texts : List String} {kss : List (List Lexeme)}
    (h : List.Forall₂ (fun text ks => Lexer.Spelled false text.toList ks) texts kss) :
    Lexer.Spelled false (", ".intercalate texts).toList (commas kss) := by
  induction h with
  | nil => exact .nil
  | @cons text ks texts kss first others ih =>
    cases others with
    | nil =>
      rw [String.intercalate_singleton, commas_singleton]
      exact first
    | cons second others =>
      rw [String.intercalate_cons_cons, commas_cons_cons, String.toList_append,
        String.toList_append, List.append_assoc]
      refine first.append (Lexer.breaks_cons rfl) fun path => ?_
      exact .mark rfl nofun (.blank rfl ih)

theorem spelled_brackets {ks : List Lexeme} (h : Lexer.Spelled false text.toList ks) :
    Lexer.Spelled false ("[" ++ text ++ "]").toList
      ((.leftBracket, "[") :: (ks ++ [(.rightBracket, "]")])) := by
  rw [String.toList_append, String.toList_append]
  exact .mark rfl nofun (h.append (Lexer.breaks_cons rfl) fun _ => .mark rfl nofun .nil)

theorem spelled_braces {ks : List Lexeme} (h : Lexer.Spelled false text.toList ks) :
    Lexer.Spelled false ("\x7b" ++ text ++ "\x7d").toList
      ((.leftBrace, "\x7b") :: (ks ++ [(.rightBrace, "\x7d")])) := by
  rw [String.toList_append, String.toList_append]
  exact .mark rfl nofun (h.append (Lexer.breaks_cons rfl) fun _ => .mark rfl nofun .nil)

theorem spelled_entry {key : String} {k : Lexeme} {ks : List Lexeme}
    (hkey : Lexer.Spelled false key.toList [k]) (h : Lexer.Spelled false text.toList ks) :
    Lexer.Spelled false (key ++ ": " ++ text).toList (k :: (.colon, ":") :: ks) := by
  rw [String.toList_append, String.toList_append, List.append_assoc]
  exact hkey.append (Lexer.breaks_cons rfl) fun _ => .mark rfl nofun (.blank rfl h)

theorem spelled_binding {name : String} {k : Lexeme} {ks : List Lexeme}
    (hname : Lexer.Spelled false name.toList [k]) (h : Lexer.Spelled false text.toList ks) :
    Lexer.Spelled false (name ++ " = " ++ text).toList (k :: (.equals, "=") :: ks) := by
  rw [String.toList_append, String.toList_append, List.append_assoc]
  exact hname.append (Lexer.breaks_cons rfl) fun _ => .blank rfl (.mark rfl nofun (.blank rfl h))

/-- Texts have the tokens that their expressions are written with. -/
theorem exists_written_all {texts : List String} {xs : List Expr}
    (h : List.Forall₂ (fun text x => Alone d text expression x) texts xs) :
    ∃ kss, List.Forall₂ (fun text ks => Lexer.Spelled false text.toList ks) texts kss ∧
      List.Forall₂ Expr.Written xs kss := by
  induction h with
  | nil => exact ⟨[], .nil, .nil⟩
  | cons first _ ih =>
    obtain ⟨ks, spelled, written⟩ := exists_written first
    obtain ⟨kss, others, others'⟩ := ih
    exact ⟨ks :: kss, .cons spelled others, .cons written others'⟩

/-- Labelled texts have the tokens that their labelled expressions are written with. -/
theorem exists_labelled (label : String → Lexeme → Prop) {mark : Lexeme}
    (join : String → String → String) {texts : List String} {xs : List Expr}
    {labels : List (String × String)}
    (joined : ∀ {name text k ks}, Lexer.Spelled false name.toList [k] →
      Lexer.Spelled false text.toList ks →
      Lexer.Spelled false (join name text).toList (k :: mark :: ks))
    (h : List.Forall₂ (fun text x => Alone d text expression x) texts xs)
    (length : labels.length = texts.length)
    (hlabels : ∀ l ∈ labels, ∃ k, Lexer.Spelled false l.1.toList [k] ∧ label l.2 k) :
    ∃ kss, List.Forall₂ (fun text ks => Lexer.Spelled false text.toList ks)
        (labels.zipWith (fun l text => join l.1 text) texts) kss ∧
      List.Forall₂ (Labelled label mark) ((labels.map Prod.snd).zip xs) kss := by
  induction h generalizing labels with
  | nil =>
    obtain rfl := List.length_eq_zero_iff.1 length
    exact ⟨[], .nil, .nil⟩
  | cons first _ ih =>
    cases labels with
    | nil => cases length
    | cons l labels =>
      obtain ⟨hl, hlabels⟩ := List.forall_mem_cons.1 hlabels
      obtain ⟨k, spelledLabel, hk⟩ := hl
      obtain ⟨ks, spelled, written⟩ := exists_written first
      obtain ⟨kss, others, others'⟩ := ih (Nat.succ.inj length) hlabels
      exact ⟨(k :: mark :: ks) :: kss, .cons (joined spelledLabel spelled) others,
        .cons ⟨k, ks, hk, written, rfl⟩ others'⟩

end Parse

/-! ## Values -/

/-- Arguments have the values of the expressions that they are, but for spans. -/
theorem DirectiveArgs.evaluate_call_eq_ok {s : Scope} {source : String} {xs ys : List Expr}
    (same : Expr.placelessAll ys = Expr.placelessAll xs) {a : Args} :
    (DirectiveArgs.call ys).evaluate s source = .ok a ↔
      List.Forall₂ (fun x v => x.evaluate s source = .ok v) xs a.values ∧ a.names = [] := by
  have values (vs : List Value) :
      Expr.evaluateAll s source ys = .ok vs ↔ Expr.evaluateAll s source xs = .ok vs := by
    apply eq_ok_iff_of_mapError Failure.kind
    rw [Expr.kind_evaluateAll_placeless (.refl s source) ys, same,
      ← Expr.kind_evaluateAll_placeless (.refl s source) xs]
  obtain ⟨vs, names⟩ := a
  rw [← Expr.evaluateAll_eq_ok, ← values vs, evaluate]
  cases Expr.evaluateAll s source ys with
  | error f => exact ⟨nofun, nofun⟩
  | ok ws =>
    simp only [Except.ok.injEq, Args.mk.injEq]
    exact and_congr_right' eq_comm

/-! ## Lists -/

/-- The ways in which expressions are listed. -/
inductive Listing where
  /-- As the arguments of a directive. -/
  | call
  | list
  /-- As the values of a map. Each key comes with its text. -/
  | map (keys : List (String × String))
  /-- In an assignment. Each name comes with its text. -/
  | assign (names : List (String × String))

namespace Listing

open Parse

/-- The text of a list. -/
def text : Listing → List String → String
  | .call, texts => ", ".intercalate texts
  | .list, texts => "[" ++ ", ".intercalate texts ++ "]"
  | .map keys, texts =>
    "\x7b" ++ ", ".intercalate (keys.zipWith (fun k text => k.1 ++ ": " ++ text) texts) ++ "\x7d"
  | .assign names, texts =>
    ", ".intercalate (names.zipWith (fun x text => x.1 ++ " = " ++ text) texts)

/-- The keys or the names, if there are any, are as many as the expressions, and their texts are
theirs. -/
def Fits (d : Delimiters) (n : Nat) : Listing → Prop
  | .call | .list => True
  | .map keys => keys.length = n ∧ ∀ k ∈ keys, Alone d k.1 mapKey k.2
  | .assign names => names.length = n ∧ ∀ x ∈ names, ∃ span, Alone d x.1 ident ⟨x.2, span⟩

/-- In the region of an occurrence, a list is read as some expressions, up to their spans. -/
def Parses (r : Reader) (name : Ident) (o : Occurrence) (xs : List Expr) : Listing → Prop
  | .call => ∃ ys, directiveArgs r name .call o = .ok (.call ys) ∧
      Expr.placelessAll ys = Expr.placelessAll xs
  | .list => ∃ ys span, ReadIn r.language.delimiters r.source o.span expression (.list ys span) ∧
      Expr.placelessAll ys = Expr.placelessAll xs
  | .map keys => ∃ es span,
      ReadIn r.language.delimiters r.source o.span expression (.map es span) ∧
      Expr.placelessEntries es = Expr.placelessEntries ((keys.map Prod.snd).zip xs)
  | .assign names => ∃ bs, directiveArgs r name .assign o = .ok (.assign bs) ∧
      bs.map (fun b => (b.1.name, b.2.placeless)) =
        Expr.placelessEntries ((names.map Prod.snd).zip xs)

variable {r : Reader} {name : Ident} {o : Occurrence} {texts : List String} {xs : List Expr}

theorem map_snd_labels {labels : List (String × String)} (length : labels.length = xs.length) :
    ((labels.map Prod.snd).zip xs).map Prod.snd = xs :=
  List.map_snd_zip (Nat.le_of_eq (by rw [List.length_map, length]))

/-- What is read as a list is separable. -/
theorem separable_of_parses {l : Listing} (fits : l.Fits r.language.delimiters xs.length)
    (h : l.Parses r name o xs) : Expr.Separable xs := by
  cases l with
  | call =>
    obtain ⟨ys, read, same⟩ := h
    obtain ⟨l, -, read⟩ := directiveArgs_call_eq_ok.1 read
    exact Expr.separable_of_placeless same (separable_of_callArgs read)
  | list =>
    obtain ⟨ys, span, ⟨l, -, -, read⟩, same⟩ := h
    obtain ⟨_, -, ⟨_, _, _, written, -⟩, -⟩ := written_of_expression read
    exact Expr.separable_of_placeless same (Expr.separable_of_writtenItems written)
  | map keys =>
    obtain ⟨es, span, ⟨l, -, -, read⟩, same⟩ := h
    obtain ⟨_, -, ⟨_, _, _, written, -⟩, -⟩ := written_of_expression read
    refine Expr.separable_of_placeless ?_ (Expr.separable_of_writtenEntries written)
    rw [← Expr.map_snd_placelessEntries, same, Expr.map_snd_placelessEntries, map_snd_labels fits.1]
  | assign names =>
    obtain ⟨bs, read, same⟩ := h
    obtain ⟨l, -, read⟩ := directiveArgs_assign_eq_ok.1 read
    refine Expr.separable_of_placeless ?_ (separable_of_assignArgsFrom read)
    have values : Expr.placelessAll (bs.map Prod.snd) =
        (bs.map fun b => (b.1.name, b.2.placeless)).map Prod.snd := by
      rw [Expr.placelessAll_eq_map, List.map_map, List.map_map]
      rfl
    rw [values, same, Expr.map_snd_placelessEntries, map_snd_labels fits.1]

/-- No delimiter is found in the place of an occurrence. -/
def Undisturbed (r : Reader) (o : Occurrence) : Prop :=
  ∃ l, lexRegion r.language.delimiters r.source o.span = some l ∧ l.failure = none ∧
    ∀ t ∈ l.tokens, t.kind ≠ .closing .block

/-- The tokens of a text in the place of an occurrence. -/
theorem exists_tokens {text : String} {ks : List Lexeme}
    (free : r.language.delimiters = .standard ∨ Undisturbed r o)
    (slice : Text.slice o.span r.source = some text) (spelled : Lexer.Spelled false text.toList ks)
    (settled : Settled (kinds ks)) :
    ∃ l, lexRegion r.language.delimiters r.source o.span = some l ∧ l.failure = none ∧
      l.significant.map Token.lexeme = ks := by
  rcases free with standard | ⟨l, read, ok, inside⟩
  · rw [standard]
    exact lexRegion_of_spelled slice spelled settled
  · exact ⟨l, read, ok, (spelled_of_lexRegion slice read ok inside).unique spelled⟩

/-- An expression that is written with the tokens of a text is read in its place. -/
theorem readIn_of_written {text : String} {ks : List Lexeme} {x : Expr}
    (free : r.language.delimiters = .standard ∨ Undisturbed r o)
    (slice : Text.slice o.span r.source = some text) (spelled : Lexer.Spelled false text.toList ks)
    (written : x.Written ks) :
    ∃ y, ReadIn r.language.delimiters r.source o.span expression y ∧
      y.placeless = x.placeless := by
  obtain ⟨l, read, ok, rfl⟩ := exists_tokens free slice spelled (x.settled_of_written written)
  obtain ⟨y, readExpr, same⟩ := reads_expression (s := ⟨r.source, none⟩) rfl written stops_nil
    fun _ => rfl
  rw [List.append_nil] at readExpr
  exact ⟨y, ⟨l, read, ok, readExpr⟩, same⟩

/-- A list of separable expressions is read as they are. -/
theorem parses_of_separable {l : Listing}
    (free : r.language.delimiters = .standard ∨ Undisturbed r o)
    (slice : Text.slice o.span r.source = some (l.text texts))
    (h : List.Forall₂ (fun text x => Alone r.language.delimiters text expression x) texts xs)
    (hxs : xs ≠ []) (fits : l.Fits r.language.delimiters xs.length)
    (apart : Expr.Separable xs) : l.Parses r name o xs := by
  cases l with
  | call =>
    obtain ⟨kss, spelled, written⟩ := exists_written_all h
    obtain ⟨l, read, ok, hts⟩ := exists_tokens free slice (spelled_commas spelled)
      (settled_commas (Expr.settled_of_written _) written)
    obtain ⟨ys, readArgs, same⟩ := reads_arguments (s := ⟨r.source, l.failure⟩) ok
      (hts ▸ Expr.writtenArguments_commas written apart)
    exact ⟨ys, directiveArgs_call_eq_ok.2 ⟨l, read, readArgs⟩, same⟩
  | list =>
    obtain ⟨kss, spelled, written⟩ := exists_written_all h
    obtain ⟨y, read, same⟩ :=
      readIn_of_written free slice (spelled_brackets (spelled_commas spelled))
      (x := .list xs default) ⟨_, _, _, Expr.writtenItems_commas written apart, rfl⟩
    obtain ⟨ys, span, rfl, sameItems⟩ := Expr.eq_list_of_placeless same
    exact ⟨ys, span, read, sameItems⟩
  | map keys =>
    obtain ⟨length, hkeys⟩ := fits
    obtain ⟨kss, spelled, written⟩ := exists_labelled KeyText (fun k text => k ++ ": " ++ text)
      spelled_entry h (length.trans h.length_eq.symm) fun k hk => exists_keyText (hkeys k hk)
    have apart : Expr.Separable (((keys.map Prod.snd).zip xs).map Prod.snd) := by
      rw [map_snd_labels length]
      exact apart
    obtain ⟨y, read, same⟩ := readIn_of_written free slice (spelled_braces (spelled_commas spelled))
      (x := .map _ default) ⟨_, _, _, Expr.writtenEntries_commas written apart, rfl⟩
    obtain ⟨es, span, rfl, sameEntries⟩ := Expr.eq_map_of_placeless same
    exact ⟨es, span, read, sameEntries⟩
  | assign names =>
    obtain ⟨length, hnames⟩ := fits
    obtain ⟨kss, spelled, written⟩ := exists_labelled NameText
      (fun name text => name ++ " = " ++ text) spelled_binding h
      (length.trans h.length_eq.symm) fun x hx =>
        ⟨_, spelled_of_ident (hnames x hx).choose_spec, rfl⟩
    have apart : Expr.Separable (((names.map Prod.snd).zip xs).map Prod.snd) := by
      rw [map_snd_labels length]
      exact apart
    have hbs : (names.map Prod.snd).zip xs ≠ [] := by
      intro empty
      rw [← map_snd_labels length, empty] at hxs
      exact hxs rfl
    obtain ⟨l, read, ok, hts⟩ := exists_tokens free slice (spelled_commas spelled)
      (settled_commas (Labelled.settled NameText.isPlain rfl) written)
    obtain ⟨bs, readArgs, same⟩ :=
      reads_assignArgsFrom (s := ⟨r.source, l.failure⟩) ok written apart hbs hts
        (Nat.lt_succ_self _)
    exact ⟨bs, directiveArgs_assign_eq_ok.2 ⟨l, read, readArgs⟩, same⟩

/-- Expressions that are written on their own are read as a list, in each of its ways, if and only
if none of them but the last one ends in the arguments of a filter. The values of the arguments of a
directive are then those of the expressions. -/
theorem parses_iff_separable {l : Listing}
    (free : r.language.delimiters = .standard ∨ Undisturbed r o)
    (slice : Text.slice o.span r.source = some (l.text texts))
    (h : List.Forall₂ (fun text x => Alone r.language.delimiters text expression x) texts xs)
    (hxs : xs ≠ []) (fits : l.Fits r.language.delimiters xs.length) :
    (l.Parses r name o xs ↔ Expr.Separable xs) ∧
      (l = .call → Expr.Separable xs → ∃ args, directiveArgs r name .call o = .ok args ∧
        ∀ (s : Scope) (a : Args), args.evaluate s r.source = .ok a ↔
          List.Forall₂ (fun x v => x.evaluate s r.source = .ok v) xs a.values ∧ a.names = []) := by
  refine ⟨⟨separable_of_parses fits, parses_of_separable free slice h hxs fits⟩, ?_⟩
  rintro rfl apart
  have parsed : Listing.call.Parses r name o xs := parses_of_separable free slice h hxs fits apart
  obtain ⟨ys, read, same⟩ := parsed
  exact ⟨_, read, fun s a => DirectiveArgs.evaluate_call_eq_ok same⟩

/-- Two variables, the second one piped through a filter with an argument. -/
theorem parses_iff_separable_pair :
    let xs : List Expr := [.variable ⟨"a", ⟨0, 1⟩⟩ [],
      .filter (.variable ⟨"b", ⟨0, 1⟩⟩ []) ⟨"f", ⟨4, 5⟩⟩ [.variable ⟨"c", ⟨7, 8⟩⟩ []] ⟨0, 8⟩]
    let r : Reader := ⟨⟨"a, b | f: c", none⟩, ⟨.standard, []⟩, ""⟩
    let o : Occurrence := ⟨"a, b | f: c", ⟨0, 11⟩, ⟨"", 1, 1⟩⟩
    Expr.Separable xs ∧ Listing.call.Parses r ⟨"d", ⟨0, 0⟩⟩ o xs := by
  intro xs r o
  have apart : Expr.Separable xs := by
    intro x hx
    obtain rfl := List.mem_singleton.1 hx
    rfl
  have first : Alone .standard "a" expression xs[0] :=
    ⟨⟨[⟨.identifier, ⟨0, 1⟩, "a"⟩], none⟩, rfl, rfl, by cbv⟩
  have second : Alone .standard "b | f: c" expression xs[1] :=
    ⟨⟨[⟨.identifier, ⟨0, 1⟩, "b"⟩, ⟨.whitespace, ⟨1, 2⟩, " "⟩, ⟨.pipe, ⟨2, 3⟩, "|"⟩,
      ⟨.whitespace, ⟨3, 4⟩, " "⟩, ⟨.identifier, ⟨4, 5⟩, "f"⟩, ⟨.colon, ⟨5, 6⟩, ":"⟩,
      ⟨.whitespace, ⟨6, 7⟩, " "⟩, ⟨.identifier, ⟨7, 8⟩, "c"⟩], none⟩, rfl, rfl, by cbv⟩
  have slice : Text.slice o.span r.source = some (Listing.call.text ["a", "b | f: c"]) := by
    show Text.slice ⟨0, 11⟩ "a, b | f: c" = _
    rfl
  exact ⟨apart, (parses_iff_separable (.inl rfl) slice (.cons first (.cons second .nil))
    (List.cons_ne_nil _ _) trivial).1.2 apart⟩

/-- A filter with arguments takes what is listed behind it as well: both expressions are written on
their own, and a directive is given one argument. -/
theorem filter_takes_listed :
    let xs : List Expr := [
      .filter (.variable ⟨"a", ⟨0, 1⟩⟩ []) ⟨"json", ⟨4, 8⟩⟩ [.variable ⟨"b", ⟨10, 11⟩⟩ []] ⟨0, 11⟩,
      .variable ⟨"c", ⟨0, 1⟩⟩ []]
    let r : Reader := ⟨⟨"\x7b% probe a | json: b, c %\x7d", none⟩, ⟨.standard, []⟩, ""⟩
    let o : Occurrence := ⟨"a | json: b, c", ⟨9, 23⟩, ⟨"", 1, 10⟩⟩
    List.Forall₂ (fun text x => Alone .standard text expression x) ["a | json: b", "c"] xs ∧
      Text.slice o.span r.source = some (Listing.call.text ["a | json: b", "c"]) ∧
      directiveArgs r ⟨"probe", ⟨3, 8⟩⟩ .call o = .ok (.call [
        .filter (.variable ⟨"a", ⟨9, 10⟩⟩ []) ⟨"json", ⟨13, 17⟩⟩
          [.variable ⟨"b", ⟨19, 20⟩⟩ [], .variable ⟨"c", ⟨22, 23⟩⟩ []] ⟨9, 23⟩]) ∧
      ¬ Listing.call.Parses r ⟨"probe", ⟨3, 8⟩⟩ o xs := by
  intro xs r o
  have first : Alone .standard "a | json: b" expression xs[0] :=
    ⟨⟨[⟨.identifier, ⟨0, 1⟩, "a"⟩, ⟨.whitespace, ⟨1, 2⟩, " "⟩, ⟨.pipe, ⟨2, 3⟩, "|"⟩,
      ⟨.whitespace, ⟨3, 4⟩, " "⟩, ⟨.identifier, ⟨4, 8⟩, "json"⟩, ⟨.colon, ⟨8, 9⟩, ":"⟩,
      ⟨.whitespace, ⟨9, 10⟩, " "⟩, ⟨.identifier, ⟨10, 11⟩, "b"⟩], none⟩, rfl, rfl, by cbv⟩
  have second : Alone .standard "c" expression xs[1] :=
    ⟨⟨[⟨.identifier, ⟨0, 1⟩, "c"⟩], none⟩, rfl, rfl, by cbv⟩
  refine ⟨.cons first (.cons second .nil), ?_, ?_, fun parsed => ?_⟩
  · show Text.slice ⟨9, 23⟩ "\x7b% probe a | json: b, c %\x7d" = _
    rfl
  · refine directiveArgs_call_eq_ok.2
      ⟨⟨[⟨.identifier, ⟨9, 10⟩, "a"⟩, ⟨.whitespace, ⟨10, 11⟩, " "⟩, ⟨.pipe, ⟨11, 12⟩, "|"⟩,
        ⟨.whitespace, ⟨12, 13⟩, " "⟩, ⟨.identifier, ⟨13, 17⟩, "json"⟩, ⟨.colon, ⟨17, 18⟩, ":"⟩,
        ⟨.whitespace, ⟨18, 19⟩, " "⟩, ⟨.identifier, ⟨19, 20⟩, "b"⟩, ⟨.comma, ⟨20, 21⟩, ","⟩,
        ⟨.whitespace, ⟨21, 22⟩, " "⟩, ⟨.identifier, ⟨22, 23⟩, "c"⟩], none⟩, ?_, by cbv⟩
    show lexRegion .standard "\x7b% probe a | json: b, c %\x7d" ⟨9, 23⟩ = _
    rfl
  · have apart : Expr.Separable xs := separable_of_parses (l := .call) trivial parsed
    cases apart xs[0] (List.mem_singleton_self _)

end Listing

end Stencil
