import Stencil.Proofs.Orderly
import Stencil.Proofs.Simulation

/-!
# Renders come to an end

Instructions jump back at the end of a round, and templates may place each other and themselves.
Still no run goes on for ever, because a program does what the statements of its template say, and
these are rendered by recursion on them and on the number of templates that may still be active.

- `Machine.Takes`: so many steps lead from one configuration to another.
- `Machine.Ended`: the ways in which the machine goes no further.
- `Machine.exists_ended`: the machine comes to such a configuration.
- `Machine.runProgram?_broken`: one of the ways is to cut a text where a variable of a loop has no
  name, as its place is one in another source.
-/

namespace Stencil

namespace Machine

open Render Program

section

variable (e : Engine) (limit : Nat)

/-- So many steps lead from one configuration to another. -/
def Takes : Nat → Config → Config → Prop
  | 0, c, c' => c' = c
  | n + 1, c, c' => ∃ c₁, Moves e limit c c₁ ∧ Takes n c₁ c'

/-- From a configuration the machine goes no further, for one of these reasons. -/
inductive Ended (c : Config) : Prop
  /-- No activation is left. -/
  | done (stack : c.stack = [])
  /-- The render is ended on purpose. -/
  | halted (s : RenderState) (stop : (step e limit c.stack).run c.state = (.error .halted, s))
  | failed (err : Error) (s : RenderState)
      (stop : (step e limit c.stack).run c.state = (.error (.failed err), s))
  /-- The output has refused a text. -/
  | refused (s : RenderState) (stop : (step e limit c.stack).run c.state = (.error .outputFull, s))
  /-- A text was cut where no character begins or ends. -/
  | broken (s : RenderState) (stop : (step e limit c.stack).run c.state = (.error .broken, s))

end

variable {e : Engine} {limit : Nat} {c c' c'' : Config} {n k : Nat}

theorem Ended.of_error {stop : Stop} {s : RenderState}
    (h : (step e limit c.stack).run c.state = (.error stop, s)) : Ended e limit c := by
  cases stop with
  | halted => exact .halted s h
  | failed err => exact .failed err s h
  | broken => exact .broken s h
  | outputFull => exact .refused s h

/-- Where the machine has ended, it makes no step. -/
theorem Ended.not_moves (h : Ended e limit c) : ¬ Moves e limit c c' := by
  rintro ⟨nonempty, moved⟩
  cases h with
  | done stack => exact nonempty stack
  | halted s stop => cases stop.symm.trans moved
  | failed err s stop => cases stop.symm.trans moved
  | refused s stop => cases stop.symm.trans moved
  | broken s stop => cases stop.symm.trans moved

/-- There is one way to go on. -/
theorem Moves.unique (h : Moves e limit c c') (h' : Moves e limit c c'') : c' = c'' := by
  obtain ⟨stack, state⟩ := c'
  obtain ⟨stack', state'⟩ := c''
  cases h.2.symm.trans h'.2
  rfl

/-- The machine makes no more steps than those to where it ends. -/
theorem Takes.le (h : Takes e limit n c c') (ended : Ended e limit c')
    (h' : Takes e limit k c c'') : k ≤ n := by
  induction n generalizing c k with
  | zero =>
    obtain rfl : c' = c := h
    cases k with
    | zero => exact Nat.le_refl 0
    | succ k =>
      obtain ⟨c₁, move, -⟩ := h'
      exact absurd move ended.not_moves
  | succ n ih =>
    obtain ⟨c₁, move, h⟩ := h
    cases k with
    | zero => exact Nat.zero_le _
    | succ k =>
      obtain ⟨c₂, move', h'⟩ := h'
      obtain rfl := move.unique move'
      exact Nat.succ_le_succ (ih h h')

/-- A run that has come to its end with so many steps has come to where the machine ends. -/
theorem exists_takes_of_run (n : Nat) {c : Config}
    (h : (result? ((run e limit n c.stack).run c.state).1).isSome) :
    ∃ k c', Takes e limit k c c' ∧ Ended e limit c' := by
  induction n generalizing c with
  | zero =>
    cases hstack : c.stack with
    | nil => exact ⟨0, c, rfl, .done hstack⟩
    | cons a rest =>
      rw [hstack] at h
      cases h
  | succ n ih =>
    cases hstack : c.stack with
    | nil => exact ⟨0, c, rfl, .done hstack⟩
    | cons a rest =>
      rw [hstack, run_succ_cons] at h
      rcases hstep : (step e limit (a :: rest)).run c.state with ⟨stop | stack, s⟩
      · exact ⟨0, c, rfl, .of_error (hstack ▸ hstep)⟩
      · rw [run_bind_ok hstep] at h
        have move : Moves e limit c ⟨stack, s⟩ := ⟨by rw [hstack]; nofun, by rw [hstack, hstep]⟩
        obtain ⟨k, c', taken, ended⟩ := ih (c := ⟨stack, s⟩) h
        exact ⟨k + 1, c', ⟨⟨stack, s⟩, move, taken⟩, ended⟩

/-- The program of a template comes to its end, whatever the templates, the data and the limit are:
after some number of steps no activation is left, or the render is ended on purpose, or there is an
error, or a text was cut. No other number of steps leads beyond. -/
theorem exists_ended (e : Engine) (limit : Nat) (t : Template) (job : Job) (data : Value) :
    ∃ code n c, t.program? = some code ∧ Takes e limit n (.initial t code job data) c ∧
      Ended e limit c ∧ ∀ k c', Takes e limit k (.initial t code job data) c' → k ≤ n := by
  obtain ⟨n, hn⟩ := exists_forall_run_eq e limit t (job.initial data)
  have run_eq := hn n (Nat.le_refl n)
  -- the render of the statements says that the machine has come to its end
  have finished := (result?_ending (t.renderAt e limit (limit - 1 + 1)) (job.initial data)).1
  rw [← run_eq, place, program?_eq] at finished
  obtain ⟨k, c, taken, ended⟩ := exists_takes_of_run
    (c := .initial t (Stmt.layoutAll 0 t.body) job data) n (Option.isSome_of_eq_some finished)
  exact ⟨_, k, c, program?_eq t, taken, ended, fun _ _ h => taken.le ended h⟩

end Machine

/-! ## Cut texts -/

/-- A statement that has been read is followed by the others. -/
theorem Parse.statements_cons {r : Reader} {n : Nat} {b b' : Builder} {t : Token}
    {ts ts' : List Token} (h : statement r b t ts = .ok (b', ts')) :
    statements r (n + 1) b (t :: ts) = statements r n b' ts' := by
  rw [statements, next?]
  show (statement r b t ts >>= fun taken => statements r n taken.1 taken.2) = _
  rw [h]
  rfl

/-- A tag that places a template is read, if its name is. -/
theorem Parse.statement_include {r : Reader} {b : Builder} {first word place last : Span}
    {form form' text name : String} (ts : List Token)
    (named : Literal.string r.source text place = .ok name) :
    statement r b ⟨.opening .block, first, form⟩ (⟨.keyword, word, "include"⟩ ::
        ⟨.string, place, text⟩ :: ⟨.closing .block, last, form'⟩ :: ts) =
      .ok (b.add (.include ⟨name, place⟩ none), ts) := by
  have tag : blockTag r.toSurroundings (⟨.keyword, word, "include"⟩ :: ⟨.string, place, text⟩ ::
      ⟨.closing .block, last, form'⟩ :: ts) =
      .ok (.includeTag ⟨name, place⟩ none, ⟨.closing .block, last, form'⟩ :: ts) := by
    show (Literal.string r.source text place >>= fun _ => _) = _
    rw [named]
    rfl
  show (blockTag r.toSurroundings _ >>= fun _ => _) = _
  rw [tag]
  rfl

/-- The value of a variable. -/
def Template.small : Template where
  name := some "small"
  source := "\x7b\x7b y \x7d\x7d"
  body := [.output (.variable ⟨"y", ⟨3, 4⟩⟩ []) ⟨0, 7⟩]

/-- A loop in which another template is placed. -/
def Template.looping : Template where
  name := some "looping"
  source := "\x7b% for x in xs %\x7d\x7b% include \"small\" %\x7d\x7b% endfor %\x7d"
  body := [.forLoop (.item ⟨"x", ⟨7, 8⟩⟩) (.variable ⟨"xs", ⟨12, 14⟩⟩ [])
    [.include ⟨"small", ⟨28, 35⟩⟩ none]]

/-- An engine with these two templates. -/
def Engine.looping : Engine :=
  { Engine.new .standard with templates := [("small", .small), ("looping", .looping)] }

namespace Template

theorem compile_small (directives : Dict Definition) (name : Option String) :
    compile ⟨.standard, directives⟩ name small.source = .ok { small with name := name } := by
  have lexed : lex .standard small.source =
      ⟨[⟨.opening .expression, ⟨0, 2⟩, "\x7b\x7b"⟩, ⟨.whitespace, ⟨2, 3⟩, " "⟩,
        ⟨.identifier, ⟨3, 4⟩, "y"⟩, ⟨.whitespace, ⟨4, 5⟩, " "⟩,
        ⟨.closing .expression, ⟨5, 7⟩, "\x7d\x7d"⟩], none⟩ := rfl
  simp only [compile, Parse.template, lexed]
  rfl

theorem compile_looping (directives : Dict Definition) :
    compile ⟨.standard, directives⟩ (some "looping") looping.source = .ok looping := by
  have lexed : lex .standard looping.source =
      ⟨[⟨.opening .block, ⟨0, 2⟩, "\x7b%"⟩, ⟨.whitespace, ⟨2, 3⟩, " "⟩,
        ⟨.keyword, ⟨3, 6⟩, "for"⟩, ⟨.whitespace, ⟨6, 7⟩, " "⟩, ⟨.identifier, ⟨7, 8⟩, "x"⟩,
        ⟨.whitespace, ⟨8, 9⟩, " "⟩, ⟨.keyword, ⟨9, 11⟩, "in"⟩, ⟨.whitespace, ⟨11, 12⟩, " "⟩,
        ⟨.identifier, ⟨12, 14⟩, "xs"⟩, ⟨.whitespace, ⟨14, 15⟩, " "⟩,
        ⟨.closing .block, ⟨15, 17⟩, "%\x7d"⟩, ⟨.opening .block, ⟨17, 19⟩, "\x7b%"⟩,
        ⟨.whitespace, ⟨19, 20⟩, " "⟩, ⟨.keyword, ⟨20, 27⟩, "include"⟩,
        ⟨.whitespace, ⟨27, 28⟩, " "⟩, ⟨.string, ⟨28, 35⟩, "\"small\""⟩,
        ⟨.whitespace, ⟨35, 36⟩, " "⟩, ⟨.closing .block, ⟨36, 38⟩, "%\x7d"⟩,
        ⟨.opening .block, ⟨38, 40⟩, "\x7b%"⟩, ⟨.whitespace, ⟨40, 41⟩, " "⟩,
        ⟨.keyword, ⟨41, 47⟩, "endfor"⟩, ⟨.whitespace, ⟨47, 48⟩, " "⟩,
        ⟨.closing .block, ⟨48, 50⟩, "%\x7d"⟩], none⟩ := rfl
  let r : Parse.Reader := ⟨⟨looping.source, none⟩, ⟨.standard, directives⟩, "looping"⟩
  have begun : ∀ rest, Parse.statement r .empty ⟨.opening .block, ⟨0, 2⟩, "\x7b%"⟩
      (⟨.keyword, ⟨3, 6⟩, "for"⟩ :: ⟨.identifier, ⟨7, 8⟩, "x"⟩ :: ⟨.keyword, ⟨9, 11⟩, "in"⟩ ::
        ⟨.identifier, ⟨12, 14⟩, "xs"⟩ :: ⟨.closing .block, ⟨15, 17⟩, "%\x7d"⟩ :: rest) =
      .ok (⟨[], [.loop (.item ⟨"x", ⟨7, 8⟩⟩) (.variable ⟨"xs", ⟨12, 14⟩⟩ []) ⟨0, 17⟩ []]⟩, rest) :=
    fun _ => rfl
  have named : Literal.string looping.source "\"small\"" ⟨28, 35⟩ = .ok "small" := by
    have inner : Literal.inner? ("\"small\"" : String).toList =
      some ['s', 'm', 'a', 'l', 'l'] := rfl
    have plain : Literal.unescape 29 ['s', 'm', 'a', 'l', 'l'] =
      .ok ['s', 'm', 'a', 'l', 'l'] := rfl
    exact Literal.string_of_unescape inner plain
  have read : Parse.template ⟨.standard, directives⟩ (some "looping") looping.source =
      .ok looping.body := by
    rw [Parse.template, lexed]
    -- the three tags, one after the other
    refine (Parse.statements_cons (r := r) (n := 13) (begun _)).trans ?_
    refine (Parse.statements_cons (r := r) (n := 12) (Parse.statement_include _ named)).trans ?_
    rfl
  rw [compile, read]
  rfl

end Template

/-- A template that is placed in a loop is rendered with the variables of the loop, whose names are
looked for in its own source. This one is too short for that, and the render is broken off. -/
theorem Machine.runProgram?_broken :
    Template.compile Engine.looping.language (some "small") Template.small.source = .ok .small ∧
      Template.compile Engine.looping.language (some "looping") Template.looping.source =
        .ok .looping ∧
      (Engine.looping.runProgram? .looping
          (.ofData (.map [("xs", .list [.int 1]), ("y", .text "Y")])) 10).map Outcome.result =
        some (.error .broken) :=
  ⟨Template.compile_small _ _, Template.compile_looping _, rfl⟩

end Stencil
