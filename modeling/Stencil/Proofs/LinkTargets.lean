import Mathlib.Data.List.TakeWhile
import Stencil.Proofs.CommonMark
import Stencil.Proofs.GeneratedMarks

/-!
# Where links lead

The targets of links and images are checked before they are written. Escapes do not change the
scheme of a target. The target of a link to electronic mail is put together when it is written, and
is not checked.

- `HasScheme`: a target begins with a scheme.
- `Sanitizer.Admits`: a target is replaced, has no scheme, or has one that is allowed.
- `Mark.targets`: the targets of a tag as they are written.
- `admits_of_targets`: the targets in generated HTML.
- `not_admits_mail`: a link to electronic mail where only another scheme is allowed.
-/

namespace Stencil.Markdown

/-! ## Schemes -/

/-- A target begins with a scheme and a colon. -/
def HasScheme (name target : List Char) : Prop :=
  name.head?.any isLetter ∧ (∀ c ∈ name, inScheme c) ∧ ∃ rest, target = name ++ ':' :: rest

theorem inScheme_ne_colon {c : Char} (h : inScheme c) : c ≠ ':' := by
  rintro rfl
  exact absurd h (by decide)

/-- The scheme of a target is the one that the sanitizer looks at. -/
theorem scheme?_of_hasScheme {name url : List Char} (h : HasScheme name url) :
    scheme? url = some name := by
  obtain ⟨first, all, rest, rfl⟩ := h
  have read : (name ++ ':' :: rest).takeWhile (· != ':') = name := by
    rw [List.takeWhile_append_of_pos fun c mem => bne_iff_ne.2 (inScheme_ne_colon (all c mem)),
      List.takeWhile_cons_of_neg (by simp), List.append_nil]
  have valid : name.all inScheme := List.all_eq_true.2 all
  have shorter : name.length < (name ++ ':' :: rest).length := by simp
  simp only [scheme?, read, shorter, first, valid, decide_true, Bool.and_self, if_true]

namespace Escape

theorem length_toList_loop (bs : ByteArray) (i : Nat) (r : List UInt8) :
    (ByteArray.toList.loop bs i r).length = bs.size - i + r.length := by
  fun_induction ByteArray.toList.loop bs i r with
  | case1 i r more ih =>
    rw [ih, List.length_cons]
    omega
  | case2 i r done =>
    rw [List.length_reverse]
    omega

/-- A character has a byte. -/
theorem bytes_ne_nil (c : Char) : (String.singleton c).toUTF8.toList ≠ [] := by
  intro none
  have size : (String.singleton c).toUTF8.toList.length = (String.singleton c).utf8ByteSize :=
    length_toList_loop _ 0 []
  rw [none, String.utf8ByteSize_singleton] at size
  exact Nat.ne_of_lt (Char.utf8Size_pos c) size

/-- A character that an address does not keep is written with a mark before it. -/
theorem head_addressEntity {c : Char} (changed : isPlain c = false) :
    ∃ d ds, addressEntity c = d :: ds ∧ (d = '&' ∨ d = '%') := by
  unfold addressEntity
  rw [changed, if_neg Bool.false_ne_true]
  split
  · exact ⟨'&', _, rfl, .inl rfl⟩
  · split
    · exact ⟨'&', _, rfl, .inl rfl⟩
    · obtain ⟨b, bs, bytes⟩ := List.exists_cons_of_ne_nil (bytes_ne_nil c)
      rw [bytes]
      exact ⟨'%', _, rfl, .inr rfl⟩

/-- What is a scheme as it is written stands so in the target. -/
theorem exists_of_written : ∀ {name rest cs : List Char}, (∀ c ∈ name, inScheme c) →
    cs.flatMap addressEntity = name ++ ':' :: rest → ∃ rest', cs = name ++ ':' :: rest' := by
  have head {c e : Char} {cs es : List Char} (kept : e ≠ '&' ∧ e ≠ '%')
      (written : (c :: cs).flatMap addressEntity = e :: es) :
      c = e ∧ cs.flatMap addressEntity = es := by
    rw [List.flatMap_cons] at written
    cases plain : isPlain c with
    | true =>
      rw [addressEntity, if_pos plain] at written
      exact List.cons.inj written
    | false =>
      obtain ⟨d, ds, entity, marked⟩ := head_addressEntity plain
      rw [entity] at written
      obtain ⟨rfl, -⟩ := List.cons.inj written
      exact absurd marked (by simp [kept])
  intro name
  induction name with
  | nil =>
    intro rest cs _ written
    cases cs with
    | nil => cases written
    | cons c cs =>
      obtain ⟨rfl, -⟩ := head (by decide) written
      exact ⟨cs, rfl⟩
  | cons e name ih =>
    intro rest cs all written
    cases cs with
    | nil => cases written
    | cons c cs =>
      have kept : e ≠ '&' ∧ e ≠ '%' := by
        have := all e List.mem_cons_self
        constructor <;> rintro rfl <;> revert this <;> decide
      obtain ⟨rfl, behind⟩ := head kept written
      obtain ⟨rest', rfl⟩ := ih (fun c mem => all c (List.mem_cons_of_mem _ mem)) behind
      exact ⟨rest', rfl⟩

end Escape

/-- Escapes add no scheme to a target. -/
theorem HasScheme.of_written {name url : List Char}
    (h : HasScheme name (url.flatMap Escape.addressEntity)) : HasScheme name url := by
  obtain ⟨first, all, rest, written⟩ := h
  exact ⟨first, all, Escape.exists_of_written all written⟩

/-! ## Addresses of electronic mail -/

theorem mem_intercalate {c d : Char} {parts : List (List Char)}
    (mem : c ∈ [d].intercalate parts) : c = d ∨ ∃ part ∈ parts, c ∈ part := by
  induction parts with
  | nil => cases mem
  | cons part parts ih =>
    cases parts with
    | nil =>
      rw [List.intercalate_singleton] at mem
      exact .inr ⟨part, List.mem_singleton.2 rfl, mem⟩
    | cons part' parts =>
      rw [List.intercalate_cons_cons, List.mem_append, List.mem_append, List.mem_singleton] at mem
      rcases mem with (mem | same) | mem
      · exact .inr ⟨part, List.mem_cons_self, mem⟩
      · exact .inl same
      · exact (ih mem).imp_right fun ⟨part, inside, mem⟩ =>
          ⟨part, List.mem_cons_of_mem _ inside, mem⟩

/-- There is no colon in an address of electronic mail. -/
theorem IsAddress.colon_not_mem {cs : List Char} (h : IsAddress cs) : ':' ∉ cs := by
  obtain ⟨mailbox, parts, known, valid, rfl⟩ := h
  intro mem
  rcases List.mem_append.1 mem with mem | mem
  · exact absurd (known _ mem) (by decide)
  · rcases List.mem_cons.1 mem with same | mem
    · cases same
    · rcases mem_intercalate mem with same | ⟨part, inside, mem⟩
      · cases same
      · have all := valid part inside
        simp only [isDomainPart, Bool.and_eq_true, List.all_eq_true] at all
        exact absurd (all.1.1.2 _ mem) (by decide)

/-- The sanitizer keeps an address of electronic mail. -/
theorem Sanitizer.clean_of_isAddress (s : Sanitizer) {url : List Char} (h : IsAddress url) :
    s.clean url = url := by
  have whole : url.takeWhile (· != ':') = url :=
    List.takeWhile_eq_self_iff.2 fun c mem => bne_iff_ne.2 fun same =>
      h.colon_not_mem (same ▸ mem)
  have none : scheme? url = none := by
    simp only [scheme?, whole, Nat.lt_irrefl, decide_false, Bool.false_and, Bool.false_eq_true,
      if_false]
  rw [clean, allows, none]
  rfl

/-! ## Targets -/

/-- A target is the one that replaces others, has no scheme, or has one of some schemes, in any case
of its letters. -/
def Sanitizer.Admits (schemes : List String) (target : List Char) : Prop :=
  target = ['#'] ∨ (∀ name, ¬ HasScheme name target) ∨
    ∃ name, HasScheme name target ∧ ∃ s ∈ schemes, Text.sameLetters s (String.ofList name)

/-- The targets among some attributes as they are written. -/
def Attribute.targets (attributes : List Attribute) : List (List Char) :=
  (attributes.filter fun a => a.name = "href".toList ∨ a.name = "src".toList).map content

/-- The targets of the tag of a link or an image as they are written. -/
def Mark.targets : Mark → List (List Char)
  | .opening name attributes =>
    if name = "a" ∨ name = "img" then Attribute.targets attributes else []
  | .empty name attributes _ =>
    if name = "a" ∨ name = "img" then Attribute.targets attributes else []
  | .closing _ => []
  | .text _ => []
  | .raw _ => []
  | .newline => []

/-- A target that has been checked is admitted as it is written. -/
theorem Sanitizer.admits_clean {s : Sanitizer} {schemes : List String}
    (known : s.schemes = some schemes) (url : List Char) :
    Admits schemes ((s.clean url).flatMap Escape.addressEntity) := by
  unfold clean
  split
  · next allowed =>
    by_cases none : ∀ name, ¬ HasScheme name (url.flatMap Escape.addressEntity)
    · exact .inr (.inl none)
    · obtain ⟨name, has⟩ := Classical.not_forall_not.1 none
      refine .inr (.inr ⟨name, has, ?_⟩)
      rw [allows, scheme?_of_hasScheme has.of_written, known] at allowed
      exact List.any_eq_true.1 allowed
  · exact .inl rfl

/-- A configuration has a list of schemes. -/
theorem Sanitizer.exists_schemes {v : Value} {s : Sanitizer} (h : Sanitizer.read v = .ok s) :
    ∃ schemes, s.schemes = some schemes := by
  unfold Sanitizer.read at h
  split at h
  · cases h
    exact ⟨_, rfl⟩
  · dsimp only at h
    split at h
    · cases h
      exact ⟨_, rfl⟩
    · cases h
      exact ⟨_, rfl⟩
    · cases h
  · cases h

/-- A title is no target. -/
theorem Attribute.targets_titles (t : Target) : targets t.titles = [] := by
  unfold Target.titles
  split
  · rfl
  · rfl

/-- The tags of other elements than links and images have no targets. -/
theorem Mark.targets_of_element {name : String} (element : name ∈ elements)
    (attributes : List Attribute) (gap : List Char) :
    (Mark.opening name attributes).targets = [] ∧
      (Mark.empty name attributes gap).targets = [] := by
  have other : ¬ (name = "a" ∨ name = "img") := by
    rintro (rfl | rfl)
    · revert element
      decide
    · revert element
      decide
  exact ⟨if_neg other, if_neg other⟩

/-- Headings have no targets. -/
theorem Mark.targets_heading (level : Level) (attributes : List Attribute) :
    (Mark.opening level.name attributes).targets = [] := by
  cases level <;> simp [targets, Level.name]

/-- The targets of the tag of a link or an image that has been checked are admitted. -/
theorem Mark.admits_of_clean {s : Sanitizer} {schemes : List String}
    (known : s.schemes = some schemes) {t : Target} {url target : List Char}
    (checked : t.url = s.clean url)
    (mem : target ∈ t.url.flatMap Escape.addressEntity :: Attribute.targets t.titles) :
    Sanitizer.Admits schemes target := by
  rw [Attribute.targets_titles, List.mem_singleton, checked] at mem
  exact mem ▸ Sanitizer.admits_clean known url

namespace Makes

variable {L : Library} {text : String} {flavor : Flavor} {s : Sanitizer} {m : Mark}
  {schemes : List String}

/-- The targets of a mark are admitted unless it links to electronic mail. -/
theorem admits (made : Makes (L.sanitized text flavor s) m) (mail : L.ReadsMail)
    (known : s.schemes = some schemes) : ∀ target ∈ m.targets, Sanitizer.Admits schemes target ∨
      ∃ t, .start (.link .email t) ∈ L.events flavor.extensions text ∧ IsAddress t.url ∧
        target = ("mailto:".toList ++ t.url).flatMap Escape.addressEntity := by
  intro target mem
  cases made with
  | @link kind t inside =>
    obtain ⟨t', read, checked⟩ := Library.exists_of_mem_link inside
    by_cases isMail : kind = .email
    · subst isMail
      change target ∈ ("mailto:".toList ++ t.url).flatMap Escape.addressEntity ::
        Attribute.targets t.titles at mem
      have address := mail flavor.extensions text t' read
      rw [Attribute.targets_titles, List.mem_singleton, checked,
        s.clean_of_isAddress address] at mem
      exact .inr ⟨t', read, address, mem⟩
    · have plain : kind.scheme = [] := by cases kind <;> trivial
      change target ∈ (kind.scheme ++ t.url).flatMap Escape.addressEntity ::
        Attribute.targets t.titles at mem
      rw [plain] at mem
      exact .inl (Mark.admits_of_clean known checked mem)
  | image inside alt =>
    obtain ⟨t', -, checked⟩ := Library.exists_of_mem_image inside
    exact .inl (Mark.admits_of_clean known checked mem)
  | reference label =>
    -- the target begins with a number sign
    cases List.mem_singleton.1 mem
    refine .inl (.inr (.inl fun name ⟨first, _, rest, same⟩ => ?_))
    cases name with
    | nil => cases first
    | cons c cs =>
      cases (List.cons.inj same).1
      exact absurd (show isLetter '#' = true from first) (by decide)
  | opening element common =>
    rw [(Mark.targets_of_element element _ []).1] at mem
    cases mem
  | empty element common blank =>
    rw [(Mark.targets_of_element element _ _).2] at mem
    cases mem
  | heading inside =>
    rw [Mark.targets_heading] at mem
    cases mem
  | text => cases mem
  | newline => cases mem
  | raw => cases mem
  | closing => cases mem
  | linkEnd => cases mem
  | headingEnd => cases mem

end Makes

/-- Every target of a link or an image in generated HTML is admitted, but for the links to
electronic mail: these are not checked. -/
theorem admits_of_targets {L : Library} (balances : L.Balances) (writes : L.WritesHtml)
    (mail : L.ReadsMail) {v : Value} {s : Sanitizer} (read : Sanitizer.read v = .ok s)
    (text : String) (flavor : Flavor) :
    ∃ schemes, s.schemes = some schemes ∧ ∃ ms, L.Yields text flavor s ms ∧
      ∀ m ∈ ms, ∀ target ∈ m.targets, Sanitizer.Admits schemes target ∨
        ∃ t, .start (.link .email t) ∈ L.events flavor.extensions text ∧ IsAddress t.url ∧
          target = ("mailto:".toList ++ t.url).flatMap Escape.addressEntity := by
  obtain ⟨schemes, known⟩ := Sanitizer.exists_schemes read
  obtain ⟨ms, yields⟩ := L.exists_yields balances writes text flavor s
  exact ⟨schemes, known, ms, yields, fun m mem => (yields.makes mem).admits mail known⟩

/-- A configuration that allows one scheme. -/
def Sanitizer.secure : Value := .map [("allowedSchemes", .list [.text "https"])]

/-- A link is replaced and another one is not, depending on its scheme. -/
theorem admits_of_targets_secure :
    let s : Sanitizer := ⟨false, some ["https"]⟩
    let text := "[a](ftp:b) <HTTPS:c>"
    Sanitizer.read Sanitizer.secure = .ok s ∧
      commonMark.render text .classic s =
        "<p><a href=\"#\">a</a> <a href=\"HTTPS:c\">HTTPS:c</a></p>\n" ∧
      ∃ schemes, s.schemes = some schemes ∧ ∃ ms, commonMark.Yields text .classic s ms ∧
        ∀ m ∈ ms, ∀ target ∈ m.targets, Sanitizer.Admits schemes target ∨
          ∃ t, .start (.link .email t) ∈ commonMark.events .none text ∧ IsAddress t.url ∧
            target = ("mailto:".toList ++ t.url).flatMap Escape.addressEntity := by
  intro s text
  have read : Sanitizer.read Sanitizer.secure = .ok s := rfl
  refine ⟨read, ?_, admits_of_targets commonMark_balances commonMark_writesHtml
    commonMark_readsMail read text .classic⟩
  decide +kernel

/-- A link to electronic mail is kept where only another scheme is allowed. -/
theorem not_admits_mail :
    let s : Sanitizer := ⟨false, some ["https"]⟩
    Sanitizer.read Sanitizer.secure = .ok s ∧
      commonMark.render "<x@y.test>" .classic s =
        "<p><a href=\"mailto:x@y.test\">x@y.test</a></p>\n" ∧
      ¬ Sanitizer.Admits ["https"] "mailto:x@y.test".toList := by
  intro s
  refine ⟨rfl, by decide +kernel, ?_⟩
  rintro (replaced | without | ⟨name, has, allowed⟩)
  · revert replaced
    decide
  · have known : "mailto".toList.all inScheme := by decide
    exact without "mailto".toList ⟨rfl, List.all_eq_true.1 known, "x@y.test".toList, rfl⟩
  · cases (scheme?_of_hasScheme has).symm.trans
      (show scheme? "mailto:x@y.test".toList = some "mailto".toList by decide)
    revert allowed
    decide

end Stencil.Markdown
