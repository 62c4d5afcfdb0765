import LanguageClient.Proofs.SettingsFrame

/-!
# One pass suffices for plain values

A second pass finds something to do only if the first one leaves an opening behind. The parts of a
text between its placeholders hold none. So an opening is part of a value, or it comes about where
parts meet: a dollar sign before a value that begins with a brace, a value that ends with a dollar
sign before a brace, or a dollar sign and a brace between which a value is empty. A plain value is
not empty and holds neither a dollar sign nor a brace, which rules out all of them. If all values
are plain, what a text expands to expands to itself, and resolving a section is a single pass.
-/

namespace LanguageClient

namespace Placeholder

set_option linter.unusedVariables false in
/-- The names in the placeholders of a text, from left to right; a placeholder that is not closed
has none. -/
def names (text : List Char) : List (List Char) :=
  match found : front text with
  | .plain => []
  | .unclosed _ => []
  | .placeholder _ name rest => name :: names rest
termination_by text.length
decreasing_by exact front_shorter found

/-- The name in the first placeholder comes first, and then those in the rest of the text. -/
theorem names_written {before name : List Char} (closed : ¬ opening <:+: before)
    (unended : '\x7d' ∉ name) (rest : List Char) :
    names (before ++ written name ++ rest) = name :: names rest := by
  have found := front_placeholder closed unended rest
  rw [names]
  split
  · rename_i plain
    rw [found] at plain
    cases plain
  · rename_i unclosed
    rw [found] at unclosed
    cases unclosed
  · rename_i first
    rw [found] at first
    cases first
    rfl

/-- A value with which no opening can come about. -/
def Plain (value : List Char) : Prop := value ≠ [] ∧ '$' ∉ value ∧ '\x7b' ∉ value

instance (value : List Char) : Decidable (Plain value) :=
  inferInstanceAs (Decidable (value ≠ [] ∧ '$' ∉ value ∧ '\x7b' ∉ value))

namespace Plain

variable {value : List Char}

/-- A plain value holds no opening. -/
theorem closed (plain : Plain value) : ¬ opening <:+: value := by
  intro opened
  apply plain.2.1
  exact opened.subset List.mem_cons_self

/-- No opening comes about where a plain value begins. -/
theorem apart_before (plain : Plain value) (before : List Char) : Apart before value := by
  rintro ⟨-, brace⟩
  apply plain.2.2
  exact List.mem_of_head? brace

/-- No opening comes about where a plain value ends. -/
theorem apart_after (plain : Plain value) (before after : List Char) :
    Apart (before ++ value) after := by
  rintro ⟨dollar, -⟩
  obtain ⟨last, ends⟩ := Option.ne_none_iff_exists'.mp (mt List.getLast?_eq_none_iff.mp plain.1)
  rw [List.getLast?_append, ends, Option.some_or] at dollar
  apply plain.2.1
  exact List.mem_of_getLast? (ends.trans dollar)

end Plain

/-- Every placeholder of a text that is resolved has a plain value. -/
def ResolvesPlainly (bindings : Variables) (text : List Char) : Prop :=
  ∀ name ∈ names text, ∀ value, resolve bindings name = .ok value → Plain value

instance (bindings : Variables) (text : List Char) : Decidable (ResolvesPlainly bindings text) :=
  decidable_of_iff
    (∀ name ∈ names text, ∀ value ∈ (resolve bindings name).toOption, Plain value)
    (forall₂_congr fun name _ => forall_congr' fun value => by
      cases resolve bindings name <;> simp [Except.toOption])

/-- What a text with plain values expands to holds no opening. -/
theorem closed_of_expand {bindings : Variables} {text expanded : List Char}
    (plainly : ResolvesPlainly bindings text) (done : expand bindings text = .ok expanded) :
    ¬ opening <:+: expanded := by
  induction text using parts_induction generalizing expanded with
  | plain text closed =>
    rw [expand_closed bindings closed] at done
    obtain rfl := Except.ok.inj done
    exact closed
  | unclosed before body closed unended =>
    rw [expand_unclosed bindings closed unended] at done
    cases done
  | placeholder before name rest closed unended inductionHypothesis =>
    obtain ⟨value, tail, resolved, tailed, rfl⟩ := of_expand_written closed unended done
    rw [ResolvesPlainly, names_written closed unended] at plainly
    have plain : Plain value := plainly name List.mem_cons_self value resolved
    have closedTail : ¬ opening <:+: tail := by
      apply inductionHypothesis _ tailed
      intro later inside
      exact plainly later (List.mem_cons_of_mem name inside)
    -- Both seams of the value are apart, so the three closed parts make one closed text.
    have closedFront := closed_append closed plain.closed (plain.apart_before before)
    exact closed_append closedFront closedTail (plain.apart_after before tail)

end Placeholder

namespace Settings

open Placeholder (ResolvesPlainly)

/-- A second pass over a text with plain values makes no difference. -/
theorem afterPass_afterPass {bindings : Variables} {text : String}
    (plainly : ResolvesPlainly bindings text.toList) :
    afterPass bindings (afterPass bindings text) = afterPass bindings text := by
  cases attempted : Placeholder.expand bindings text.toList with
  | error error => rw [afterPass_of_error attempted, afterPass_of_error attempted]
  | ok expanded =>
    have closed := Placeholder.closed_of_expand plainly attempted
    rw [afterPass_of_ok attempted, afterPass, String.toList_ofList,
      Placeholder.expand_closed bindings closed]

/-- Every text of a value that the policy of a key picks out has plain values. -/
def PlainPaths (bindings : Variables) (entry : Entry) : Prop :=
  ∀ value ∈ entry.value, ∀ text ∈ expandedTexts entry.key value,
    ResolvesPlainly bindings text.toList

instance (bindings : Variables) (entry : Entry) : Decidable (PlainPaths bindings entry) :=
  inferInstanceAs (Decidable (∀ value ∈ entry.value, ∀ text ∈ expandedTexts entry.key value,
    ResolvesPlainly bindings text.toList))

/-- A second pass over an entry with plain values makes no difference. -/
theorem substitute_substitute {bindings : Variables} {entry : Entry}
    (plain : PlainPaths bindings entry) :
    substitute bindings entry.key (substitute bindings entry.key entry.value) =
      substitute bindings entry.key entry.value := by
  by_cases themed : Policy.of entry.key = .theme
  · simp only [substitute, themed]
  · cases set : entry.value with
    | none => rw [substitute_none bindings themed, substitute_none bindings themed]
    | some value =>
      rw [substitute_some, substitute_some, rewrite_rewrite_eq_onPaths bindings themed,
        rewrite_eq_onPaths bindings themed]
      congr 1
      apply onPaths_congr
      intro text picked
      exact afterPass_afterPass (plain value set text picked)

/-- A pass over entries is one over each of them. -/
theorem substituteAll_entries (bindings : Variables) (value : Entry → Option Json)
    (items : List Entry) :
    substituteAll bindings ((items.map Entry.key).map some) (items.map value) =
      items.map fun entry => substitute bindings entry.key (value entry) := by
  rw [List.map_map, substituteAll_map]
  rfl

/-- The entry for the theme that is added has no value, and so it has plain values. -/
theorem plainPaths_entriesWithTheme {bindings : Variables} {raw : Json}
    (plain : ∀ entry ∈ entries raw, PlainPaths bindings entry) :
    ∀ entry ∈ entriesWithTheme raw, PlainPaths bindings entry := by
  intro entry inside
  unfold entriesWithTheme at inside
  dsimp only at inside
  split at inside
  · exact plain entry inside
  · rcases List.mem_append.mp inside with own | added
    · exact plain entry own
    · rw [List.mem_singleton.mp added]
      intro value set
      cases set

/-- One pass suffices for plain values, whatever the variables are. If every placeholder of a text
that is resolved has a value that is not empty and holds neither a dollar sign nor a brace, what the
text expands to holds no opening, and it expands to itself. So the second pass over a section makes
no difference if every text of its entries that a policy picks out is such a text: the resolved
section is the one after the first pass.

Proof: by the parts of the text. No opening comes about where a plain value begins or ends, and
there is none between. A text that cannot be expanded is kept in both passes. -/
theorem one_pass_suffices_for_plain_values (bindings : Variables) :
    (∀ text expanded, ResolvesPlainly bindings text →
      Placeholder.expand bindings text = .ok expanded →
      ¬ Placeholder.opening <:+: expanded ∧
        Placeholder.expand bindings expanded = .ok expanded) ∧
    ∀ raw : Json, (∀ entry ∈ entries raw, PlainPaths bindings entry) →
      let keys := (entriesWithTheme raw).map Entry.key
      let pass := substituteAll bindings (keys.map some)
      let once := pass ((entriesWithTheme raw).map Entry.value)
      pass once = once ∧ resolve bindings raw = ⟨Json.sortMembers (present keys once)⟩ := by
  constructor
  · intro text expanded plainly done
    have closed := Placeholder.closed_of_expand plainly done
    exact ⟨closed, Placeholder.expand_closed bindings closed⟩
  · intro raw plain keys pass once
    have again : pass once = once := by
      simp only [once, pass, keys, substituteAll_entries]
      apply List.map_congr_left
      intro entry inside
      exact substitute_substitute (plainPaths_entriesWithTheme plain entry inside)
    refine ⟨again, ?_⟩
    change Resolved.mk (Json.sortMembers (present keys (pass once))) = _
    rw [again]

/-- Variables of which one has a plain value and one is empty. -/
def lodging : Variables :=
  { Variables.empty with environment := [("A", "/srv/thesis"), ("E", "")] }

/-- A section in which a dollar sign and a brace stand next to a placeholder, and in which one text
cannot be expanded. -/
def bracketed : Json :=
  .object [
    ("fontPaths", .array [.string "$$\x7benv:A\x7d\x7b$", .string "$\x7benv:A\x7d$\x7bcwd\x7d"]),
    ("rootPath", .string "$\x7benv:A\x7d")]

/-- The dollar sign and the brace around the value stay apart, and after one pass the section is
resolved. -/
theorem bracketed_needs_one_pass :
    ResolvesPlainly lodging "$$\x7benv:A\x7d\x7b$".toList ∧
    Placeholder.expand lodging "$/srv/thesis\x7b$".toList = .ok "$/srv/thesis\x7b$".toList ∧
    (∀ entry ∈ entries bracketed, PlainPaths lodging entry) ∧
    resolve lodging bracketed = ⟨[("colorTheme", .string "light"),
      ("fontPaths", .array [.string "$/srv/thesis\x7b$", .string "$\x7benv:A\x7d$\x7bcwd\x7d"]),
      ("rootPath", .string "/srv/thesis")]⟩ := by
  obtain ⟨texts, sections⟩ := one_pass_suffices_for_plain_values lodging
  have plainly : ResolvesPlainly lodging "$$\x7benv:A\x7d\x7b$".toList := by decide +kernel
  have once : Placeholder.expand lodging "$$\x7benv:A\x7d\x7b$".toList =
      .ok "$/srv/thesis\x7b$".toList := by decide +kernel
  have plain : ∀ entry ∈ entries bracketed, PlainPaths lodging entry := by decide +kernel
  refine ⟨plainly, (texts _ _ plainly once).2, plain, ?_⟩
  rw [(sections bracketed plain).2]
  decide +kernel

/-- An empty value is not plain: it brings a dollar sign and a brace together. -/
example : Placeholder.expand lodging "$$\x7benv:E\x7d\x7benv:A\x7d".toList =
    .ok "$\x7benv:A\x7d".toList := by decide +kernel

end Settings

end LanguageClient
