import LanguageClient.Proofs.ConfigurationPulls

/-!
# What substitution changes and what it leaves alone

The policy of a key picks texts out of its value: the text of a path setting, or the texts in a list
of paths. A pass changes these texts, each for itself, and the theme; everything else stays as it
is. A text that cannot be expanded is kept, and since it is kept, the next pass keeps it too.

Resolving a section is two passes over its entries. Hence the resolved section has the keys of the
section and the theme, and every value is either the theme or the value of the section with its
paths settled. A pull is one pass over what the editor has for the items. Keys and values are kept
in two lists side by side, but each answer is that of its own item, as if it were pulled alone.
-/

namespace LanguageClient.Settings

/-- Change the texts of a value that the policy of a key picks out; all else stays as it is. -/
def onPaths (change : String → String) (key : String) (value : Json) : Json :=
  match Policy.of key with
  | .theme | .verbatim => value
  | .scalarPath => onText change value
  | .pathList => onTexts change value

/-- Two changes of a text are one. -/
theorem onText_onText (first second : String → String) (value : Json) :
    onText second (onText first value) = onText (second ∘ first) value := by
  cases value <;> rfl

/-- A change that makes no difference to a text makes none to a value. -/
theorem onText_congr {first second : String → String} {value : Json}
    (same : ∀ text ∈ value.text?, first text = second text) :
    onText first value = onText second value := by
  cases value with
  | string text => rw [onText, onText, same text rfl]
  | _ => rfl

/-- Two changes of the texts of a list are one. -/
theorem onTexts_onTexts (first second : String → String) (value : Json) :
    onTexts second (onTexts first value) = onTexts (second ∘ first) value := by
  cases value with
  | array items => simp [onTexts, onText_onText]
  | _ => rfl

/-- A change that makes no difference to the texts of a list makes none to the list. -/
theorem onTexts_congr {first second : String → String} {value : Json}
    (same : ∀ text ∈ listedTexts value, first text = second text) :
    onTexts first value = onTexts second value := by
  cases value with
  | array items =>
    rw [onTexts, onTexts, Json.array.injEq]
    apply List.map_congr_left
    intro item inside
    apply onText_congr
    intro text read
    exact same text (List.mem_filterMap.mpr ⟨item, inside, read⟩)
  | string text =>
    have here : first text = second text := same text (by simp [listedTexts, Json.text?])
    simp [onTexts, onText, here]
  | _ => rfl

/-- Two changes of the paths are one. -/
theorem onPaths_onPaths (first second : String → String) (key : String) (value : Json) :
    onPaths second key (onPaths first key value) = onPaths (second ∘ first) key value := by
  unfold onPaths
  cases Policy.of key with
  | theme => rfl
  | verbatim => rfl
  | scalarPath => exact onText_onText first second value
  | pathList => exact onTexts_onTexts first second value

/-- Changes that agree on the texts that a policy picks out change the value alike. -/
theorem onPaths_congr {first second : String → String} {key : String} {value : Json}
    (same : ∀ text ∈ expandedTexts key value, first text = second text) :
    onPaths first key value = onPaths second key value := by
  unfold expandedTexts at same
  unfold onPaths
  cases policy : Policy.of key with
  | theme => rfl
  | verbatim => rfl
  | scalarPath =>
    rw [policy] at same
    apply onText_congr
    simpa using same
  | pathList =>
    rw [policy] at same
    exact onTexts_congr same

/-- A value of a key that is kept has no paths. -/
theorem onPaths_verbatim {key : String} (kept : Policy.of key = .verbatim)
    (change : String → String) (value : Json) : onPaths change key value = value := by
  rw [onPaths, kept]

/-- A value that is no list of paths is a single path. -/
theorem onPaths_alone {key : String} {value : Json}
    (alone : Policy.of key = .scalarPath ∨
      Policy.of key = .pathList ∧ ∀ items, value ≠ .array items) (change : String → String) :
    onPaths change key value = onText change value := by
  rcases alone with single | ⟨listed, noList⟩
  · rw [onPaths, single]
  · rw [onPaths, listed]
    exact onTexts.eq_2 change value noList

/-- In a list of paths every item is a path. -/
theorem onPaths_listed {key : String} (listed : Policy.of key = .pathList)
    (change : String → String) (items : List Json) :
    onPaths change key (.array items) = .array (items.map (onText change)) := by
  rw [onPaths, listed]
  rfl

/-- One pass over a value changes its paths, unless the theme takes its place. -/
theorem rewrite_eq_onPaths (bindings : Variables) {key : String}
    (unthemed : Policy.of key ≠ .theme) (value : Json) :
    rewrite bindings key value = onPaths (afterPass bindings) key value := by
  unfold rewrite onPaths
  cases policy : Policy.of key with
  | theme => exact absurd policy unthemed
  | _ => rfl

/-- A key without a value gets none, unless it is a theme key. -/
theorem substitute_none (bindings : Variables) {key : String}
    (unthemed : Policy.of key ≠ .theme) : substitute bindings key none = none := by
  unfold substitute
  cases policy : Policy.of key with
  | theme => exact absurd policy unthemed
  | _ => rfl

/-- Where the theme takes the place of a value, it does so whatever the value is. -/
theorem rewrite_theme (bindings : Variables) {key : String} (themed : Policy.of key = .theme)
    (value : Json) : rewrite bindings key value = .string bindings.theme.preferred := by
  rw [rewrite, themed]

/-- Two passes over the paths of a value, each text for itself. -/
theorem rewrite_rewrite_eq_onPaths (bindings : Variables) {key : String}
    (unthemed : Policy.of key ≠ .theme) (value : Json) :
    rewrite bindings key (rewrite bindings key value) =
      onPaths (afterPass bindings ∘ afterPass bindings) key value := by
  rw [rewrite_eq_onPaths bindings unthemed, rewrite_eq_onPaths bindings unthemed, onPaths_onPaths]

/-- What two passes make of a value that a policy picks out. A value that is no text stays as it is,
and so does a text that cannot be expanded; what a text expands to is passed over once more. -/
inductive Settled (bindings : Variables) : Json → Json → Prop where
  | other {value : Json} (noText : value.text? = none) : Settled bindings value value
  | kept {text : String} {error : ExpansionError}
      (failed : Placeholder.expand bindings text.toList = .error error) :
      Settled bindings (.string text) (.string text)
  | expanded {text : String} {once : List Char}
      (done : Placeholder.expand bindings text.toList = .ok once) :
      Settled bindings (.string text) (.string (afterPass bindings (String.ofList once)))

/-- Two passes settle a value. -/
theorem settled_onText (bindings : Variables) (value : Json) :
    Settled bindings value (onText (afterPass bindings ∘ afterPass bindings) value) := by
  cases value with
  | string text =>
    rw [onText, Function.comp_apply]
    cases attempted : Placeholder.expand bindings text.toList with
    | error error =>
      rw [afterPass_of_error attempted, afterPass_of_error attempted]
      exact .kept attempted
    | ok once =>
      rw [afterPass_of_ok attempted]
      exact .expanded attempted
  | _ => exact .other rfl

/-- What becomes of a value is determined by the value and the variables. -/
theorem Settled.unique {bindings : Variables} {value first second : Json}
    (one : Settled bindings value first) (two : Settled bindings value second) :
    first = second := by
  cases one with
  | other noText =>
    cases two with
    | other _ => rfl
    | kept _ => rfl
    | expanded _ => simp [Json.text?] at noText
  | kept failed =>
    cases two with
    | other _ => rfl
    | kept _ => rfl
    | expanded done =>
      rw [failed] at done
      cases done
  | expanded done =>
    cases two with
    | other noText => simp [Json.text?] at noText
    | kept failed =>
      rw [failed] at done
      cases done
    | expanded again =>
      rw [done] at again
      cases again
      rfl

/-- What resolving makes of a section: the members of the resolved section, held against it. -/
structure ResolvedFrom (bindings : Variables) (raw : Json) (members : List (String × Json)) :
    Prop where
  /-- Every key is there once, and the keys are in ascending order. -/
  ascending : Json.sortedKeys members = true
  /-- The keys are those of the section and that of the theme. -/
  keys (key : String) :
    Json.find? key members ≠ none ↔ raw.member? key ≠ none ∨ key = "colorTheme"
  /-- Every theme key that is there holds the preferred theme. -/
  theme (key : String) (themed : Policy.of key = .theme) (there : Json.find? key members ≠ none) :
    Json.find? key members = some (.string bindings.theme.preferred)
  /-- A key that is kept has the value that it had, or none. -/
  verbatim (key : String) (kept : Policy.of key = .verbatim) :
    Json.find? key members = raw.member? key
  /-- A path that stands alone is settled. -/
  path (key : String) (value : Json) (set : raw.member? key = some value)
    (alone : Policy.of key = .scalarPath ∨
      Policy.of key = .pathList ∧ ∀ items, value ≠ .array items) :
    ∃ result, Json.find? key members = some result ∧ Settled bindings value result
  /-- A list of paths keeps its length, and each item is settled in its place. -/
  paths (key : String) (items : List Json) (set : raw.member? key = some (.array items))
    (listed : Policy.of key = .pathList) :
    ∃ results, Json.find? key members = some (.array results) ∧
      results.length = items.length ∧
      ∀ (index : Nat) (item : Json), items[index]? = some item →
        ∃ result, results[index]? = some result ∧ Settled bindings item result

/-- In a resolved section a key that is no theme key has its value with the paths changed twice. -/
theorem find?_resolve_unthemed (bindings : Variables) {raw : Json}
    (distinct : ((entries raw).map Entry.key).Nodup) {key : String}
    (unthemed : Policy.of key ≠ .theme) :
    Json.find? key (resolve bindings raw).values =
      (raw.member? key).map (onPaths (afterPass bindings ∘ afterPass bindings) key) := by
  have different : key ≠ "colorTheme" := by
    rintro rfl
    exact unthemed rfl
  rw [find?_resolve bindings distinct, if_neg different, Option.or_none]
  simp only [rewrite_rewrite_eq_onPaths bindings unthemed]

/-- Resolving touches themes and paths and nothing else, for any variables and any section with its
keys apart. The resolved section has the keys of the section and the theme; theme keys hold the
preferred theme; keys that are kept have the value they had; a path setting that is no text stays as
it is; a list of paths keeps its length, its other items and the place of each item. What becomes of
a text is determined by the text and the variables, whatever stands next to it, and a text that
cannot be expanded in the first pass is kept.

Proof: two passes change the texts that the policy of a key picks out, each for itself, and the
value found under a key of the resolved section went through two passes. -/
theorem resolution_touches_themes_and_paths_alone (bindings : Variables) {raw : Json}
    (distinct : ((entries raw).map Entry.key).Nodup) :
    ResolvedFrom bindings raw (resolve bindings raw).values ∧
    ∀ value first second, Settled bindings value first → Settled bindings value second →
      first = second := by
  refine ⟨?_, fun value first second one two => one.unique two⟩
  constructor
  case ascending =>
    rw [resolve_values]
    exact Json.sortedKeys_sortMembers _
  case keys =>
    intro key
    rw [find?_resolve bindings distinct]
    by_cases theme : key = "colorTheme" <;> simp [theme]
  case theme =>
    intro key themed there
    rw [find?_resolve bindings distinct] at there ⊢
    cases set : raw.member? key with
    | some value => rw [Option.map_some, Option.some_or, rewrite_theme bindings themed]
    | none =>
      rw [set] at there
      -- A theme key that the section lacks is there only if it is the one that is added.
      by_cases added : key = "colorTheme"
      · rw [if_pos added]
        rfl
      · rw [if_neg added] at there
        exact absurd rfl there
  case verbatim =>
    intro key kept
    rw [find?_resolve_unthemed bindings distinct (by simp [kept])]
    have same : onPaths (afterPass bindings ∘ afterPass bindings) key = id :=
      funext (onPaths_verbatim kept _)
    rw [same, Option.map_id_fun, id]
  case path =>
    intro key value set alone
    have unthemed : Policy.of key ≠ .theme := by
      rcases alone with single | ⟨listed, -⟩
      · simp [single]
      · simp [listed]
    rw [find?_resolve_unthemed bindings distinct unthemed, set, Option.map_some,
      onPaths_alone alone]
    exact ⟨_, rfl, settled_onText bindings value⟩
  case paths =>
    intro key items set listed
    rw [find?_resolve_unthemed bindings distinct (by simp [listed]), set, Option.map_some,
      onPaths_listed listed]
    refine ⟨_, rfl, List.length_map _, ?_⟩
    intro index item there
    refine ⟨_, ?_, settled_onText bindings item⟩
    rw [List.getElem?_map, there]
    rfl

/-- A section with settings of every policy, set as they should be and otherwise. -/
def motley : Json :=
  .object [("colorTheme", .string "dark"), ("exportPdf", .string "$\x7benv:B\x7d"),
    ("fontPaths", .array [.null, .string "$\x7bfile\x7d", .string "$\x7benv:A\x7d/fonts"]),
    ("outputPath", .bool true)]

/-- The list of paths keeps its `null` and the text that cannot be expanded, next to one that is
expanded in both passes; the flag stays in the place of a path, and the theme of the editor takes
the place of the one that was set. -/
theorem motley_is_resolved :
    ((entries motley).map Entry.key).Nodup ∧
    (∃ results, Json.find? "fontPaths" (resolve nested motley).values = some (.array results) ∧
      results.length = 3 ∧ results[0]? = some .null ∧
      results[1]? = some (.string "$\x7bfile\x7d") ∧
      results[2]? = some (.string "/srv/thesis/fonts")) ∧
    Json.find? "exportPdf" (resolve nested motley).values = some (.string "$\x7benv:B\x7d") ∧
    Json.find? "outputPath" (resolve nested motley).values = some (.bool true) ∧
    Json.find? "colorTheme" (resolve nested motley).values = some (.string "light") := by
  have distinct : ((entries motley).map Entry.key).Nodup := by decide
  obtain ⟨resolved, unique⟩ := resolution_touches_themes_and_paths_alone nested distinct
  refine ⟨distinct, ?_, resolved.verbatim _ rfl, ?_, ?_⟩
  · obtain ⟨results, found, size, settled⟩ := resolved.paths "fontPaths" _ rfl rfl
    refine ⟨results, found, size, ?_, ?_, ?_⟩
    · obtain ⟨result, there, null⟩ := settled 0 _ rfl
      rw [there, unique _ _ _ null (.other rfl)]
    · have missing : Placeholder.expand nested "$\x7bfile\x7d".toList =
          .error (.unavailable "file") := by decide +kernel
      obtain ⟨result, there, text⟩ := settled 1 _ rfl
      rw [there, unique _ _ _ text (.kept missing)]
    · have once : Placeholder.expand nested "$\x7benv:A\x7d/fonts".toList =
          .ok "$\x7benv:B\x7d/fonts".toList := by decide +kernel
      have twice : afterPass nested (String.ofList "$\x7benv:B\x7d/fonts".toList) =
          "/srv/thesis/fonts" := by decide +kernel
      obtain ⟨result, there, text⟩ := settled 2 _ rfl
      rw [there, unique _ _ _ text (.expanded once), twice]
  · obtain ⟨result, found, settled⟩ := resolved.path "outputPath" (.bool true) rfl (.inl rfl)
    rw [found, unique _ _ _ settled (.other rfl)]
  · exact resolved.theme _ rfl ((resolved.keys _).mpr (.inr rfl))

/-- The answer that an item of a pull is due, by its key and by what the editor has for it. -/
inductive DueAnswer (bindings : Variables) : Option String → Option Json → Json → Prop where
  /-- An item without a key is answered by `null`. -/
  | unnamed {set : Option Json} : DueAnswer bindings none set .null
  /-- A theme key is answered by the preferred theme, whatever the editor has. -/
  | theme {key : String} {set : Option Json} (themed : Policy.of key = .theme) :
      DueAnswer bindings (some key) set (.string bindings.theme.preferred)
  /-- The whole section is answered by the resolved section. -/
  | whole {members : List (String × Json)} :
      DueAnswer bindings (some sectionName) (some (.object members))
        (resolve bindings (.object members)).toJson
  /-- What the editor does not have is answered by `null`. -/
  | unset {key : String} (unthemed : Policy.of key ≠ .theme) :
      DueAnswer bindings (some key) none .null
  /-- Anything else is answered by what the editor has, after one pass over its paths. -/
  | setting {key : String} {value : Json} (unthemed : Policy.of key ≠ .theme)
      (part : key = sectionName → ∀ members, value ≠ .object members) :
      DueAnswer bindings (some key) (some value) (onPaths (afterPass bindings) key value)

/-- What an item is due is determined by its key and by what the editor has for it. -/
theorem DueAnswer.unique {bindings : Variables} {key : Option String} {set : Option Json}
    {first second : Json} (one : DueAnswer bindings key set first)
    (two : DueAnswer bindings key set second) : first = second := by
  cases one with
  | unnamed =>
    cases two
    rfl
  | theme themed =>
    cases two with
    | theme _ => rfl
    | whole => exact absurd themed (by decide)
    | unset unthemed => exact absurd themed unthemed
    | setting unthemed _ => exact absurd themed unthemed
  | whole =>
    cases two with
    | theme themed => exact absurd themed (by decide)
    | whole => rfl
    | setting _ part => exact absurd rfl (part rfl _)
  | unset unthemed =>
    cases two with
    | theme themed => exact absurd themed unthemed
    | unset _ => rfl
  | setting unthemed part =>
    cases two with
    | theme themed => exact absurd themed unthemed
    | whole => exact absurd rfl (part rfl _)
    | setting _ _ => rfl

/-- A value is its own answer, unless it is the whole section. -/
theorem answer_part (bindings : Variables) {key : String} {value : Json}
    (part : key = sectionName → ∀ members, value ≠ .object members) :
    answer bindings (some key) (some value) = value := by
  cases value with
  | object members =>
    have different : key ≠ sectionName := fun whole => part whole members rfl
    rw [answer, if_neg different]
  | _ => rfl

namespace Pull

/-- Every item is answered as it is due. -/
theorem answerTo_due (lookup : String → Option Json) (bindings : Variables) (item : PullItem) :
    DueAnswer bindings item.key (item.key.bind lookup) (answerTo lookup bindings item) := by
  unfold answerTo
  cases item.key with
  | none => exact .unnamed
  | some key =>
    rw [Option.bind_some, Option.bind_some]
    by_cases themed : Policy.of key = .theme
    · rw [substitute, themed]
      exact .theme themed
    · cases set : lookup key with
      | none =>
        rw [substitute_none bindings themed]
        exact .unset themed
      | some value =>
        rw [substitute_some, rewrite_eq_onPaths bindings themed]
        -- The section as a whole has no paths, so it is still an object when it is answered.
        by_cases whole : key = sectionName ∧ ∃ members, value = .object members
        · obtain ⟨rfl, members, rfl⟩ := whole
          exact .whole
        · have part : key = sectionName → ∀ members, value ≠ .object members :=
            fun same members object => whole ⟨same, members, object⟩
          rw [answer_part]
          · exact .setting themed part
          · rintro rfl
            exact part rfl

end Pull

/-- Pulls are answered item by item, for any variables and whatever the editor has. The answers to
two lists of items are the answers to the one and then to the other, and there are as many answers
as items. Each answer is the one that its item is due, and it is the same in any other pull, at any
other place and from any other editor that has the same for this key.

Proof: the lists of keys and of values have an entry for every item, so that they stay in step, and
the answers are those to the single items. -/
theorem pulls_are_answered_item_by_item (lookup : String → Option Json) (bindings : Variables) :
    (∀ first second : List PullItem,
      (Pull.mk (first ++ second)).answers lookup bindings =
        (Pull.mk first).answers lookup bindings ++ (Pull.mk second).answers lookup bindings) ∧
    ∀ pull : Pull, (pull.answers lookup bindings).length = pull.items.length ∧
      ∀ (index : Nat) (item : PullItem), pull.items[index]? = some item →
        ∃ value, (pull.answers lookup bindings)[index]? = some value ∧
          DueAnswer bindings item.key (item.key.bind lookup) value ∧
          ∀ (otherLookup : String → Option Json) (other : Pull) (place : Nat) (asked : PullItem),
            other.items[place]? = some asked → asked.key = item.key →
            (∀ key ∈ item.key, otherLookup key = lookup key) →
            (other.answers otherLookup bindings)[place]? = some value := by
  constructor
  · intro first second
    simp only [Pull.answers_eq_map, List.map_append]
  · intro pull
    constructor
    · rw [Pull.answers_eq_map, List.length_map]
    · intro index item there
      refine ⟨Pull.answerTo lookup bindings item, ?_, Pull.answerTo_due lookup bindings item, ?_⟩
      · rw [Pull.answers_eq_map, List.getElem?_map, there]
        rfl
      · intro otherLookup other place asked elsewhere sameKey agree
        have sameSetting : asked.key.bind otherLookup = item.key.bind lookup := by
          rw [sameKey]
          cases named : item.key with
          | none => rfl
          | some key => exact agree key named
        have due := Pull.answerTo_due otherLookup bindings asked
        rw [sameSetting, sameKey] at due
        rw [Pull.answers_eq_map, List.getElem?_map, elsewhere, Option.map_some,
          due.unique (Pull.answerTo_due lookup bindings item)]

/-- A pull with gaps: a setting that is not set, an item without a key, the theme, and a setting
with a placeholder. -/
def gappyPull : Pull :=
  ⟨[⟨none, some (inSection "outputPath")⟩, ⟨none, none⟩, ⟨none, some (inSection "colorTheme")⟩,
    ⟨none, some (inSection "rootPath")⟩]⟩

/-- The gaps are answered in their places, so that the theme, which the editor does not have, and
the setting behind them get their own answers; the setting gets the one of another pull. -/
theorem gappyPull_is_answered :
    (gappyPull.answers thesisLookup nested).length = 4 ∧
    (gappyPull.answers thesisLookup nested)[0]? = some .null ∧
    (gappyPull.answers thesisLookup nested)[1]? = some .null ∧
    thesisLookup (inSection "colorTheme") = none ∧
    (gappyPull.answers thesisLookup nested)[2]? = some (.string "light") ∧
    (gappyPull.answers thesisLookup nested)[3]? = (thesisPull.answers thesisLookup nested)[0]? := by
  have noOutput : thesisLookup (inSection "outputPath") = none := by decide
  have noTheme : thesisLookup (inSection "colorTheme") = none := by decide
  obtain ⟨size, answered⟩ := (pulls_are_answered_item_by_item thesisLookup nested).2 gappyPull
  refine ⟨size, ?_, ?_, noTheme, ?_, ?_⟩
  · obtain ⟨value, found, due, -⟩ := answered 0 _ rfl
    rw [Option.bind_some, noOutput] at due
    rw [found, due.unique (.unset (by decide))]
  · obtain ⟨value, found, due, -⟩ := answered 1 _ rfl
    rw [found, due.unique .unnamed]
  · obtain ⟨value, found, due, -⟩ := answered 2 _ rfl
    rw [found, due.unique (.theme rfl)]
    rfl
  · obtain ⟨value, found, -, elsewhere⟩ := answered 3 _ rfl
    rw [found]
    exact (elsewhere thesisLookup thesisPull 0 _ rfl rfl fun _ _ => rfl).symm

end LanguageClient.Settings
