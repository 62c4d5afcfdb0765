import LanguageClient.Proofs.Expansion
import LanguageClient.Proofs.Members
import LanguageClient.Settings.Pull

/-!
# Options at the start and pulls of the configuration

The server learns a setting in three ways: among the options at the start, in a pull of the whole
section, and in a pull of this one setting. The policy of a key is the same with and without the
name of the section. But the options and the whole section pass through the substitution twice,
and a single setting passes once. So the options and the whole section always agree, and the single
setting agrees with them exactly if the second pass finds nothing to do: every text that it would
expand expands to itself or cannot be expanded. A text without an opening is such a text; a text
that came out of a variable need not be.

What a pass makes of a value is said by its texts: each is replaced by what it expands to, or kept
if it cannot be expanded. The substitution of the program is shown to be that.
-/

namespace LanguageClient

namespace Settings

/-- A text after one pass: what it expands to, or the text itself if it cannot be expanded. -/
def afterPass (bindings : Variables) (text : String) : String :=
  match Placeholder.expand bindings text.toList with
  | .ok expanded => String.ofList expanded
  | .error _ => text

/-- A text that cannot be expanded stays as it is. -/
theorem afterPass_of_error {bindings : Variables} {text : String} {error : ExpansionError}
    (failed : Placeholder.expand bindings text.toList = .error error) :
    afterPass bindings text = text := by
  rw [afterPass, failed]

/-- A text that can be expanded is expanded. -/
theorem afterPass_of_ok {bindings : Variables} {text : String} {expanded : List Char}
    (done : Placeholder.expand bindings text.toList = .ok expanded) :
    afterPass bindings text = String.ofList expanded := by
  rw [afterPass, done]

/-- Change a text; any other value stays as it is. -/
def onText (change : String → String) : Json → Json
  | .string text => .string (change text)
  | other => other

/-- Change the texts of a list, or a single text. -/
def onTexts (change : String → String) : Json → Json
  | .array items => .array (items.map (onText change))
  | other => onText change other

/-- Expanding a value is a pass over its text. -/
theorem expandValue_eq_onText (bindings : Variables) (value : Json) :
    expandValue bindings value = onText (afterPass bindings) value := by
  cases value with
  | string text =>
    rw [expandValue, onText, afterPass]
    cases Placeholder.expand bindings text.toList <;> rfl
  | _ => rfl

/-- Expanding a list is a pass over its texts. -/
theorem expandList_eq_onTexts (bindings : Variables) (value : Json) :
    expandList bindings value = onTexts (afterPass bindings) value := by
  cases value <;> simp [expandList, onTexts, expandValue_eq_onText]

/-- Expanding a text makes no difference: it expands to itself, or it cannot be expanded. -/
def Spent (bindings : Variables) (text : String) : Prop :=
  ∀ expanded, Placeholder.expand bindings text.toList = .ok expanded → expanded = text.toList

/-- A text without an opening is spent. -/
theorem spent_of_closed (bindings : Variables) {text : String}
    (closed : ¬ Placeholder.opening <:+: text.toList) : Spent bindings text := by
  intro expanded done
  rw [Placeholder.expand_closed bindings closed] at done
  exact (Except.ok.inj done).symm

/-- A pass makes no difference to a text exactly if it is spent. -/
theorem afterPass_eq_self_iff (bindings : Variables) (text : String) :
    afterPass bindings text = text ↔ Spent bindings text := by
  unfold afterPass Spent
  cases Placeholder.expand bindings text.toList with
  | error error => simp
  | ok expanded => simp [String.ext_iff]

/-- A change makes no difference to a value exactly if it makes none to its text. -/
theorem onText_eq_self_iff (change : String → String) (value : Json) :
    onText change value = value ↔ ∀ text ∈ value.text?, change text = text := by
  cases value <;> simp [onText, Json.text?]

/-- The texts of a list, or of a single value. -/
def listedTexts : Json → List String
  | .array items => items.filterMap Json.text?
  | other => other.text?.toList

/-- A change makes no difference to a list exactly if it makes none to the texts in it. -/
theorem onTexts_eq_self_iff (change : String → String) (value : Json) :
    onTexts change value = value ↔ ∀ text ∈ listedTexts value, change text = text := by
  have single (other : Json) := onText_eq_self_iff change other
  cases value with
  | array items =>
    have each : items.map (onText change) = items ↔ ∀ item ∈ items, onText change item = item := by
      simpa using List.map_inj_left (l := items) (f := onText change) (g := id)
    simp only [onTexts, Json.array.injEq, each, single, listedTexts, List.mem_filterMap]
    constructor
    · rintro same text ⟨item, inside, read⟩
      exact same item inside text read
    · exact fun same item inside text read => same text ⟨item, inside, read⟩
  | _ => simpa [onTexts, listedTexts] using single _

/-- The texts of a value that the policy of a key expands. -/
def expandedTexts (key : String) (value : Json) : List String :=
  match Policy.of key with
  | .theme | .verbatim => []
  | .scalarPath => value.text?.toList
  | .pathList => listedTexts value

/-- One pass over the value of a key: the theme takes the place of a theme, and the texts of a path
or of a list of paths are passed over. -/
def rewrite (bindings : Variables) (key : String) (value : Json) : Json :=
  match Policy.of key with
  | .theme => .string bindings.theme.preferred
  | .scalarPath => onText (afterPass bindings) value
  | .pathList => onTexts (afterPass bindings) value
  | .verbatim => value

/-- A value that is there is rewritten. -/
theorem substitute_some (bindings : Variables) (key : String) (value : Json) :
    substitute bindings key (some value) = some (rewrite bindings key value) := by
  unfold substitute rewrite
  cases Policy.of key with
  | theme => rfl
  | scalarPath => exact congrArg some (expandValue_eq_onText bindings value)
  | pathList => exact congrArg some (expandList_eq_onTexts bindings value)
  | verbatim => rfl

/-- A second pass makes no difference exactly if every text that it would expand is spent. -/
theorem rewrite_rewrite_iff (bindings : Variables) (key : String) (value : Json) :
    rewrite bindings key (rewrite bindings key value) = rewrite bindings key value ↔
      ∀ text ∈ expandedTexts key (rewrite bindings key value), Spent bindings text := by
  simp only [← afterPass_eq_self_iff]
  unfold rewrite expandedTexts
  cases Policy.of key with
  | theme => simp
  | verbatim => simp
  | scalarPath => simpa using onText_eq_self_iff (afterPass bindings) _
  | pathList => exact onTexts_eq_self_iff (afterPass bindings) _

/-- The keys that are substituted, without the name of the section. -/
def bareKeys : List String := ["colorTheme", "serverPath", "rootPath", "outputPath", "fontPaths"]

/-- The key of a setting with the name of the section in front. -/
def inSection (key : String) : String := "tinymist." ++ key

/-- The values of all other keys are kept, with and without the name of the section. -/
theorem Policy.of_eq_verbatim {key : String} (other : key ∉ bareKeys ++ bareKeys.map inSection) :
    Policy.of key = .verbatim := by
  apply Policy.of.eq_11 <;>
  · rintro rfl
    exact other (by decide)

/-- The keys that are substituted are bare. -/
theorem bareKeys_bare {key : String} (bare : key ∈ bareKeys) (rest : String) :
    key ≠ inSection rest := by
  rintro rfl
  have initials : ∀ key ∈ bareKeys, key.toList.head? ≠ some 't' := by decide
  refine initials _ bare ?_
  simp [inSection]

/-- A bare key and the same key in its section are under one policy. -/
theorem Policy.of_inSection {key : String} (bare : ∀ rest, key ≠ inSection rest) :
    Policy.of (inSection key) = Policy.of key := by
  by_cases substituted : key ∈ bareKeys
  · have same : ∀ key ∈ bareKeys, Policy.of (inSection key) = Policy.of key := by decide
    exact same key substituted
  · have injective {first second : String} (same : inSection first = inSection second) :
        first = second := by
      simpa [inSection] using same
    have outside : inSection key ∉ bareKeys ++ bareKeys.map inSection := by
      rw [List.mem_append, List.mem_map]
      rintro (inside | ⟨other, listed, same⟩)
      · exact bareKeys_bare inside key rfl
      · exact substituted (injective same ▸ listed)
    have kept : key ∉ bareKeys ++ bareKeys.map inSection := by
      rw [List.mem_append, List.mem_map]
      rintro (inside | ⟨other, -, same⟩)
      · exact substituted inside
      · exact bare other same.symm
    rw [of_eq_verbatim outside, of_eq_verbatim kept]

/-- One pass is the same for a bare key and for the key in its section. -/
theorem rewrite_inSection (bindings : Variables) {key : String}
    (bare : ∀ rest, key ≠ inSection rest) (value : Json) :
    rewrite bindings (inSection key) value = rewrite bindings key value := by
  rw [rewrite, Policy.of_inSection bare, rewrite]

/-- A pass goes through keys and values side by side. -/
theorem substituteAll_map {α : Type} (bindings : Variables) (key : α → Option String)
    (value : α → Option Json) (items : List α) :
    substituteAll bindings (items.map key) (items.map value) =
      items.map fun item => match key item with
        | some key => substitute bindings key (value item)
        | none => value item := by
  induction items with
  | nil => rfl
  | cons item items inductionHypothesis =>
    simp only [List.map_cons]
    cases key item with
    | some found => rw [substituteAll, inductionHypothesis]
    | none => rw [substituteAll, inductionHypothesis]

/-- Values that are there contribute a member each. -/
theorem present_map {α : Type} (key : α → String) (value : α → Option Json) (items : List α) :
    present (items.map key) (items.map value) =
      items.filterMap fun item => (value item).map (key item, ·) := by
  induction items with
  | nil => rfl
  | cons item items inductionHypothesis =>
    simp only [List.map_cons, List.filterMap_cons]
    cases value item with
    | some found => rw [present, inductionHypothesis, Option.map_some]
    | none => rw [present, inductionHypothesis, Option.map_none]

/-- What becomes of an entry in two passes. -/
def Entry.resolved? (bindings : Variables) (entry : Entry) : Option (String × Json) :=
  (substitute bindings entry.key (substitute bindings entry.key entry.value)).map (entry.key, ·)

/-- An entry keeps its key. -/
theorem Entry.resolved?_key {bindings : Variables} {entry : Entry} {field : String × Json}
    (resolved : entry.resolved? bindings = some field) : field.1 = entry.key := by
  obtain ⟨value, -, rfl⟩ := Option.map_eq_some_iff.mp resolved
  rfl

/-- Resolving a section sorts what becomes of its entries. -/
theorem resolve_values (bindings : Variables) (raw : Json) :
    (resolve bindings raw).values =
      Json.sortMembers ((entriesWithTheme raw).filterMap (Entry.resolved? bindings)) := by
  simp only [resolve, List.map_map]
  rw [substituteAll_map, substituteAll_map, present_map]
  rfl

/-- The keys of the entries differ if those of the section do. -/
theorem entriesWithTheme_keys {raw : Json} (distinct : ((entries raw).map Entry.key).Nodup) :
    ((entriesWithTheme raw).map Entry.key).Nodup := by
  unfold entriesWithTheme
  dsimp only
  split
  · exact distinct
  · rename_i unthemed
    rw [List.map_append, List.nodup_append]
    refine ⟨distinct, by simp, ?_⟩
    rintro key present theme added rfl
    rw [List.mem_singleton.mp added] at present
    obtain ⟨entry, inside, named⟩ := List.mem_map.mp present
    exact unthemed (List.any_eq_true.mpr ⟨entry, inside, beq_iff_eq.mpr named⟩)

/-- A section has an entry of a key if it has a member of this key. -/
theorem any_entries (raw : Json) (key : String) :
    (entries raw).any (·.key == key) = (raw.member? key).isSome := by
  cases raw with
  | object members =>
    rw [Json.member?]
    induction members with
    | nil => rfl
    | cons member members inductionHypothesis =>
      obtain ⟨other, value⟩ := member
      rw [entries, List.map_cons, List.any_cons, Json.find?]
      by_cases same : other = key
      · simp [same]
      · have unlike : (other == key) = false := by simpa using same
        rw [unlike, Bool.false_or, if_neg same]
        exact inductionHypothesis
  | _ => rfl

/-- Among what becomes of the entries of a section the value of a key went through two passes. -/
theorem lookup_resolved? (bindings : Variables) (raw : Json) (key : String) :
    ((entries raw).filterMap (Entry.resolved? bindings)).lookup key =
      (raw.member? key).map fun value => rewrite bindings key (rewrite bindings key value) := by
  cases raw with
  | object members =>
    rw [Json.member?]
    induction members with
    | nil => rfl
    | cons member members inductionHypothesis =>
      obtain ⟨other, value⟩ := member
      have first : Entry.resolved? bindings ⟨other, some value⟩ =
          some (other, rewrite bindings other (rewrite bindings other value)) := by
        simp [Entry.resolved?, substitute_some]
      rw [entries, List.map_cons, List.filterMap_cons, first]
      dsimp only
      by_cases same : key = other
      · subst same
        simp [Json.find?]
      · have unlike : (key == other) = false := by simpa using same
        rw [List.lookup_cons, unlike, Json.find?, if_neg (Ne.symm same)]
        exact inductionHypothesis
  | _ => rfl

/-- In a resolved section the value of every key went through two passes, and the theme is there in
any case. -/
theorem find?_resolve (bindings : Variables) {raw : Json}
    (distinct : ((entries raw).map Entry.key).Nodup) (key : String) :
    Json.find? key (resolve bindings raw).values =
      ((raw.member? key).map fun value => rewrite bindings key (rewrite bindings key value)).or
        (if key = "colorTheme" then some (.string bindings.theme.preferred) else none) := by
  have keys : (((entriesWithTheme raw).filterMap (Entry.resolved? bindings)).map
      Prod.fst).Nodup := by
    rw [List.Nodup, List.pairwise_map, List.pairwise_filterMap]
    refine (List.pairwise_map.mp (entriesWithTheme_keys distinct)).imp ?_
    intro first second apart field resolved other resolvedToo
    rw [Entry.resolved?_key resolved, Entry.resolved?_key resolvedToo]
    exact apart
  rw [resolve_values, Json.find?_sortMembers keys, Json.find?_eq_lookup, entriesWithTheme,
    any_entries]
  split
  · rename_i themed
    -- The section has the theme itself, so the second alternative is never looked at.
    rw [lookup_resolved?]
    by_cases theme : key = "colorTheme"
    · subst theme
      obtain ⟨value, found⟩ := Option.isSome_iff_exists.mp themed
      rw [found]
      rfl
    · rw [if_neg theme, Option.or_none]
  · have added : [⟨"colorTheme", none⟩].filterMap (Entry.resolved? bindings) =
        [("colorTheme", .string bindings.theme.preferred)] := rfl
    rw [List.filterMap_append, added, List.lookup_append, lookup_resolved?]
    by_cases theme : key = "colorTheme"
    · subst theme
      rfl
    · have unlike : (key == "colorTheme") = false := by simpa using theme
      rw [List.lookup_cons, unlike, if_neg theme]
      rfl

/-- In a resolved object the value of every key of the object went through two passes. -/
theorem resolve_member? (bindings : Variables) {members : List (String × Json)}
    (distinct : (members.map Prod.fst).Nodup) {key : String} {value : Json}
    (found : Json.find? key members = some value) :
    (resolve bindings (.object members)).toJson.member? key =
      some (rewrite bindings key (rewrite bindings key value)) := by
  have keys : ((entries (.object members)).map Entry.key).Nodup := by
    simpa [entries, Function.comp_def] using distinct
  rw [Resolved.toJson, Json.member?, find?_resolve bindings keys, Json.member?, found]
  rfl

namespace Pull

/-- The answer to one item. -/
def answerTo (lookup : String → Option Json) (bindings : Variables) (item : PullItem) : Json :=
  answer bindings item.key (item.key.bind fun key => substitute bindings key (lookup key))

/-- The items are answered one by one. -/
theorem answers_eq_map (pull : Pull) (lookup : String → Option Json) (bindings : Variables) :
    pull.answers lookup bindings = pull.items.map (answerTo lookup bindings) := by
  have raw : (pull.items.map (·.key)).map (fun key => key.bind lookup) =
      pull.items.map fun item => item.key.bind lookup := by
    rw [List.map_map]
    rfl
  rw [answers, raw, substituteAll_map, List.zipWith_map, List.zipWith_self]
  refine List.map_congr_left fun item _ => ?_
  rw [answerTo]
  cases item.key with
  | some key => rfl
  | none => rfl

/-- A pull of the whole section answers with the resolved section. -/
theorem answerTo_whole {lookup : String → Option Json} (bindings : Variables)
    {members : List (String × Json)} (whole : lookup sectionName = some (.object members))
    {item : PullItem} (asked : item.key = some sectionName) :
    answerTo lookup bindings item = (resolve bindings (.object members)).toJson := by
  have kept : substitute bindings sectionName (some (.object members)) = some (.object members) :=
    rfl
  rw [answerTo, asked, Option.bind_some, whole, kept]
  rw [answer, if_pos rfl]

/-- A pull of a setting answers with its value after one pass. -/
theorem answerTo_setting {lookup : String → Option Json} (bindings : Variables) {key : String}
    (bare : ∀ rest, key ≠ inSection rest) {value : Json}
    (set : lookup (inSection key) = some value) {item : PullItem}
    (asked : item.key = some (inSection key)) :
    answerTo lookup bindings item = rewrite bindings key value := by
  rw [answerTo, asked, Option.bind_some, set, substitute_some, rewrite_inSection bindings bare]
  have different : inSection key ≠ sectionName := by
    intro same
    have lengths := congrArg String.length same
    rw [inSection, String.length_append] at lengths
    have longer : "tinymist.".length = sectionName.length + 1 := rfl
    omega
  cases rewrite bindings key value with
  | object members => rw [answer, if_neg different]
  | _ => rfl

end Pull

/-- The options at the start, a pull of the whole section and a pull of a single setting, for any
section, any variables and any bare key of the section. The options and the whole section have the
same value for the key, which is the value that was set after two passes. The pull of the setting
alone is answered with the value after one pass, so that one more pass over the answer gives the
option. It equals the option exactly if every text in it that the policy of the key expands is
spent; so it does when none of them contains an opening.

Proof: a pull answers its items one by one, and the key is under the same policy with and without
the name of the section. -/
theorem single_pull_agrees_iff_spent {lookup : String → Option Json}
    {members : List (String × Json)} (distinct : (members.map Prod.fst).Nodup)
    (whole : lookup sectionName = some (.object members)) {key : String} {value : Json}
    (found : Json.find? key members = some value) (bare : ∀ rest, key ≠ inSection rest)
    (set : lookup (inSection key) = some value) (bindings : Variables) :
    ∃ option, (resolve bindings (.object members)).toJson.member? key = some option ∧
      option = rewrite bindings key (rewrite bindings key value) ∧
      ∀ (pull : Pull) (index : Nat) (item : PullItem), pull.items[index]? = some item →
        ∃ answer, (pull.answers lookup bindings)[index]? = some answer ∧
          (item.key = some sectionName → answer.member? key = some option) ∧
          (item.key = some (inSection key) →
            answer = rewrite bindings key value ∧
            option = rewrite bindings key answer ∧
            (answer = option ↔ ∀ text ∈ expandedTexts key answer, Spent bindings text) ∧
            ((∀ text ∈ expandedTexts key answer, ¬ Placeholder.opening <:+: text.toList) →
              answer = option)) := by
  have resolved := resolve_member? bindings distinct found
  refine ⟨_, resolved, rfl, fun pull index item asked => ?_⟩
  refine ⟨Pull.answerTo lookup bindings item, ?_, fun wholly => ?_, fun singly => ?_⟩
  · rw [Pull.answers_eq_map, List.getElem?_map, asked, Option.map_some]
  · rw [Pull.answerTo_whole bindings whole wholly, resolved]
  · rw [Pull.answerTo_setting bindings bare set singly]
    have agrees := eq_comm.trans (rewrite_rewrite_iff bindings key value)
    refine ⟨rfl, rfl, agrees, fun closed => agrees.mpr fun text expanded => ?_⟩
    exact spent_of_closed bindings (closed text expanded)

/-- Variables of which one holds a placeholder for the other. -/
def nested : Variables :=
  { Variables.empty with environment := [("A", "$\x7benv:B\x7d"), ("B", "/srv/thesis")] }

/-- A section with a nested placeholder and with a plain one. -/
def thesis : List (String × Json) :=
  [("fontPaths", .array [.string "$\x7benv:B\x7d/fonts"]), ("rootPath", .string "$\x7benv:A\x7d")]

/-- What an editor with this section has for a key. -/
def thesisLookup (key : String) : Option Json :=
  if key = sectionName then some (.object thesis)
  else (thesis.find? fun member => inSection member.1 = key).map Prod.snd

/-- A pull of the two settings, each alone, and of the whole section. -/
def thesisPull : Pull :=
  ⟨[⟨none, some (inSection "rootPath")⟩, ⟨none, some (inSection "fontPaths")⟩,
    ⟨none, some sectionName⟩]⟩

/-- A variable that holds a placeholder tells the two ways apart: the pull of the setting alone
answers with the placeholder, and the option is what the placeholder stands for. -/
theorem nested_placeholder_is_pulled_unexpanded :
    (thesis.map Prod.fst).Nodup ∧ thesisLookup sectionName = some (.object thesis) ∧
    Json.find? "rootPath" thesis = some (.string "$\x7benv:A\x7d") ∧
    (∀ rest, "rootPath" ≠ inSection rest) ∧
    thesisLookup (inSection "rootPath") = Json.find? "rootPath" thesis ∧
    thesisPull.items[0]? = some ⟨none, some (inSection "rootPath")⟩ ∧
    (thesisPull.answers thesisLookup nested)[0]? = some (.string "$\x7benv:B\x7d") ∧
    (resolve nested (.object thesis)).toJson.member? "rootPath" = some (.string "/srv/thesis") := by
  refine ⟨by decide, by decide, by decide, bareKeys_bare (by decide), by decide, rfl, ?_, ?_⟩
  · decide +kernel
  · decide +kernel

/-- The nested placeholder is not spent after one pass: the option is what it stands for in the end,
the answer is the placeholder in between, and so the answer is not the option. The plain one is
spent, and the answer is the option. The whole section has the option in any case. -/
theorem thesis_settings_pulled :
    (resolve nested (.object thesis)).toJson.member? "rootPath" = some (.string "/srv/thesis") ∧
    (thesisPull.answers thesisLookup nested)[0]? = some (.string "$\x7benv:B\x7d") ∧
    (¬ ∀ text ∈ expandedTexts "rootPath" (.string "$\x7benv:B\x7d"), Spent nested text) ∧
    (resolve nested (.object thesis)).toJson.member? "fontPaths" =
      some (.array [.string "/srv/thesis/fonts"]) ∧
    (thesisPull.answers thesisLookup nested)[1]? = some (.array [.string "/srv/thesis/fonts"]) ∧
    ∃ answer, (thesisPull.answers thesisLookup nested)[2]? = some answer ∧
      answer.member? "rootPath" = some (.string "/srv/thesis") := by
  have distinct : (thesis.map Prod.fst).Nodup := by decide
  have whole : thesisLookup sectionName = some (.object thesis) := by decide
  have rootPath : Json.find? "rootPath" thesis = some (.string "$\x7benv:A\x7d") := by decide
  have fontPaths : Json.find? "fontPaths" thesis =
      some (.array [.string "$\x7benv:B\x7d/fonts"]) := by decide
  obtain ⟨root, rootOption, rootTwice, rootPulled⟩ := single_pull_agrees_iff_spent distinct whole
    rootPath (bareKeys_bare (by decide)) (by decide) nested
  obtain ⟨fonts, fontsOption, -, fontsPulled⟩ := single_pull_agrees_iff_spent distinct whole
    fontPaths (bareKeys_bare (by decide)) (by decide) nested
  have twice : rewrite nested "rootPath" (rewrite nested "rootPath" (.string "$\x7benv:A\x7d")) =
      .string "/srv/thesis" := by decide +kernel
  obtain rfl := rootTwice.trans twice
  obtain ⟨rootAnswer, rootAnswered, -, rootSingly⟩ := rootPulled thesisPull 0 _ rfl
  obtain ⟨rootOnce, -, rootAgrees, -⟩ := rootSingly rfl
  have once : rewrite nested "rootPath" (.string "$\x7benv:A\x7d") = .string "$\x7benv:B\x7d" := by
    decide +kernel
  obtain rfl := rootOnce.trans once
  obtain ⟨fontsAnswer, fontsAnswered, -, fontsSingly⟩ := fontsPulled thesisPull 1 _ rfl
  obtain ⟨fontsOnce, -, -, fontsAgree⟩ := fontsSingly rfl
  have expanded : rewrite nested "fontPaths" (.array [.string "$\x7benv:B\x7d/fonts"]) =
      .array [.string "/srv/thesis/fonts"] := by decide +kernel
  obtain rfl := fontsOnce.trans expanded
  have closed : ∀ text ∈ expandedTexts "fontPaths" (.array [.string "/srv/thesis/fonts"]),
      ¬ Placeholder.opening <:+: text.toList := by decide +kernel
  obtain rfl := fontsAgree closed
  obtain ⟨answer, answered, wholly, -⟩ := rootPulled thesisPull 2 _ rfl
  refine ⟨rootOption, rootAnswered, fun spent => ?_, fontsOption, fontsAnswered, answer, answered,
    wholly rfl⟩
  exact absurd (rootAgrees.mpr spent) (by decide)

end Settings

end LanguageClient
