import LanguageClient.Proofs.ForeignMembers
import LanguageClient.Settings.Resolved

/-!
# Settings are read key by key, or not at all

The client reads six settings from a resolved section. Each of them has a key, a type and a default,
and what is under its key decides about it alone: a value that is not `null` is decoded, and without
one the setting has its default. The settings stand and fall together, though. A single value that
is not decoded leaves the client with the defaults of all of them.

Nothing else in the section matters: neither the order of its keys, nor those of other programs, nor
whether a setting is `null` or missing.
-/

namespace LanguageClient.Settings

/-- A setting that the client knows. -/
inductive Known where
  | serverPath
  | rootPath
  | fontPaths
  | colorTheme
  | onEnterEvent
  | preview
deriving DecidableEq, Repr

namespace Known

/-- The key of a setting. -/
def key : Known → String
  | .serverPath => "serverPath"
  | .rootPath => "rootPath"
  | .fontPaths => "fontPaths"
  | .colorTheme => "colorTheme"
  | .onEnterEvent => "onEnterEvent"
  | .preview => "preview"

/-- The type of a setting. -/
def Value : Known → Type
  | .serverPath | .rootPath | .colorTheme => Option String
  | .fontPaths => List String
  | .onEnterEvent => Bool
  | .preview => PreviewSettings

/-- Read a setting by itself. -/
def decode : (known : Known) → Json.Decoder known.Value
  | .serverPath | .rootPath | .colorTheme => Json.nullable Json.text
  | .fontPaths => Json.list Json.text
  | .onEnterEvent => Json.flag
  | .preview => PreviewSettings.decode

/-- A setting among all of them. -/
def of : (known : Known) → Settings → known.Value
  | .serverPath, settings => settings.serverPath
  | .rootPath, settings => settings.rootPath
  | .fontPaths, settings => settings.fontPaths
  | .colorTheme, settings => settings.colorTheme
  | .onEnterEvent, settings => settings.onEnterEvent
  | .preview, settings => settings.preview

/-- All settings that the client knows, in declaration order. -/
def all : List Known := [.serverPath, .rootPath, .fontPaths, .colorTheme, .onEnterEvent, .preview]

end Known

/-- The layout of settings knows their keys and no others. -/
theorem layout_knows : layout.Knows (Known.all.map Known.key) :=
  (Json.Layout.Knows.nothing Settings.mk).member _ |>.member _ |>.member _ |>.member _ |>.member _
    |>.member _

/-- The check of a member under a known key is that its setting is decoded. -/
theorem check_key (known : Known) (json : Json) :
    layout.check known.key json = (known.decode json).map fun _ => () := by
  cases known <;> rfl

namespace Resolved

/-- What is set under a key; a `null` sets nothing. -/
def set? (resolved : Resolved) (key : String) : Option Json :=
  Json.nonNull? (Json.find? key resolved.values)

/-- A setting is given the value that is set for it, or its default if nothing is. -/
structure Gives (resolved : Resolved) (known : Known) (value : known.Value) : Prop where
  decoded : ∀ json ∈ resolved.set? known.key, known.decode json = .ok value
  unset : resolved.set? known.key = none → value = known.of .default

/-- The members that are set. -/
def members (resolved : Resolved) : List (String × Json) :=
  resolved.values.filter fun (_, value) => !value.isNull

/-- The settings are those that are read from what is set, or the defaults. -/
theorem settings_eq (resolved : Resolved) :
    resolved.settings = (layout.fromMembers resolved.members).toOption.getD .default := by
  have read : decode (.object resolved.members) = layout.fromMembers resolved.members := rfl
  rw [← read, settings, members]
  cases decode (.object (resolved.values.filter fun (_, value) => !value.isNull)) <;> rfl

/-- A setting has a value if what is set for it is decoded. -/
theorem exists_gives {resolved : Resolved} {known : Known}
    (decodes : ∀ json ∈ resolved.set? known.key, ∃ value, known.decode json = .ok value) :
    ∃ value, resolved.Gives known value := by
  cases there : resolved.set? known.key with
  | none =>
    refine ⟨known.of .default, ?_, fun _ => rfl⟩
    simp [there]
  | some json =>
    obtain ⟨value, decoded⟩ := decodes json there
    refine ⟨value, ?_, by simp [there]⟩
    rintro other found
    obtain rfl := Option.some.inj (there.symm.trans found)
    exact decoded

/-- What is set for the settings, in declaration order. -/
def places (resolved : Resolved) : List (String × Option Json) :=
  Known.all.map fun known => (known.key, resolved.set? known.key)

/-- There is a place for each key. -/
theorem places_keys (resolved : Resolved) :
    resolved.places.map Prod.fst = Known.all.map Known.key := rfl

/-- The layout of settings reads what is set for each of them. -/
theorem reads_places {resolved : Resolved} {settings : Settings}
    (gives : ∀ known, resolved.Gives known (known.of settings)) :
    layout.Reads resolved.places settings :=
  (Json.Layout.Reads.nothing Settings.mk).sparse (gives .serverPath).decoded
      (gives .serverPath).unset
    |>.sparse (gives .rootPath).decoded (gives .rootPath).unset
    |>.sparse (gives .fontPaths).decoded (gives .fontPaths).unset
    |>.sparse (gives .colorTheme).decoded (gives .colorTheme).unset
    |>.sparse (gives .onEnterEvent).decoded (gives .onEnterEvent).unset
    |>.sparse (gives .preview).decoded (gives .preview).unset

section Maps

variable {resolved : Resolved} (keys : (resolved.values.map Prod.fst).Nodup)

include keys

/-- The members that are set have different keys. -/
theorem members_keys : (resolved.members.map Prod.fst).Nodup :=
  keys.sublist (List.filter_sublist.map Prod.fst)

/-- Under a key the members that are set have what is set there. -/
theorem find?_members (key : String) : Json.find? key resolved.members = resolved.set? key :=
  Json.find?_filter_null keys key

/-- The settings that are given by what is set are the settings of the section. -/
theorem settings_of_gives {settings : Settings}
    (gives : ∀ known, resolved.Gives known (known.of settings)) :
    resolved.settings = settings := by
  have apart : (resolved.places.map Prod.fst).Nodup := by
    rw [places_keys]
    decide
  have alone : layout.fromMembers (Json.present resolved.places) = .ok settings :=
    (reads_places gives).fromMembers apart
      (fun entry inside => Json.find?_present apart inside) fun member inside => inside
  have among : layout.fromMembers resolved.members = .ok settings := by
    refine layout_knows.fromMembers_of_agree (members_keys keys) (fun name named => ?_) alone
    obtain ⟨known, inside, rfl⟩ := List.mem_map.mp named
    rw [find?_members keys]
    exact Json.find?_present apart (List.mem_map_of_mem inside)
  rw [settings_eq, among]
  rfl

/-- A section from which settings are read decodes each of them. -/
theorem decodes_of_fromMembers {settings : Settings}
    (read : layout.fromMembers resolved.members = .ok settings) {known : Known} {json : Json}
    (set : resolved.set? known.key = some json) : ∃ value, known.decode json = .ok value := by
  have inside : (known.key, json) ∈ resolved.members := by
    rw [← Json.find?_eq_some_iff (members_keys keys), find?_members keys, set]
  have passed := (Json.Layout.of_fromMembers_ok read).1 _ inside
  rw [check_key] at passed
  cases decoded : known.decode json with
  | ok value => exact ⟨value, rfl⟩
  | error cause =>
    rw [decoded] at passed
    cases passed

end Maps

/-- The keys of a section that was resolved are apart, whatever the section was. -/
theorem resolve_keys (bindings : Variables) (raw : Json) :
    ((resolve bindings raw).values.map Prod.fst).Nodup :=
  Json.nodup_of_sortedKeys (Json.sortedKeys_sortMembers _)

/-- The settings of a section depend on what is set under the known keys alone. Two sections with
their keys apart that have the same set under each known key, where a `null` sets nothing, have the
same settings. If everything that is set there is decoded, each setting is what was decoded for it,
or its default if nothing is set; and if a single value that is set there is not decoded, the
settings are the defaults of all of them.

Proof: members that are `null` are left out before the rest is read, and foreign members make no
difference to what is read. What is set for each setting is read in its place; and nothing is read
unless every known member passes a check, which is that it is decoded. -/
theorem settings_depend_on_known_keys_alone {first second : Resolved}
    (firstKeys : (first.values.map Prod.fst).Nodup)
    (secondKeys : (second.values.map Prod.fst).Nodup) :
    ((∀ known : Known, first.set? known.key = second.set? known.key) →
      first.settings = second.settings) ∧
    ((∀ known : Known, ∀ json ∈ first.set? known.key, ∃ value, known.decode json = .ok value) →
      ∀ known : Known, first.Gives known (known.of first.settings)) ∧
    ((∃ known : Known, ∃ json ∈ first.set? known.key, ∀ value, known.decode json ≠ .ok value) →
      first.settings = .default) := by
  refine ⟨?_, ?_, ?_⟩
  · intro agree
    have same : ∀ name ∈ Known.all.map Known.key,
        Json.find? name first.members = Json.find? name second.members := by
      intro name named
      obtain ⟨known, -, rfl⟩ := List.mem_map.mp named
      rw [find?_members firstKeys, find?_members secondKeys, agree known]
    rw [settings_eq, settings_eq, layout_knows.toOption_fromMembers (members_keys firstKeys)
      (members_keys secondKeys) same]
  · intro decodes
    obtain ⟨serverPath, givesServer⟩ := exists_gives (decodes .serverPath)
    obtain ⟨rootPath, givesRoot⟩ := exists_gives (decodes .rootPath)
    obtain ⟨fontPaths, givesFonts⟩ := exists_gives (decodes .fontPaths)
    obtain ⟨colorTheme, givesTheme⟩ := exists_gives (decodes .colorTheme)
    obtain ⟨onEnterEvent, givesEnter⟩ := exists_gives (decodes .onEnterEvent)
    obtain ⟨preview, givesPreview⟩ := exists_gives (decodes .preview)
    have gives (known : Known) : first.Gives known
        (known.of ⟨serverPath, rootPath, fontPaths, colorTheme, onEnterEvent, preview⟩) := by
      cases known with
      | serverPath => exact givesServer
      | rootPath => exact givesRoot
      | fontPaths => exact givesFonts
      | colorTheme => exact givesTheme
      | onEnterEvent => exact givesEnter
      | preview => exact givesPreview
    rw [settings_of_gives firstKeys gives]
    exact gives
  · rintro ⟨known, json, set, refused⟩
    rw [settings_eq]
    cases read : layout.fromMembers first.members with
    | error cause => rfl
    | ok settings =>
      obtain ⟨value, decoded⟩ := decodes_of_fromMembers firstKeys read set
      exact absurd decoded (refused value)

/-- A section with keys of other programs and with settings that are `null`; the refresh style is
given by an object, next to a member that is not known. -/
def cluttered : Resolved :=
  resolve .empty (.object [("exportPdf", .string "onSave"), ("fontPaths", .null),
    ("onEnterEvent", .bool false), ("preview", .object [("invert", .null),
      ("refresh", .object [("onSave", .null)])]), ("serverPath", .null)])

/-- What the other section sets, and no more, in another order. -/
def tidy : Resolved :=
  ⟨[("preview", .object [("invert", .null), ("refresh", .object [("onSave", .null)])]),
    ("rootPath", .null), ("onEnterEvent", .bool false), ("colorTheme", .string "light")]⟩

/-- A section with a root and with a text in the place of a flag. -/
def garbled : Resolved := ⟨[("rootPath", .string "/work"), ("onEnterEvent", .string "sometimes")]⟩

/-- Both sections have the same settings, which are those that are set and otherwise defaults, and
the text in the place of the flag costs the other section its root. -/
theorem tidy_settings_are_cluttered :
    tidy.settings = cluttered.settings ∧ tidy.settings.onEnterEvent = false ∧
    tidy.settings.preview = ⟨.onSave⟩ ∧ tidy.settings.fontPaths = [] ∧
    garbled.settings = .default := by
  have tidyKeys : (tidy.values.map Prod.fst).Nodup := by decide
  have garbledKeys : (garbled.values.map Prod.fst).Nodup := by decide
  obtain ⟨same, given, -⟩ := settings_depend_on_known_keys_alone tidyKeys (resolve_keys _ _)
  obtain ⟨-, -, refused⟩ := settings_depend_on_known_keys_alone garbledKeys tidyKeys
  have agree : ∀ known : Known, tidy.set? known.key = cluttered.set? known.key := by
    intro known
    cases known <;> decide +kernel
  have decodes : ∀ known : Known, ∀ json ∈ tidy.set? known.key,
      ∃ value, known.decode json = .ok value := by
    intro known json there
    cases known with
    | serverPath => cases there
    | rootPath => cases there
    | fontPaths => cases there
    | colorTheme =>
      cases there
      exact ⟨some "light", rfl⟩
    | onEnterEvent =>
      cases there
      exact ⟨false, rfl⟩
    | preview =>
      cases there
      exact ⟨⟨.onSave⟩, rfl⟩
  have gives := given decodes
  have enter := (gives .onEnterEvent).decoded (.bool false) rfl
  have preview := (gives .preview).decoded _ rfl
  refine ⟨same agree, (Except.ok.inj enter).symm, (Except.ok.inj preview).symm,
    (gives .fontPaths).unset rfl, refused ⟨.onEnterEvent, .string "sometimes", rfl, ?_⟩⟩
  intro value decoded
  cases decoded

end Resolved

end LanguageClient.Settings
