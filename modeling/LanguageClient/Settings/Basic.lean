import LanguageClient.Json.Decode

/-!
# Settings that the client acts on

The typed view of the settings section. Every setting has a default, so a section without any of
them decodes; a section with one setting of the wrong type does not.
-/

namespace LanguageClient

/-- When a preview renders again. -/
inductive RefreshStyle where
  | onType
  | onSave
deriving DecidableEq, Repr, Inhabited

namespace RefreshStyle

/-- The name of a refresh style. -/
def name : RefreshStyle → String
  | .onType => "onType"
  | .onSave => "onSave"

/-- Read a refresh style by its name. -/
def decode : Json.Decoder RefreshStyle :=
  Json.enumeration [("onType", .onType), ("onSave", .onSave)]

end RefreshStyle

/-- Settings of previews. -/
structure PreviewSettings where
  refresh : RefreshStyle
deriving DecidableEq, Repr

namespace PreviewSettings

/-- Previews render on every edit. -/
def default : PreviewSettings := ⟨.onType⟩

/-- The JSON form of preview settings. -/
def encode (settings : PreviewSettings) : Json :=
  .ofFields [("refresh", .string settings.refresh.name)]

/-- Members of preview settings. -/
def layout : Json.Layout PreviewSettings :=
  (Json.Layout.nothing PreviewSettings.mk).and (.defaulted "refresh" RefreshStyle.decode .onType)

/-- Read preview settings. -/
def decode : Json.Decoder PreviewSettings := Json.record "PreviewSettings" layout

end PreviewSettings

/-- Settings that the client acts on. -/
structure Settings where
  serverPath : Option String
  rootPath : Option String
  fontPaths : List String
  colorTheme : Option String
  onEnterEvent : Bool
  preview : PreviewSettings
deriving DecidableEq, Repr

namespace Settings

/-- The name of the settings section. -/
def sectionName : String := "tinymist"

/-- Settings of a section in which nothing is set. -/
def default : Settings := ⟨none, none, [], none, true, .default⟩

/-- The JSON form of settings. -/
def encode (settings : Settings) : Json :=
  .ofFields [("serverPath", .ofText? settings.serverPath), ("rootPath", .ofText? settings.rootPath),
    ("fontPaths", .ofTexts settings.fontPaths), ("colorTheme", .ofText? settings.colorTheme),
    ("onEnterEvent", .bool settings.onEnterEvent), ("preview", settings.preview.encode)]

/-- Members of settings. -/
def layout : Json.Layout Settings :=
  (Json.Layout.nothing Settings.mk).and (.defaulted "serverPath" (Json.nullable Json.text) none)
    |>.and (.defaulted "rootPath" (Json.nullable Json.text) none)
    |>.and (.defaulted "fontPaths" (Json.list Json.text) [])
    |>.and (.defaulted "colorTheme" (Json.nullable Json.text) none)
    |>.and (.defaulted "onEnterEvent" Json.flag true)
    |>.and (.defaulted "preview" PreviewSettings.decode .default)

/-- Read settings. -/
def decode : Json.Decoder Settings := Json.record "Settings" layout

end Settings

end LanguageClient
