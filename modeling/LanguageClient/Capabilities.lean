import LanguageClient.Json.Decode

/-!
# Capabilities

What the client announces when it connects, and what it keeps of the server's answer: the known
features, each in the form that it may have. Features of other names are dropped.

The options of a feature are not looked into. So the reader here accepts some answers that a reader
of every option refuses, for instance one that gives a number for the characters that trigger a
completion. No law about introductions, starts or sessions depends on which answers are accepted:
they hold for every reader of the answer.
-/

namespace LanguageClient.Capabilities

/-- What the client can do. -/
def client : Json :=
  let fixed : Json := .ofFields [("dynamicRegistration", .bool false)]
  .ofFields
    [("workspace", .ofFields [("configuration", .bool true), ("didChangeConfiguration", fixed),
        ("workspaceFolders", .bool true), ("executeCommand", fixed)]),
      ("textDocument", .ofFields [("synchronization", .ofFields
        [("dynamicRegistration", .bool false), ("willSave", .bool false),
          ("willSaveWaitUntil", .bool false), ("didSave", .bool true)])]),
      ("window", .ofFields [("workDoneProgress", .bool true),
        ("showDocument", .ofFields [("support", .bool true)])]),
      ("general", .ofFields [("positionEncodings", .ofTexts ["utf-16"])]),
      ("experimental", .ofFields [("onEnter", .bool true)])]

/-- The form in which a server announces a feature. -/
inductive FeatureForm where
  | name
  /-- A set of options. -/
  | options (record : String)
  /-- A flag or a set of options. -/
  | flagOrOptions (union : String)
  /-- A number or a set of options. -/
  | numberOrOptions (union : String)
  /-- One of several sets of options. -/
  | someOptions (union : String)
  | free
deriving DecidableEq, Repr

namespace FeatureForm

/-- Whether a value is a set of options, whatever they are. -/
def isOptions : Json → Bool
  | .object _ => true
  | _ => false

/-- Whether a value is accepted by a decoder. -/
def accepts {α : Type} (decode : Json.Decoder α) (value : Json) : Bool :=
  match decode value with
  | .ok _ => true
  | .error _ => false

/-- Read a feature. Options are kept as they are given, and none of them is checked. -/
def decode : FeatureForm → Json.Decoder Json
  | .name, value => (Json.text value).map .string
  | .options record, value =>
    if isOptions value then .ok value else .error (.invalidType value (.record record))
  | .flagOrOptions union, value =>
    if isOptions value || accepts Json.flag value then .ok value else .error (.noVariant union)
  | .numberOrOptions union, value =>
    if isOptions value || accepts Json.signed32 value then .ok value else .error (.noVariant union)
  | .someOptions union, value => if isOptions value then .ok value else .error (.noVariant union)
  | .free, value => .ok value

end FeatureForm

/-- What the server can do: the features that it announced, by name. -/
structure Server where
  features : List (String × Json)
deriving DecidableEq, Repr

namespace Server

/-- The JSON form of what the server can do; absent features are left out. -/
def encode (server : Server) : Json := .ofFields server.features

/-- The features that a server may announce, in the order of a list of them. -/
def announceable : List (String × FeatureForm) :=
  [("positionEncoding", .name),
    ("textDocumentSync", .numberOrOptions "TextDocumentSyncCapability"),
    ("notebookDocumentSync", .someOptions "OneOf"),
    ("selectionRangeProvider", .flagOrOptions "SelectionRangeProviderCapability"),
    ("hoverProvider", .flagOrOptions "HoverProviderCapability"),
    ("completionProvider", .options "CompletionOptions"),
    ("signatureHelpProvider", .options "SignatureHelpOptions"),
    ("definitionProvider", .flagOrOptions "OneOf"),
    ("typeDefinitionProvider", .flagOrOptions "TypeDefinitionProviderCapability"),
    ("implementationProvider", .flagOrOptions "ImplementationProviderCapability"),
    ("referencesProvider", .flagOrOptions "OneOf"),
    ("documentHighlightProvider", .flagOrOptions "OneOf"),
    ("documentSymbolProvider", .flagOrOptions "OneOf"),
    ("workspaceSymbolProvider", .flagOrOptions "OneOf"),
    ("codeActionProvider", .flagOrOptions "CodeActionProviderCapability"),
    ("codeLensProvider", .options "CodeLensOptions"),
    ("documentFormattingProvider", .flagOrOptions "OneOf"),
    ("documentRangeFormattingProvider", .flagOrOptions "OneOf"),
    ("documentOnTypeFormattingProvider", .options "DocumentOnTypeFormattingOptions"),
    ("renameProvider", .flagOrOptions "OneOf"),
    ("documentLinkProvider", .options "DocumentLinkOptions"),
    ("colorProvider", .flagOrOptions "ColorProviderCapability"),
    ("foldingRangeProvider", .flagOrOptions "FoldingRangeProviderCapability"),
    ("declarationProvider", .flagOrOptions "DeclarationCapability"),
    ("executeCommandProvider", .options "ExecuteCommandOptions"),
    ("workspace", .options "WorkspaceServerCapabilities"),
    ("callHierarchyProvider", .flagOrOptions "CallHierarchyServerCapability"),
    ("semanticTokensProvider", .someOptions "SemanticTokensServerCapabilities"),
    ("monikerProvider", .flagOrOptions "OneOf"),
    ("linkedEditingRangeProvider", .flagOrOptions "LinkedEditingRangeServerCapabilities"),
    ("inlineValueProvider", .flagOrOptions "OneOf"),
    ("inlayHintProvider", .flagOrOptions "OneOf"),
    ("diagnosticProvider", .someOptions "DiagnosticServerCapabilities"),
    ("experimental", .free)]

/-- A layout with one more feature at the end. -/
def withFeature (layout : Json.Layout (List (String × Json))) :
    String × FeatureForm → Json.Layout (List (String × Json))
  | (name, form) =>
    (layout.map fun earlier (found : Option Json) => earlier ++ found.toList.map (name, ·)).and
      (.optional name form.decode)

/-- Members of what the server can do. -/
def layout : Json.Layout Server :=
  (announceable.foldl withFeature (.nothing [])).map Server.mk

/-- Read what the server can do. An answer is refused for the form of a feature only, never for an
option of it. -/
def decode : Json.Decoder Server := Json.record "ServerCapabilities" layout

end Server

/-- The name and version of a server. -/
structure ServerInfo where
  name : String
  version : Option String
deriving DecidableEq, Repr

namespace ServerInfo

/-- The JSON form of name and version. -/
def encode (info : ServerInfo) : Json :=
  .ofFields [("name", .string info.name), ("version", .ofText? info.version)]

/-- Members of name and version. -/
def layout : Json.Layout ServerInfo :=
  (Json.Layout.nothing ServerInfo.mk).and (.required "name" Json.text)
    |>.and (.optional "version" Json.text)

/-- Read name and version. -/
def decode : Json.Decoder ServerInfo := Json.record "ServerInfo" layout

end ServerInfo

/-- The server's answer to the client's introduction. -/
structure Introduction where
  capabilities : Server
  info : Option ServerInfo
deriving DecidableEq, Repr

namespace Introduction

/-- Members of the server's answer. -/
def layout : Json.Layout Introduction :=
  (Json.Layout.nothing Introduction.mk).and (.required "capabilities" Server.decode)
    |>.and (.optional "serverInfo" ServerInfo.decode)

/-- Read the server's answer. -/
def decode : Json.Decoder Introduction := Json.record "InitializeResult" layout

end Introduction

end LanguageClient.Capabilities
