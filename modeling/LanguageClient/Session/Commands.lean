import LanguageClient.CodeLens
import LanguageClient.ExportFormat
import LanguageClient.Session.State

/-!
# Commands of the user

Every command contacts the server at most once. Commands that need an active document fail
without one, and commands that ask the user are cancelled when the question is dismissed.
-/

namespace LanguageClient.Session

/-- Run a server command. -/
def execute (environment : Environment) (command : String) (arguments : List Json) :
    Action (Option Json) :=
  overConnection (Connection.execute environment.peer command arguments)

/-- The path of the active document. -/
def activePath (environment : Environment) : Action String := do
  let session ← get
  match environment.editor.active session.trace with
  | some document => return document.path
  | none => fail .noActiveDocument

/-- Export the active document; yields the path of what was exported. Without an active document
nothing is exported. -/
def exportActive (environment : Environment) (format : ExportFormat) (extra : Option Json) :
    Action (Option String) := do
  let session ← get
  match environment.editor.active session.trace with
  | none => return none
  | some document =>
    let exported ← execute environment format.command (.string document.path :: extra.toList)
    return exported.bind Json.text?

/-- Export the active document and open the result; the user is told when there is none. -/
def showExported (environment : Environment) (format : ExportFormat) :
    Action (Option String) := do
  let exported ← exportActive environment format none
  match exported with
  | some path => ask environment.editor (.openExternal path)
  | none => tell (.showInfo ("Nothing was exported as " ++ format.name ++ "."))
  return exported

/-- Clear the server's cache for the active document. -/
def clearCache (environment : Environment) : Action Unit := do
  let path ← activePath environment
  let _ ← execute environment "tinymist.doClearCache" [.string path]
  return

/-- Pin the active document as main file. -/
def pinMain (environment : Environment) : Action Unit := do
  let path ← activePath environment
  let _ ← execute environment "tinymist.pinMain" [.string path]
  return

/-- Release a pinned main file. -/
def unpinMain (environment : Environment) : Action Unit := do
  let _ ← execute environment "tinymist.pinMain" [.null]
  return

/-- Where a template goes. -/
inductive TemplateMode where
  /-- Into a folder that the user chooses. -/
  | newLocation
  /-- Its entry goes to the caret. -/
  | inPlace
deriving DecidableEq, Repr

/-- Create a project from a template in a chosen folder, and open its entry if it has one. -/
def createProject (environment : Environment) (template : String) : Action Unit := do
  let folder ← prompt .pickFolder environment.editor.folder
  let answer ← execute environment "tinymist.doInitTemplate" [.string template, .string folder]
  let entry := (answer.bind (·.member? "entryPath")).bind Json.text?
  match entry with
  | some entry =>
    ask environment.editor
      (.openDocument (String.ofList (Path.join folder.toList entry.toList)))
  | none => ask environment.editor (.openFolder folder)

/-- Insert the entry of a template at the caret; the user is told when it has none. -/
def insertEntry (environment : Environment) (template : String) : Action Unit := do
  let answer ← execute environment "tinymist.doGetTemplateEntry" [.string template]
  match answer.bind Json.text? with
  | some text => ask environment.editor (.insertAtCursor text)
  | none => tell (.showError ("Template " ++ template ++ " has no entry"))

/-- Instantiate a template that the user names. -/
def instantiateTemplate (environment : Environment) (mode : TemplateMode) : Action Unit := do
  let template ← prompt .promptTemplate environment.editor.template
  match mode with
  | .newLocation => createProject environment template
  | .inPlace => insertEntry environment template

/-- Start a preview on the server. -/
def startPreview (environment : Environment) (launch : Preview.Launch) :
    Action Preview.Started := do
  let answer ← execute environment "tinymist.doStartPreview" [.ofTexts launch.arguments]
  match answer with
  | none => return .unknown
  | some value =>
    match Preview.Started.decode value with
    | .ok started => return started
    | .error error => fail (.transport (.ofDecode error))

/-- Kill a preview on the server and dispose its task. -/
def killPreview (environment : Environment) (task : String) : Action Unit := do
  let _ ← execute environment "tinymist.doKillPreview" [.string task]
  let _ ← disposeTask task
  return

/-- Scroll a preview. -/
def scrollPreview (environment : Environment) (task : String) (scroll : Preview.Scroll) :
    Action Unit := do
  let _ ← execute environment "tinymist.scrollPreview" [.string task, scroll.encode]
  return

/-- What a preview shows: the focused path, or else the active document. -/
def previewPath (environment : Environment) : Action String := do
  let session ← get
  match session.focus.path with
  | some path => return path
  | none => activePath environment

/-- Draw the identifier of a new task. -/
def drawTask (environment : Environment) : Action String := do
  let session ← get
  let id := environment.draw session.drawn
  set { session with drawn := session.drawn ++ [id] }
  return id

/-- Register a preview. Its teardown closes it in the editor. -/
def registerPreview (task : String) : Action Unit := do
  let session ← get
  match session.tasks.register task (.closePreview task) with
  | .ok tasks => set { session with tasks := tasks }
  | .error duplicate => fail (.duplicateTask duplicate)

/-- Preview the focused or else the active document in a new task; yields its identifier. -/
def launchPreview (environment : Environment) (kind : Preview.Kind) : Action String := do
  let path ← previewPath environment
  let task ← drawTask environment
  let session ← get
  let started ← startPreview environment
    ⟨task, path, kind, session.settings.preview.refresh, session.settings.colorTheme⟩
  registerPreview task
  ask environment.editor (.openPreview task started)
  return task

/-- What the server is asked when the user presses enter. -/
def enterParams (uri : Uri) (position : Position) : Json :=
  .ofFields [("textDocument", .ofFields [("uri", uri.encode)]), ("position", position.encode)]

/-- The edits for a press of the enter key. There are none when the setting is off. -/
def onEnter (environment : Environment) (uri : Uri) (position : Position) :
    Action (Option (List TextEdit)) := do
  let session ← get
  if session.settings.onEnterEvent then
    overConnection (Connection.request environment.peer "experimental/onEnter"
      (enterParams uri position) (Json.nullable (Json.list TextEdit.decode)))
  else return none

/-- Let the user pick one of several choices. Dismissing the menu yields nothing; an answer
outside the menu cancels. -/
def choose {α : Type} (environment : Environment) (title : String) (label : α → String)
    (choices : List α) : Action (Option α) := do
  tell (.pick title (choices.map label))
  let session ← get
  match environment.editor.picked session.trace with
  | none => return none
  | some index =>
    match choices[index]? with
    | some choice => return some choice
    | none => fail .cancelled

/-- Run the action of a code lens. The menu of further actions does not offer itself. -/
def runCodeLens (environment : Environment) : CodeLens → Action Unit
  | .preview => do
    let _ ← launchPreview environment .webview
    return
  | .previewInBrowser => do
    let _ ← launchPreview environment .browser
    return
  | .exportPdf => do
    let _ ← showExported environment .pdf
    return
  | .exportAs => do
    match ← choose environment "Export as" ExportFormat.name ExportFormat.all with
    | none => return
    | some format =>
      let _ ← showExported environment format
      return
  | .more => return

/-- Run the code lens of a tag, after a menu if it is the one that offers the others. -/
def runCodeLensTag (environment : Environment) (tag : String) : Action Unit := do
  match CodeLens.ofTag? tag with
  | none => fail (.unknownCodeLens tag)
  | some .more =>
    match ← choose environment "More actions" CodeLens.label CodeLens.offered with
    | none => return
    | some action => runCodeLens environment action
  | some action => runCodeLens environment action

end LanguageClient.Session
