import LanguageClient.Session.Commands
import LanguageClient.Session.Loop

/-!
# Operations on a session

Everything that can be done with a session, as data, with what each operation yields.
-/

namespace LanguageClient.Session

/-- One operation. -/
inductive Operation where
  | start
  | stop
  | run
  | handleEvent (event : EditorEvent)
  | handleMessage (message : Rpc.Message)
  | activatePath (document : Option Document) (path : Option String)
  | exportActive (format : ExportFormat) (extra : Option Json)
  | showExported (format : ExportFormat)
  | clearCache
  | pinMain
  | unpinMain
  | instantiateTemplate (mode : TemplateMode)
  | startPreview (launch : Preview.Launch)
  | killPreview (task : String)
  | scrollPreview (task : String) (scroll : Preview.Scroll)
  | launchPreview (kind : Preview.Kind)
  | disposeTask (task : String)
  | onEnter (uri : Uri) (position : Position)
  | codeLens (tag : String)
deriving DecidableEq, Repr

/-- What an operation yields. -/
inductive Yield where
  | done
  /-- The event loop waits for more. -/
  | pending
  | path (exported : Option String)
  | preview (started : Preview.Started)
  | task (id : String)
  | wasLive (live : Bool)
  | edits (edits : Option (List TextEdit))
deriving DecidableEq, Repr

/-- Do something that yields nothing. -/
def plainly (action : Action Unit) : Action Yield := do
  action
  return .done

/-- Perform an operation. -/
def perform (environment : Environment) : Operation → Action Yield
  | .start => plainly (start environment)
  | .stop => plainly (stop environment)
  | .run => do
    match ← run environment with
    | .stopped => return .done
    | .pending => return .pending
  | .handleEvent event => plainly (handleEvent environment event)
  | .handleMessage message => plainly (handleMessage environment message)
  | .activatePath document path => plainly (activatePath environment document path)
  | .exportActive format extra => return .path (← exportActive environment format extra)
  | .showExported format => return .path (← showExported environment format)
  | .clearCache => plainly (clearCache environment)
  | .pinMain => plainly (pinMain environment)
  | .unpinMain => plainly (unpinMain environment)
  | .instantiateTemplate mode => plainly (instantiateTemplate environment mode)
  | .startPreview launch => return .preview (← startPreview environment launch)
  | .killPreview task => plainly (killPreview environment task)
  | .scrollPreview task scroll => plainly (scrollPreview environment task scroll)
  | .launchPreview kind => return .task (← launchPreview environment kind)
  | .disposeTask task => return .wasLive (← disposeTask task)
  | .onEnter uri position => return .edits (← onEnter environment uri position)
  | .codeLens tag => plainly (runCodeLensTag environment tag)

end LanguageClient.Session
