import LanguageClient.CompileStatus
import LanguageClient.Preview
import LanguageClient.Position
import LanguageClient.Rpc.Error

/-!
# Calls to the outside

Everything that the client does to the server and to the editor, as data. The trace of a client
is the list of its calls in order; what the outside answers may depend on the whole trace.
-/

namespace LanguageClient

/-- How the server process is launched. -/
structure LaunchConfig where
  command : String
  arguments : List String
  environment : List (String × String)
  root : String
  timeoutSeconds : Nat
deriving DecidableEq, Repr

/-- A launch in a directory, with the usual request timeout and no extra environment. -/
def LaunchConfig.inDirectory (command root : String) (arguments : List String) : LaunchConfig :=
  ⟨command, arguments, [], root, 30⟩

/-- A call to the editor. Queries that change nothing are not calls. -/
inductive EditorCall where
  | showError (message : String)
  | showInfo (message : String)
  | setStatus (display : StatusDisplay)
  | setFocusIndicator (visible : Bool)
  | updateOutline (outline : Json)
  | openPreview (task : String) (started : Preview.Started)
  | closePreview (task : String)
  | showRange (path : String) (range : Range)
  | openDocument (path : String)
  | insertAtCursor (text : String)
  | promptTemplate
  | pickFolder
  | pick (title : String) (items : List String)
  | openFolder (path : String)
  | openExternal (path : String)
deriving DecidableEq, Repr

/-- What the client replies to a request of the server: an error or a result. -/
inductive Reply where
  | result (value : Json)
  | error (error : Rpc.ResponseError)
deriving DecidableEq, Repr

/-- A call to the outside. A request carries its timeout in milliseconds if it has one. -/
inductive Call where
  | request (request : Rpc.Request) (timeout : Option Nat)
  | notification (notification : Rpc.Notification)
  | reply (id : Rpc.RequestId) (reply : Reply)
  | start (config : LaunchConfig)
  | stop
  | editor (call : EditorCall)
deriving DecidableEq, Repr

/-- The calls so far, in order. -/
abbrev Trace := List Call

/-- How the transport and the server behind it behave. Every behavior sees the trace up to and
including the call that it answers; listening is not a call of its own. -/
structure Peer where
  listen : Trace → Except Rpc.TransportError Unit
  start : Trace → Except Rpc.TransportError Unit
  request : Trace → Except Rpc.TransportError Rpc.Response
  notify : Trace → Except Rpc.TransportError Unit
  reply : Trace → Except Rpc.TransportError Unit
  stop : Trace → Except Rpc.TransportError Unit

end LanguageClient
