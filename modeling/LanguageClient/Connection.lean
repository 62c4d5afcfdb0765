import LanguageClient.Call
import LanguageClient.Capabilities
import LanguageClient.Text.Duration
import LanguageClient.Uri.Basic

/-!
# The connection to the server

Typed requests and notifications over a transport. Requests are numbered from one. The first
capabilities that the server announces are kept; later ones are ignored. Every attempt is in the
trace, whether it succeeds or not.
-/

namespace LanguageClient

open Rpc (TransportError)

/-- The client's end of a connection. A timeout of zero leaves timeouts to the transport. -/
structure Connection where
  nextId : Int64
  capabilities : Option Capabilities.Server
  timeout : Nat
  trace : Trace
deriving DecidableEq, Repr

namespace Connection

/-- A connection over which nothing was sent. -/
def fresh (timeout : Nat) : Connection := ⟨1, none, timeout, []⟩

/-- Whether the server announced its capabilities. -/
def isInitialized (connection : Connection) : Bool := connection.capabilities.isSome

/-- The timeout that goes with a request, in milliseconds. -/
def requestTimeout (connection : Connection) : Option Nat :=
  if connection.timeout = 0 then none else some connection.timeout

/-- Add a call to the trace. -/
def record (connection : Connection) (call : Call) : Connection :=
  { connection with trace := connection.trace ++ [call] }

/-- A connection as shown to a developer. -/
def describe (connection : Connection) : String :=
  "ClientHandle \x7b initialized: " ++ (if connection.isInitialized then "true" else "false") ++
    ", timeout: " ++ Text.duration connection.timeout ++ ", .. \x7d"

/-- Something done over the connection, which may fail. -/
abbrev Action (α : Type) := ExceptT TransportError (StateM Connection) α

/-- The value of a response, if it is one of success. -/
def accept {α : Type} (decode : Json.Decoder α) (response : Rpc.Response) :
    Except TransportError α :=
  match response.error with
  | some error => .error (.response error)
  | none => (decode (Json.orNull response.result)).mapError .ofDecode

/-- Send a request and decode its result. -/
def request {α : Type} (peer : Peer) (method : String) (params : Json)
    (decode : Json.Decoder α) : Action α := do
  let connection ← get
  let call : Rpc.Request := ⟨.number connection.nextId, method, params⟩
  let sent := { connection with nextId := connection.nextId + 1 }.record
    (.request call connection.requestTimeout)
  set sent
  let response ← liftExcept (peer.request sent.trace)
  liftExcept (accept decode response)

/-- Send a notification. -/
def notify (peer : Peer) (method : String) (params : Json) : Action Unit := do
  let connection ← get
  let sent := connection.record (.notification ⟨method, params⟩)
  set sent
  liftExcept (peer.notify sent.trace)

/-- Start to listen to the transport. Listening leaves no trace. -/
def listen (peer : Peer) : Action Unit := do
  let connection ← get
  liftExcept (peer.listen connection.trace)

/-- Launch the server. -/
def launch (peer : Peer) (config : LaunchConfig) : Action Unit := do
  let connection ← get
  let launched := connection.record (.start config)
  set launched
  liftExcept (peer.start launched.trace)

/-- Reply to a request of the server. -/
def reply (peer : Peer) (id : Rpc.RequestId) (reply : Reply) : Action Unit := do
  let connection ← get
  let replied := connection.record (.reply id reply)
  set replied
  liftExcept (peer.reply replied.trace)

/-- Stop the transport. -/
def stop (peer : Peer) : Action Unit := do
  let connection ← get
  let stopped := connection.record .stop
  set stopped
  liftExcept (peer.stop stopped.trace)

/-- The folder name of a root: the last piece of its URI that is not empty. -/
def folderName (uri : Uri) : String :=
  let trimmed := (uri.text.toList.reverse.dropWhile (· == '/')).reverse
  String.ofList ((Text.split '/' trimmed).getLastD [])

/-- The name and version under which the client introduces itself. -/
def clientInfo : Json := .ofFields [("name", .string "mist"), ("version", .string "0.1.0")]

/-- What the client says when it introduces itself. Without a root there are no workspace
folders, and options are only sent when they are given. -/
def introduction (processId : Json) (root : Option Uri) (options : Option Json) : Json :=
  .ofFields ([("processId", processId), ("capabilities", Capabilities.client),
    ("clientInfo", clientInfo), ("rootUri", Json.orNull (root.map Uri.encode))] ++
    (root.toList.map fun uri => ("workspaceFolders",
      .array [.ofFields [("name", .string (folderName uri)), ("uri", uri.encode)]])) ++
    options.toList.map (("initializationOptions", ·)))

/-- Introduce the client: announce it, keep the server's capabilities and confirm. -/
def introduce (peer : Peer) (processId : Json) (root : Option Uri) (options : Option Json) :
    Action Capabilities.Introduction := do
  let answer ← request peer "initialize" (introduction processId root options)
    Capabilities.Introduction.decode
  modify fun connection =>
    { connection with capabilities := connection.capabilities.or (some answer.capabilities) }
  notify peer "initialized" (.object [])
  return answer

/-- The answer to a request that has no result. -/
def nothing : Json.Decoder Unit
  | .null => .ok ()
  | other => .error (.invalidType other .unit)

/-- Ask the server to shut down. -/
def shutdown (peer : Peer) : Action Unit := request peer "shutdown" .null nothing

/-- Tell the server to exit. -/
def exit (peer : Peer) : Action Unit := notify peer "exit" .null

/-- Run a server command with positional arguments. A `null` result is no result. -/
def execute (peer : Peer) (command : String) (arguments : List Json) : Action (Option Json) :=
  request peer "workspace/executeCommand"
    (.ofFields [("command", .string command), ("arguments", .array arguments)])
    (Json.nullable Json.anyValue)

end Connection

end LanguageClient
