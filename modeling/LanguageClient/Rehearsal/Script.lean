import LanguageClient.Call
import LanguageClient.Rehearsal.Description

/-!
# A scripted server

A script says how the server answers and which calls fail. The response to an executed command is
found by the command's name, any other by the method; a request without one is answered with
nothing, and an introduction with no capabilities. Faults are found by the notification's method
or by the name of the call.
-/

namespace LanguageClient.Rehearsal

/-- Responses and faults by name. -/
structure Script where
  responses : List (String × Json)
  faults : List (String × Json)
deriving DecidableEq, Repr

namespace Script

/-- The cause that a fault stands for. An unknown name is that of a server that did not start. -/
def causeOf : Json → Rpc.TransportError
  | .string "ServiceStopped" => .serviceStopped
  | .string "NotStarted" => .notStarted
  | .string "Eof" => .eof
  | .object [("Io", .string reason)] => .io reason
  | .object [("Protocol", .string reason)] => .protocol reason
  | .object [("RequestTimeout", .string method)] => .requestTimeout method
  | .object [("Deserialize", .string reason)] => .deserialize reason
  | .object [("Serialize", .string reason)] => .serialize reason
  | .object [(server, .string reason)] => .serverSpawn server reason
  | _ => .protocol "unknown fault"

/-- Fail where a fault is scripted. -/
def fault (script : Script) (name : String) : Except Rpc.TransportError Unit :=
  match Json.find? name script.faults with
  | some fault => .error (causeOf fault)
  | none => .ok ()

/-- The name under which the response to a request is scripted. -/
def entryName? (request : Rpc.Request) : Option String :=
  if request.method == "workspace/executeCommand" then
    (request.params.member? "command").bind Json.text?
  else some request.method

/-- The scripted response to a request. -/
def entry? (script : Script) (request : Rpc.Request) : Option Json :=
  (entryName? request).bind fun name => Json.find? name script.responses

/-- The result of a request without a scripted response. -/
def usualResult (method : String) : Option Json :=
  if method == "initialize" then some (.ofFields [("capabilities", .object [])]) else none

/-- Answer a request. -/
def respond (script : Script) (request : Rpc.Request) :
    Except Rpc.TransportError Rpc.Response :=
  match script.entry? request with
  | none => .ok ⟨request.id, usualResult request.method, none⟩
  | some entry =>
    match entry.member? "fault", Json.nonNull? (entry.member? "error") with
    | some fault, _ => .error (causeOf fault)
    | none, some details =>
      match Rpc.ResponseError.decode details with
      | .ok error => .ok ⟨request.id, none, some error⟩
      | .error _ => .error (.protocol "unknown error")
    | none, none => .ok ⟨request.id, Json.nonNull? (entry.member? "result"), none⟩

/-- The server that follows a script. -/
def peer (script : Script) : Peer where
  listen := fun _ => script.fault "subscribe"
  start := fun _ => script.fault "start"
  request := fun trace =>
    match trace.getLast? with
    | some (.request request _) => script.respond request
    | _ => .error .notStarted
  notify := fun trace =>
    match trace.getLast? with
    | some (.notification notification) => script.fault notification.method
    | _ => .error .notStarted
  reply := fun _ => script.fault "reply"
  stop := fun _ => script.fault "stop"

/-- Add the responses of a description. Later ones take the place of earlier ones. -/
def respondAlso (script : Script) (input : Json) : Described Script := do
  let responses ← defaulted Read.members input "responses" []
  return { script with responses := responses ++ script.responses }

/-- Take all faults from a description. -/
def failInstead (script : Script) (input : Json) : Described Script := do
  return { script with faults := ← defaulted Read.members input "faults" [] }

/-- Read a script. -/
def ofJson (input : Json) : Described Script := do
  (← (⟨[], []⟩ : Script).respondAlso input).failInstead input

end Script

end LanguageClient.Rehearsal
