import LanguageClient.Rehearsal.Log
import LanguageClient.Rehearsal.ServerProcess
import LanguageClient.Rehearsal.Values
import LanguageClient.Server.FileSystem
import LanguageClient.Transport.Local

/-!
# Rehearsing a transport

A conversation is a transport to a scripted server process. Between the steps both sides go on
until each waits for the other or for time to pass. Time passes only while a step waits: for
events, or for the answer to a request up to its timeout.
-/

namespace LanguageClient.Rehearsal

/-- A transport with its server process, the time in milliseconds, the actions of the next server,
and the number of events that were read. -/
structure Conversation where
  transport : LocalTransport
  process : ServerProcess
  clock : Nat
  program : List ServerAction
  files : FileSystem
  eventsRead : Nat
deriving DecidableEq, Repr

/-- The failure to write to a process that does not read. -/
def brokenPipe : Rpc.TransportError := .io "Broken pipe (os error 32)"

/-- The two sides of a conversation. -/
structure Sides where
  exchange : Exchange
  process : ServerProcess
deriving DecidableEq, Repr

namespace Sides

/-- Let the client handle what the server has written, for at most a number of frames. The end of
the output shows once the process exited. -/
def readOutput : Nat → Sides → Sides
  | 0, sides => sides
  | count + 1, sides =>
    if sides.exchange.ended then sides
    else
      let found :=
        match Rpc.Frame.readReady sides.process.output with
        | some found => some found
        | none =>
          if sides.process.exited then some (Rpc.Frame.read sides.process.output) else none
      match found with
      | none => sides
      | some (outcome, rest) =>
        readOutput count
          ⟨sides.exchange.receive outcome, { sides.process with output := rest }⟩

/-- Let the client write what waits in its queue, for at most a number of messages. -/
def writeQueue : Nat → Sides → Sides
  | 0, sides => sides
  | count + 1, sides =>
    match sides.exchange.ended, sides.exchange.queue with
    | false, outbound :: _ =>
      if sides.process.refusesInput then
        writeQueue count { sides with exchange := sides.exchange.deliver (.failed 0 brokenPipe) }
      else
        writeQueue count
          ⟨sides.exchange.deliver .complete,
            { sides.process with
              input := sides.process.input ++ [Rpc.Frame.write outbound.content] }⟩
    | _, _ => sides

/-- One round: the server acts, the client reads, the client writes. -/
def round (clock : Nat) (sides : Sides) : Sides :=
  let acted := { sides with process := sides.process.act clock }
  let read := acted.readOutput (acted.process.output.length + 2)
  read.writeQueue read.exchange.queue.length

/-- Rounds until both sides wait. Every round but the first and the last lets the server finish
an action. -/
def rounds (clock : Nat) : Nat → Sides → Sides
  | 0, sides => sides
  | count + 1, sides => rounds clock count (sides.round clock)

end Sides

namespace Conversation

/-- Let both sides go on until they wait. -/
def settle (conversation : Conversation) : Conversation :=
  match conversation.transport.server with
  | none => conversation
  | some server =>
    let sides := Sides.rounds conversation.clock (conversation.process.actions.length + 3)
      ⟨server.exchange, conversation.process⟩
    { conversation with
      transport := conversation.transport.progress fun _ => sides.exchange
      process := sides.process }

/-- Let time pass until a condition holds, up to a limit if there is one, and for at most a number
of times that the server wakes up. -/
def pass (limit : Option Nat) (enough : Conversation → Bool) :
    Nat → Conversation → Conversation
  | 0, conversation => conversation
  | count + 1, conversation =>
    if enough conversation then conversation
    else
      let reached := { conversation with clock := limit.getD conversation.clock }
      match conversation.process.wakeAt with
      | none => reached
      | some due =>
        if limit.all (due ≤ ·) then
          pass limit enough count { conversation with clock := due }.settle
        else reached

/-- Let time pass until a condition holds, up to a limit if there is one. -/
def passUntil (conversation : Conversation) (limit : Option Nat)
    (enough : Conversation → Bool) : Conversation :=
  pass limit enough (conversation.process.actions.length + 1) conversation

/-- Events that were reported and not read. -/
def unread (conversation : Conversation) : List TransportEvent :=
  conversation.transport.events.drop conversation.eventsRead

/-- Wait for a number of events. -/
def readEvents (conversation : Conversation) (count : Nat) :
    List TransportEvent × Conversation :=
  let waited := conversation.passUntil none fun state => count ≤ state.unread.length
  let found := waited.unread.take count
  (found, { waited with eventsRead := waited.eventsRead + found.length })

/-- Whether the process of a launch can be created: the directory is entered first, and the
command is looked up from there. Without a command of its own a launch gets the scripted server. -/
def create (files : FileSystem) (root : String) (command : Option String) :
    Except FileError Unit := do
  files.directoryOf root.toList
  let place ← files.follow root.toList
  match command with
  | none => .ok ()
  | some command => do
    let _ ← { files with workingDirectory := place }.run command.toList
    .ok ()

/-- Launch a server. A command of its own is a program that exits at once. -/
def start (conversation : Conversation) (command : Option String) (root : String)
    (timeoutSeconds : Nat) (program : List ServerAction) :
    Except Rpc.TransportError Unit × Conversation :=
  let config : LaunchConfig := ⟨command.getD "server", [], [], root, timeoutSeconds⟩
  let created := (create conversation.files root command).mapError FileError.message
  let (result, transport) := conversation.transport.start config created
  let launched := { conversation with transport := transport }
  match result with
  | .error error => (.error error, launched)
  | .ok () =>
    let actions := if command.isSome then [.exit] else program
    (.ok (), { launched with process := .fresh actions }.settle)

/-- Stop the server. What was accepted is written first. -/
def stop (conversation : Conversation) : Conversation :=
  { conversation with
    transport := conversation.transport.stop fun exchange =>
      (Sides.writeQueue exchange.queue.length ⟨exchange, conversation.process⟩).exchange.deliver
        .complete }

/-- Continue with what a call over the transport left. -/
def continueWith (conversation : Conversation)
    (result : Except Rpc.TransportError LocalTransport) :
    Except Rpc.TransportError Unit × Conversation :=
  match result with
  | .error error => (.error error, conversation)
  | .ok transport => (.ok (), { conversation with transport := transport }.settle)

/-- A request that is on its way: its method, the slot of its answer and when it is late. An answer
that needs no time to pass is never late. -/
structure Pending where
  method : String
  slot : Nat
  deadline : Nat
deriving DecidableEq, Repr

/-- A request and its timeout. -/
structure Asked where
  request : Rpc.Request
  timeout : Option Nat
deriving DecidableEq, Repr

/-- Send requests in order, without letting the other side go on between them. -/
def askAll (conversation : Conversation) :
    List Asked → List (Except Rpc.TransportError Pending) × Conversation
  | [] => ([], conversation)
  | asked :: rest =>
    match conversation.transport.request asked.request asked.timeout with
    | .error error =>
      let (others, after) := askAll conversation rest
      (.error error :: others, after)
    | .ok (sent, transport) =>
      let (others, after) := askAll { conversation with transport := transport } rest
      (.ok ⟨asked.request.method, sent.slot, conversation.clock + sent.timeout⟩ :: others, after)

/-- The answer to a request, if it arrived. -/
def answer? (conversation : Conversation) (slot : Nat) : Option SlotAnswer :=
  conversation.transport.server.bind fun server => server.exchange.answer? slot

/-- Wait for the answer to a request. -/
def waitFor (conversation : Conversation) (pending : Pending) :
    Except Rpc.TransportError Rpc.Response × Conversation :=
  let waited := conversation.passUntil (some pending.deadline) fun state =>
    (state.answer? pending.slot).isSome
  match waited.answer? pending.slot with
  | some answer => (answer.toExcept, waited)
  | none => (.error (.requestTimeout pending.method), waited)

/-- Wait for the answers to requests, given in the order of their deadlines; yields the answers by
slot. -/
def waitAll (conversation : Conversation) :
    List Pending → List (Nat × Except Rpc.TransportError Rpc.Response) × Conversation
  | [] => ([], conversation)
  | pending :: rest =>
    let (result, waited) := conversation.waitFor pending
    let (others, after) := waitAll waited rest
    ((pending.slot, result) :: others, after)

/-- The requests that were sent. -/
def sentOf : Except Rpc.TransportError Pending → Option Pending
  | .ok pending => some pending
  | .error _ => none

/-- Send requests at once and wait for all answers. -/
def requestAll (conversation : Conversation) (asked : List Asked) :
    List (Except Rpc.TransportError Rpc.Response) × Conversation :=
  let (sent, after) := conversation.askAll asked
  let ordered := (sent.filterMap sentOf).mergeSort fun left right =>
    left.deadline ≤ right.deadline
  let (answers, waited) := after.settle.waitAll ordered
  (sent.map fun attempt => attempt.bind fun pending =>
    (answers.lookup pending.slot).getD (.error .serviceStopped), waited)

/-- Read the identifier of a request. -/
def readId (input : Json) : Described Rpc.RequestId :=
  match Rpc.RequestId.decode (valueOf input "id") with
  | .ok id => .ok id
  | .error _ => complain "id"

/-- Read a request. -/
def readAsked : Reader Asked := fun _ value => do
  let id ← readId value
  let method ← textOf value "method"
  return ⟨⟨id, method, valueOf value "params"⟩, ← optional Read.nat value "timeout_ms"⟩

/-- Read what is replied to a request of the server. -/
def readReply (input : Json) : Described Reply :=
  match Json.nonNull? (input.member? "error") with
  | none => .ok (.result (valueOf input "result"))
  | some details =>
    match Rpc.ResponseError.decode details with
    | .ok error => .ok (.error error)
    | .error _ => complain "error"

/-- Take one step: what it reports, and the conversation after it. -/
def step (conversation : Conversation) (input : Json) : Described (Json × Conversation) := do
  let done : Except Rpc.TransportError Unit → Json := Log.result fun _ => .string "ok"
  let answered : Except Rpc.TransportError Rpc.Response → Json :=
    Log.result fun response => Log.ok response.encode
  match ← textOf input "do" with
  | "subscribe" =>
    let (result, next) := match conversation.transport.subscribe with
      | .ok transport => (.ok (), { conversation with transport := transport })
      | .error error => (.error error, conversation)
    return (done result, next)
  | "start" =>
    let command ← optional Read.text input "command"
    let root ← defaulted Read.text input "root" "/"
    let timeout ← defaulted Read.nat input "timeout_secs" 5
    let program ← defaulted (Read.list Read.serverAction) input "server" conversation.program
    let (result, next) := conversation.start command root timeout program
    return (done result, next)
  | "notify" =>
    let method ← textOf input "method"
    let (result, next) := conversation.continueWith
      (conversation.transport.notify ⟨method, valueOf input "params"⟩)
    return (done result, next)
  | "reply" =>
    let id ← readId input
    let reply ← readReply input
    let (result, next) := conversation.continueWith (conversation.transport.reply id reply)
    return (done result, next)
  | "stop" => return (.string "ok", conversation.stop)
  | "request" =>
    let (results, next) := conversation.requestAll [← readAsked "request" input]
    return (Json.orNull (results.head?.map answered), next)
  | "requests" =>
    let asked ← defaulted (Read.list readAsked) input "list" []
    let (results, next) := conversation.requestAll asked
    return (.array (results.map answered), next)
  | "events" =>
    let (events, next) := conversation.readEvents (← defaulted Read.nat input "count" 0)
    return (.array (events.map Log.arrival), next)
  | "pending_events" => return (.ofNat conversation.unread.length, conversation)
  | _ => complain "do"

/-- Read a conversation on a machine. -/
def ofJson (files : FileSystem) (input : Json) : Described Conversation := do
  let program ← defaulted (Read.list Read.serverAction) input "server" []
  return ⟨.fresh, .fresh program, 0, program, files, 0⟩

end Conversation

end LanguageClient.Rehearsal
