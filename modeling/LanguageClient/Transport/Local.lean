import LanguageClient.Call
import LanguageClient.Transport.Exchange

/-!
# A transport to a child process

The transport launches a server as a child process and talks to it in an exchange. It can be
started again after it was stopped. All servers report to one stream of events, which can be
taken once.

Everything runs on one thread, and something else gets its turn only where a call waits. A start
never waits, so it is a single step.
-/

namespace LanguageClient

open Rpc (TransportError)

/-- A server that was launched: the exchange with it, and the usual timeout of a request in
milliseconds. -/
structure LaunchedServer where
  exchange : Exchange
  timeout : Nat
deriving DecidableEq, Repr

/-- A transport: the server if one was launched and not stopped, the events reported before its
exchange, and whether the stream of events was taken. -/
structure LocalTransport where
  server : Option LaunchedServer
  past : List TransportEvent
  taken : Bool
deriving DecidableEq, Repr

namespace LocalTransport

/-- A transport that was not started. -/
def fresh : LocalTransport := ⟨none, [], false⟩

/-- All events reported so far. -/
def events (transport : LocalTransport) : List TransportEvent :=
  transport.past ++ (transport.server.map (·.exchange.events)).getD []

/-- Take the stream of events. -/
def subscribe (transport : LocalTransport) : Except TransportError LocalTransport :=
  if transport.taken then .error (.protocol "transport events already subscribed")
  else .ok { transport with taken := true }

/-- Launch a server, given whether the process could be created. A start does not wait for anything
between its two reports, so nothing that the loop of the new server reports comes between them. -/
def start (transport : LocalTransport) (config : LaunchConfig) (created : Except String Unit) :
    Except TransportError Unit × LocalTransport :=
  if transport.server.isSome then (.error (.protocol "server already started"), transport)
  else
    let starting := { transport with past := transport.past ++ [.status .starting] }
    match created with
    | .error reason => (.error (.serverSpawn config.command reason), starting)
    | .ok () =>
      (.ok (),
        { starting with
          server := some ⟨.fresh, config.timeoutSeconds * 1000⟩
          past := starting.past ++ [.status .running] })

/-- Send a message. -/
def send (transport : LocalTransport) (message : Rpc.Message) :
    Except TransportError LocalTransport :=
  match transport.server with
  | none => .error .notStarted
  | some server => do
    let exchange ← server.exchange.send message
    .ok { transport with server := some { server with exchange := exchange } }

/-- Send a notification. -/
def notify (transport : LocalTransport) (notification : Rpc.Notification) :
    Except TransportError LocalTransport :=
  transport.send (.notification notification)

/-- The response that carries a reply. -/
def responseOf (id : Rpc.RequestId) : Reply → Rpc.Response
  | .result value => ⟨id, some value, none⟩
  | .error error => ⟨id, none, some error⟩

/-- Reply to a request of the server. -/
def reply (transport : LocalTransport) (id : Rpc.RequestId) (reply : Reply) :
    Except TransportError LocalTransport :=
  transport.send (.response (responseOf id reply))

/-- A request that was sent: the slot of its answer and its timeout in milliseconds. -/
structure Sent where
  slot : Nat
  timeout : Nat
deriving DecidableEq, Repr

/-- Send a request, with a timeout of its own or the usual one. -/
def request (transport : LocalTransport) (request : Rpc.Request) (timeout : Option Nat) :
    Except TransportError (Sent × LocalTransport) :=
  match transport.server with
  | none => .error .notStarted
  | some server => do
    let (slot, exchange) ← server.exchange.ask request
    .ok (⟨slot, timeout.getD server.timeout⟩,
      { transport with server := some { server with exchange := exchange } })

/-- Let the exchange go on. -/
def progress (transport : LocalTransport) (advance : Exchange → Exchange) : LocalTransport :=
  { transport with
    server := transport.server.map fun server =>
      { server with exchange := advance server.exchange } }

/-- Stop the server: the queue is closed, and the exchange goes on to its end. -/
def stop (transport : LocalTransport) (toEnd : Exchange → Exchange) : LocalTransport :=
  match transport.server with
  | none => transport
  | some server =>
    { transport with
      server := none
      past := transport.past ++ (toEnd server.exchange.close).events }

end LocalTransport

end LanguageClient
