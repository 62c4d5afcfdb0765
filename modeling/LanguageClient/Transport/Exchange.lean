import LanguageClient.Rpc.Frame
import LanguageClient.Transport.Event

/-!
# The exchange with a server

One loop talks to the server. It takes messages from a queue in the order in which they were
accepted and writes each as a frame, and it handles what is read from the server. Which of the two
comes next is left open, so every interleaving is a sequence of the moves below.

A request has a slot for its answer. The slot is filled exactly once: with the response that
carries the request's identifier, with the error of its own write, or with the end of the service.
A later request under the same identifier takes the place of an earlier one, whose slot is then
filled with the end of the service.

The loop ends when the queue is closed and empty, when a write fails, and when the input from the
server ends or cannot be read on. At its end every open slot is filled, and the last event is
reported.
-/

namespace LanguageClient

open Rpc (TransportError Frame.Outcome)

/-- What waits to be written: a message, or a request with the slot of its answer. -/
inductive Outbound where
  | message (message : Rpc.Message)
  | request (request : Rpc.Request) (slot : Nat)
deriving DecidableEq, Repr

namespace Outbound

/-- The message that is written. -/
def content : Outbound → Rpc.Message
  | .message body => body
  | .request call _ => .request call

/-- The slot of a request. -/
def slot? : Outbound → Option Nat
  | .message _ => none
  | .request _ slot => some slot

end Outbound

/-- How the write of a frame ended. A failed write may leave a part of the frame behind. -/
inductive WriteEnd where
  | complete
  | failed (count : Nat) (error : TransportError)
deriving DecidableEq, Repr

/-- What a slot is filled with. -/
inductive SlotAnswer where
  | response (response : Rpc.Response)
  | error (error : TransportError)
deriving DecidableEq, Repr

/-- What a request learns from its slot. -/
def SlotAnswer.toExcept : SlotAnswer → Except TransportError Rpc.Response
  | .response answer => .ok answer
  | .error cause => .error cause

/-- The state of the loop: the queue and whether it was closed, the written requests that wait
for their responses, and what was done so far: requests accepted, bytes written, slots filled and
events reported, in order. -/
structure Exchange where
  queue : List Outbound
  closed : Bool
  waiting : List (Rpc.RequestId × Nat)
  accepted : Nat
  written : List UInt8
  answers : List (Nat × SlotAnswer)
  events : List TransportEvent
  ended : Bool
deriving DecidableEq, Repr

namespace Exchange

/-- An exchange in which nothing happened. -/
def fresh : Exchange := ⟨[], false, [], 0, [], [], [], false⟩

/-- Fill a slot. -/
def fill (exchange : Exchange) (slot : Nat) (answer : SlotAnswer) : Exchange :=
  { exchange with answers := exchange.answers ++ [(slot, answer)] }

/-- What a slot was filled with. -/
def answer? (exchange : Exchange) (slot : Nat) : Option SlotAnswer := exchange.answers.lookup slot

/-- Slots that are not filled: those of requests that wait for a response or to be written. -/
def openSlots (exchange : Exchange) : List Nat :=
  exchange.waiting.map Prod.snd ++ exchange.queue.filterMap Outbound.slot?

/-- End the loop, with a status to report if there is one. -/
def finish (exchange : Exchange) (status : Option TransportStatus) : Exchange :=
  { exchange with
    queue := []
    waiting := []
    answers := exchange.answers ++
      exchange.openSlots.map fun slot => (slot, .error .serviceStopped)
    events := exchange.events ++ status.toList.map .status ++ [.disconnected]
    ended := true }

/-- Accept a message. After the end nothing is accepted. -/
def send (exchange : Exchange) (message : Rpc.Message) : Except TransportError Exchange :=
  if exchange.ended then .error .serviceStopped
  else .ok { exchange with queue := exchange.queue ++ [.message message] }

/-- Accept a request; yields the slot of its answer. -/
def ask (exchange : Exchange) (request : Rpc.Request) :
    Except TransportError (Nat × Exchange) :=
  if exchange.ended then .error .serviceStopped
  else
    .ok (exchange.accepted,
      { exchange with
        queue := exchange.queue ++ [.request request exchange.accepted]
        accepted := exchange.accepted + 1 })

/-- Close the queue. What it holds is still written. -/
def close (exchange : Exchange) : Exchange := { exchange with closed := true }

/-- Wait for the response to what was written. -/
def await (exchange : Exchange) : Outbound → Exchange
  | .message _ => exchange
  | .request request slot =>
    let replaced := exchange.waiting.lookup request.id
    let kept := exchange.waiting.filter (·.1 != request.id)
    { exchange with
      waiting := kept ++ [(request.id, slot)]
      answers := exchange.answers ++
        replaced.toList.map fun earlier => (earlier, .error .serviceStopped) }

/-- Give up what could not be written. -/
def giveUp (exchange : Exchange) (error : TransportError) : Outbound → Exchange
  | .message _ => exchange
  | .request _ slot => exchange.fill slot (.error error)

/-- Take the next message from the queue and write it. A queue that is closed and empty ends the
loop. -/
def deliver (exchange : Exchange) (outcome : WriteEnd) : Exchange :=
  if exchange.ended then exchange
  else
    match exchange.queue with
    | [] => if exchange.closed then exchange.finish none else exchange
    | outbound :: rest =>
      let frame := Rpc.Frame.write outbound.content
      match outcome with
      | .complete =>
        { exchange with queue := rest, written := exchange.written ++ frame }.await outbound
      | .failed count error =>
        ({ exchange with
          queue := rest
          written := exchange.written ++ frame.take count }.giveUp error outbound).finish
          (some .crashed)

/-- Match a response with the request that waits for it. Other responses are dropped. -/
def settle (exchange : Exchange) (response : Rpc.Response) : Exchange :=
  match exchange.waiting.lookup response.id with
  | some slot =>
    { exchange with waiting := exchange.waiting.filter (·.1 != response.id) }.fill slot
      (.response response)
  | none => exchange

/-- Handle what was read from the server. Payloads that do not decode are skipped. Reading that
breaks off without a result counts as the end of the input. -/
def receive (exchange : Exchange) (outcome : Rpc.Frame.Outcome) : Exchange :=
  if exchange.ended then exchange
  else
    match outcome with
    | .message (.response answer) => exchange.settle answer
    | .message message => { exchange with events := exchange.events ++ [.message message] }
    | .ended | .noRoom => exchange.finish (some .stopped)
    | .failed error =>
      if error.isPayloadOnly then exchange else exchange.finish (some .crashed)

end Exchange

/-- One move of an exchange: something is accepted or the queue closed, or the loop takes the next
message to write or what was read. -/
inductive ExchangeMove where
  | send (message : Rpc.Message)
  | ask (request : Rpc.Request)
  | close
  | deliver (outcome : WriteEnd)
  | receive (outcome : Rpc.Frame.Outcome)
deriving DecidableEq, Repr

namespace Exchange

/-- Make a move. What is not accepted leaves the exchange as it is. -/
def step (exchange : Exchange) : ExchangeMove → Exchange
  | .send message =>
    match exchange.send message with
    | .ok next => next
    | .error _ => exchange
  | .ask request =>
    match exchange.ask request with
    | .ok (_, next) => next
    | .error _ => exchange
  | .close => exchange.close
  | .deliver outcome => exchange.deliver outcome
  | .receive outcome => exchange.receive outcome

/-- Make moves in order. -/
def steps (exchange : Exchange) (moves : List ExchangeMove) : Exchange :=
  moves.foldl step exchange

end Exchange

end LanguageClient
