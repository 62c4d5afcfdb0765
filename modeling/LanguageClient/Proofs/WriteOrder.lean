import LanguageClient.Proofs.LoopEvents
import LanguageClient.Transport.Local

/-!
# What is written, and in which order

Notifications, requests and replies go through one queue. As long as the loop goes on, what was
accepted is what was written, followed by what waits in the queue; so the bytes written are the
frames of the first messages that were accepted, in that order. The end of the loop adds no bytes,
unless it is the failure of a write, which may leave a part of one frame behind. After the end
nothing is accepted and nothing is written.

A queue that was closed ends the loop only once it is empty, and by then everything accepted has
been written.
-/

namespace LanguageClient

namespace Exchange

/-- The message that a move offers to the queue. -/
def offered? : ExchangeMove → Option Rpc.Message
  | .send message => some message
  | .ask request => some (.request request)
  | .close | .deliver _ | .receive _ => none

/-- The messages that wait to be written, in their order. -/
def unwritten (exchange : Exchange) : List Rpc.Message := exchange.queue.map Outbound.content

/-- The messages that an exchange accepts when it makes some moves. After the end of the loop it
accepts none. -/
def taken (exchange : Exchange) : List ExchangeMove → List Rpc.Message
  | [] => []
  | move :: moves =>
    (if exchange.ended then [] else (offered? move).toList) ++ (exchange.step move).taken moves

/-- What is accepted by further moves is accepted after what was accepted before. -/
theorem taken_append (exchange : Exchange) (moves later : List ExchangeMove) :
    exchange.taken (moves ++ later) =
      exchange.taken moves ++ (exchange.steps moves).taken later := by
  induction moves generalizing exchange with
  | nil => rfl
  | cons move moves inductionHypothesis =>
    rw [List.cons_append, taken, inductionHypothesis, taken, List.append_assoc]
    rfl

/-- After the end of the loop nothing is accepted. -/
theorem taken_ended {exchange : Exchange} (ended : exchange.ended = true)
    (moves : List ExchangeMove) : exchange.taken moves = [] := by
  induction moves generalizing exchange with
  | nil => rfl
  | cons move moves inductionHypothesis =>
    rw [taken, if_pos ended, inductionHypothesis ((turn_step exchange move).ended ended)]
    rfl

section Step

variable {exchange next : Exchange} {move : ExchangeMove} {cause : EndCause}

/-- While the loop goes on, a turn takes messages from the front of the queue and writes their
frames, and puts what is offered at its end. -/
theorem Turn.queue_written (turn : Turn exchange move next) (going : next.ended = false) :
    ∃ delivered, exchange.unwritten ++ (offered? move).toList = delivered ++ next.unwritten ∧
      next.written = exchange.written ++ delivered.flatMap Rpc.Frame.write := by
  cases turn with
  | sent _ message => exact ⟨[], by simp [unwritten, offered?, Outbound.content], by simp⟩
  | asked _ request => exact ⟨[], by simp [unwritten, offered?, Outbound.content], by simp⟩
  | @wrote _ outbound rest front =>
    refine ⟨[outbound.content], ?_, ?_⟩
    · cases outbound <;> simp [unwritten, front, offered?, await]
    · cases outbound <;> simp [await]
  | spent ended other => simp [going] at ended
  | exhausted _ _ _ _ => simp [finish] at going
  | stopped _ _ => simp [finish] at going
  | crashed _ _ _ => simp [finish] at going
  | broke _ _ _ _ => simp [finish] at going
  | _ => exact ⟨[], by simp [unwritten, offered?, fill], by simp [fill]⟩

/-- A write that succeeds writes the frame of the message at the front of the queue. -/
theorem written_deliver (going : exchange.ended = false) {message : Rpc.Message}
    {rest : List Rpc.Message} (front : exchange.unwritten = message :: rest) :
    (exchange.step (.deliver .complete)).written =
      exchange.written ++ Rpc.Frame.write message := by
  obtain ⟨outbound, others, next, rfl, -⟩ := List.map_eq_cons_iff.mp front
  cases outbound <;> simp [Exchange.step, deliver, going, next, await]

/-- After the end of the loop nothing is written. -/
theorem Turn.written_ended (turn : Turn exchange move next) (ended : exchange.ended = true) :
    next.written = exchange.written := by
  cases turn with
  | spent ended other => rfl
  | closed => rfl
  | _ => simp_all

/-- What ends the loop offers no message. It writes nothing, unless it is a failed write of the
message at the front of the queue. -/
theorem EndsLoop.written (going : exchange.ended = false) (ends : EndsLoop exchange move cause) :
    offered? move = none ∧
    ((exchange.step move).written = exchange.written ∨
      ∃ message rest count error, move = .deliver (.failed count error) ∧
        exchange.unwritten = message :: rest ∧
        (exchange.step move).written =
          exchange.written ++ (Rpc.Frame.write message).take count) := by
  cases ends with
  | inputEnded final =>
    refine ⟨rfl, .inl ?_⟩
    obtain rfl | rfl := final <;> simp [Exchange.step, receive, going, finish]
  | readFailed fatal =>
    refine ⟨rfl, .inl ?_⟩
    simp [Exchange.step, receive, going, fatal, finish]
  | queueClosed empty closed outcome =>
    refine ⟨rfl, .inl ?_⟩
    simp [Exchange.step, deliver, going, empty, closed, finish]
  | writeFailed nonempty count error =>
    cases front : exchange.queue with
    | nil => exact absurd front nonempty
    | cons outbound rest =>
      refine ⟨rfl, .inr ⟨outbound.content, rest.map Outbound.content, count, error, rfl, ?_, ?_⟩⟩
      · simp [unwritten, front]
      · cases outbound <;> simp [Exchange.step, deliver, going, front, giveUp, fill, finish]

end Step

/-- As long as the loop goes on, what was accepted is what was written, and then what waits in the
queue. -/
theorem written_going {moves : List ExchangeMove} (going : (reached moves).ended = false) :
    ∃ sent, fresh.taken moves = sent ++ (reached moves).unwritten ∧
      (reached moves).written = sent.flatMap Rpc.Frame.write := by
  induction moves using List.reverseRecOn with
  | nil => exact ⟨[], rfl, rfl⟩
  | append_singleton moves move inductionHypothesis =>
    have turn := turn_snoc moves move
    have before : (fresh.steps moves).ended = false := turn.going going
    obtain ⟨sent, accepted, written⟩ := inductionHypothesis before
    obtain ⟨delivered, moved, more⟩ := turn.queue_written going
    refine ⟨sent ++ delivered, ?_, ?_⟩
    · calc
        fresh.taken (moves ++ [move]) = fresh.taken moves ++ (offered? move).toList := by
          simp [taken_append, taken, before]
        _ = sent ++ ((reached moves).unwritten ++ (offered? move).toList) := by
          rw [accepted, List.append_assoc]
        _ = sent ++ delivered ++ (reached (moves ++ [move])).unwritten := by
          rw [moved, List.append_assoc]
    · rw [more, written, List.flatMap_append]

/-- Moves after the end of the loop change neither what was accepted nor what was written. -/
theorem written_ended {moves : List ExchangeMove} (ended : (reached moves).ended = true)
    (after : List ExchangeMove) :
    fresh.taken (moves ++ after) = fresh.taken moves ∧
      (reached (moves ++ after)).written = (reached moves).written := by
  constructor
  · have nothing : (fresh.steps moves).taken after = [] := taken_ended ended after
    rw [taken_append, nothing, List.append_nil]
  · induction after using List.reverseRecOn with
    | nil => rw [List.append_nil]
    | append_singleton after move inductionHypothesis =>
      have turn := turn_snoc (moves ++ after) move
      rw [← List.append_assoc, turn.written_ended (reached_halted ended after).1,
        inductionHypothesis]

/-- The write of a message failed after so many bytes of its frame, when exactly the given messages
had been written. -/
def BrokeOff (moves : List ExchangeMove) (sent : List Rpc.Message) (message : Rpc.Message)
    (count : Nat) : Prop :=
  Occurred (fun before move => (reached before).ended = false ∧
    (∃ error, move = .deliver (.failed count error)) ∧
    (∃ rest, (reached before).unwritten = message :: rest) ∧
    (reached before).written = sent.flatMap Rpc.Frame.write) moves

/-- The bytes are the frames of the messages in their order, cut off at some point: between two
frames, or inside a frame if its own write failed there. -/
inductive CutOff (moves : List ExchangeMove) (messages : List Rpc.Message) :
    List UInt8 → Prop where
  | between {sent unsent : List Rpc.Message} (split : messages = sent ++ unsent) :
      CutOff moves messages (sent.flatMap Rpc.Frame.write)
  | inside {sent unsent : List Rpc.Message} {message : Rpc.Message} {count : Nat}
      (split : messages = sent ++ message :: unsent) (failed : BrokeOff moves sent message count) :
      CutOff moves messages
        (sent.flatMap Rpc.Frame.write ++ (Rpc.Frame.write message).take count)

section Halted

variable {before : List ExchangeMove} {move : ExchangeMove} {cause : EndCause}

/-- What a loop that one of its moves ended has accepted is what it had accepted before that move,
and what it has written is what the move left. -/
theorem written_halted (going : (reached before).ended = false)
    (ends : EndsLoop (reached before) move cause) (after : List ExchangeMove) :
    fresh.taken (before ++ move :: after) = fresh.taken before ∧
      (reached (before ++ move :: after)).written = ((reached before).step move).written := by
  have halted : (reached (before ++ [move])).ended = true := by
    rw [reached_snoc]
    exact (ends.step going).1
  have same : before ++ move :: after = before ++ [move] ++ after := by simp
  obtain ⟨accepted, written⟩ := written_ended halted after
  rw [same, accepted, written, reached_snoc, taken_append]
  refine ⟨?_, rfl⟩
  simp [taken, (ends.written going).1]

/-- If the loop ended because the queue was closed, everything accepted was written. -/
theorem written_queueClosed (going : (reached before).ended = false)
    (ends : EndsLoop (reached before) move .queueClosed) (after : List ExchangeMove) :
    (reached (before ++ move :: after)).written =
      (fresh.taken (before ++ move :: after)).flatMap Rpc.Frame.write := by
  obtain ⟨sent, accepted, written⟩ := written_going going
  obtain ⟨same, left⟩ := written_halted going ends after
  cases ends with
  | queueClosed empty closed outcome =>
    have nothing : (reached before).unwritten = [] := by simp [unwritten, empty]
    have still : ((reached before).step (.deliver outcome)).written = (reached before).written := by
      simp [Exchange.step, deliver, going, empty, closed, finish]
    rw [left, same, still, accepted, nothing, List.append_nil, written]

end Halted

/-- The bytes that were written are the frames of what was accepted, cut off at some point.

Proof: a loop that goes on has written the frames of the first messages. One that ended has written
what it had written before the move that ended it, and only a failed write adds to this. -/
theorem written_cutOff (moves : List ExchangeMove) :
    CutOff moves (fresh.taken moves) (reached moves).written := by
  cases halted : (reached moves).ended with
  | false =>
    obtain ⟨sent, accepted, written⟩ := written_going halted
    exact written ▸ .between accepted
  | true =>
    obtain ⟨before, move, after, cause, rfl, going, ends⟩ := ended_by halted
    obtain ⟨sent, accepted, written⟩ := written_going going
    obtain ⟨same, left⟩ := written_halted going ends after
    rw [same, left]
    obtain ⟨-, still | ⟨message, rest, count, error, rfl, front, torn⟩⟩ := ends.written going
    · rw [still, written]
      exact .between accepted
    · rw [torn, written]
      refine .inside (front ▸ accepted) ?_
      exact ⟨before, _, after, rfl, going, ⟨error, rfl⟩, ⟨rest, front⟩, written⟩

end Exchange

namespace LocalTransport

open Rpc (TransportError)

/-- What happens to a transport that was started: it is called, its queue is closed, or its loop
writes or reads. -/
inductive Occasion where
  | notify (notification : Rpc.Notification)
  | request (request : Rpc.Request) (timeout : Option Nat)
  | reply (id : Rpc.RequestId) (reply : Reply)
  | closed
  | wrote (outcome : WriteEnd)
  | read (outcome : Rpc.Frame.Outcome)
deriving DecidableEq, Repr

namespace Occasion

/-- The message that a call is to send. -/
def message? : Occasion → Option Rpc.Message
  | .notify notification => some (.notification notification)
  | .request call _ => some (.request call)
  | .reply id answer => some (.response (responseOf id answer))
  | .closed | .wrote _ | .read _ => none

/-- The move of the exchange. -/
def move : Occasion → ExchangeMove
  | .notify notification => .send (.notification notification)
  | .request call _ => .ask call
  | .reply id answer => .send (.response (responseOf id answer))
  | .closed => .close
  | .wrote outcome => .deliver outcome
  | .read outcome => .receive outcome

/-- The exchange is offered the message of the call. -/
@[simp] theorem offered?_move (occasion : Occasion) :
    Exchange.offered? occasion.move = occasion.message? := by
  cases occasion <;> rfl

end Occasion

/-- What a call returns, or what the loop does. -/
def attempt (transport : LocalTransport) : Occasion → Except TransportError LocalTransport
  | .notify notification => transport.notify notification
  | .request request timeout => (transport.request request timeout).map Prod.snd
  | .reply id reply => transport.reply id reply
  | .closed => .ok (transport.progress Exchange.close)
  | .wrote outcome => .ok (transport.progress (·.deliver outcome))
  | .read outcome => .ok (transport.progress (·.receive outcome))

/-- A call that fails leaves the transport as it is. -/
def occur (transport : LocalTransport) (occasion : Occasion) : LocalTransport :=
  match transport.attempt occasion with
  | .ok next => next
  | .error _ => transport

/-- The transport after all that happens to it. -/
def after (transport : LocalTransport) (occasions : List Occasion) : LocalTransport :=
  occasions.foldl occur transport

/-- The message of a call that succeeds. -/
def admitted (transport : LocalTransport) (occasion : Occasion) : List Rpc.Message :=
  match transport.attempt occasion with
  | .ok _ => occasion.message?.toList
  | .error _ => []

/-- The messages of the calls that succeed, in the order of these calls. -/
def accepted (transport : LocalTransport) : List Occasion → List Rpc.Message
  | [] => []
  | occasion :: occasions =>
    transport.admitted occasion ++ (transport.occur occasion).accepted occasions

/-- The exchange with the server, if one was launched. -/
def exchange? (transport : LocalTransport) : Option Exchange :=
  transport.server.map LaunchedServer.exchange

/-- A transport with an exchange in the place of its own. -/
def withExchange (transport : LocalTransport) (exchange : Exchange) : LocalTransport :=
  transport.progress fun _ => exchange

section Launched

variable {transport : LocalTransport} {exchange : Exchange}

/-- A call to a launched server fails exactly if the loop ended. Otherwise what happens is a move of
the exchange. -/
theorem attempt_launched (launched : transport.exchange? = some exchange) (occasion : Occasion) :
    transport.attempt occasion =
      if exchange.ended = true ∧ occasion.message?.isSome = true then .error .serviceStopped
      else .ok (transport.withExchange (exchange.step occasion.move)) := by
  obtain ⟨server, past, taken⟩ := transport
  cases server with
  | none => cases launched
  | some server =>
    obtain rfl := Option.some.inj launched
    cases occasion with
    | notify notification =>
      cases ended : server.exchange.ended <;>
        simp [attempt, notify, send, Exchange.send, ended, Occasion.message?, Occasion.move,
          Exchange.step, withExchange, progress, bind, Except.bind]
    | request call timeout =>
      cases ended : server.exchange.ended <;>
        simp [attempt, request, Exchange.ask, ended, Occasion.message?, Occasion.move,
          Exchange.step, withExchange, progress, bind, Except.bind, Except.map]
    | reply id answer =>
      cases ended : server.exchange.ended <;>
        simp [attempt, reply, send, Exchange.send, ended, Occasion.message?, Occasion.move,
          Exchange.step, withExchange, progress, bind, Except.bind]
    | closed =>
      simp [attempt, Occasion.message?, Occasion.move, Exchange.step, withExchange, progress]
    | wrote outcome =>
      simp [attempt, Occasion.message?, Occasion.move, Exchange.step, withExchange, progress]
    | read outcome =>
      simp [attempt, Occasion.message?, Occasion.move, Exchange.step, withExchange, progress]

/-- An exchange takes the place of the one before. -/
theorem exchange?_withExchange (launched : transport.exchange? = some exchange)
    (other : Exchange) : (transport.withExchange other).exchange? = some other := by
  obtain ⟨server, past, taken⟩ := transport
  cases server with
  | none => cases launched
  | some server => rfl

/-- What a transport with a server has reported. -/
theorem events_launched (launched : transport.exchange? = some exchange) :
    transport.events = transport.past ++ exchange.events := by
  obtain ⟨server, past, taken⟩ := transport
  cases server with
  | none => cases launched
  | some server =>
    obtain rfl := Option.some.inj launched
    rfl

/-- What a transport with a server has reported once it is stopped. -/
theorem events_stop (launched : transport.exchange? = some exchange)
    (toEnd : Exchange → Exchange) :
    (transport.stop toEnd).events = transport.past ++ (toEnd exchange.close).events := by
  obtain ⟨server, past, taken⟩ := transport
  cases server with
  | none => cases launched
  | some server =>
    obtain rfl := Option.some.inj launched
    simp [stop, events]

/-- Whatever happens to a launched server is a move of the exchange with it. A call that fails is a
move that the exchange does not accept. -/
theorem exchange?_occur (launched : transport.exchange? = some exchange) (occasion : Occasion) :
    (transport.occur occasion).exchange? = some (exchange.step occasion.move) := by
  rw [occur, attempt_launched launched]
  by_cases refused : exchange.ended = true ∧ occasion.message?.isSome = true
  · rw [if_pos refused, launched]
    obtain ⟨ended, call⟩ := refused
    cases occasion with
    | notify notification => simp [Occasion.move, Exchange.step, Exchange.send, ended]
    | request call timeout => simp [Occasion.move, Exchange.step, Exchange.ask, ended]
    | reply id answer => simp [Occasion.move, Exchange.step, Exchange.send, ended]
    | closed => cases call
    | wrote outcome => cases call
    | read outcome => cases call
  · rw [if_neg refused]
    exact exchange?_withExchange launched (exchange.step occasion.move)

/-- A message is accepted exactly while the loop goes on. -/
theorem admitted_launched (launched : transport.exchange? = some exchange) (occasion : Occasion) :
    transport.admitted occasion =
      if exchange.ended then [] else (Exchange.offered? occasion.move).toList := by
  rw [admitted, attempt_launched launched, Occasion.offered?_move]
  cases exchange.ended with
  | false => simp
  | true => cases occasion.message? <;> simp

/-- What happens to a transport with a server does not change what was reported before it. -/
theorem past_occur (launched : transport.exchange? = some exchange) (occasion : Occasion) :
    (transport.occur occasion).past = transport.past := by
  rw [occur, attempt_launched launched]
  by_cases refused : exchange.ended = true ∧ occasion.message?.isSome = true
  · rw [if_pos refused]
  · rw [if_neg refused]
    rfl

/-- The exchange and the accepted messages follow from the moves alone. -/
theorem after_launched (launched : transport.exchange? = some exchange)
    (occasions : List Occasion) :
    (transport.after occasions).exchange? =
        some (exchange.steps (occasions.map Occasion.move)) ∧
      (transport.after occasions).past = transport.past ∧
      transport.accepted occasions = exchange.taken (occasions.map Occasion.move) := by
  induction occasions generalizing transport exchange with
  | nil => exact ⟨launched, rfl, rfl⟩
  | cons occasion occasions inductionHypothesis =>
    obtain ⟨reached, past, accepted⟩ := inductionHypothesis (exchange?_occur launched occasion)
    refine ⟨reached, past.trans (past_occur launched occasion), ?_⟩
    rw [LocalTransport.accepted, admitted_launched launched, accepted]
    rfl

end Launched

section Started

variable {transport started : LocalTransport} {config : LaunchConfig}
  {created : Except String Unit}

/-- A transport that was started has a fresh exchange. -/
theorem exchange?_start (launched : transport.start config created = (.ok (), started)) :
    started.exchange? = some Exchange.fresh := by
  rw [start] at launched
  split at launched
  · simp at launched
  · cases created with
    | error reason => simp at launched
    | ok =>
      obtain ⟨-, rfl⟩ := Prod.mk.inj launched
      rfl

/-- Notifications, requests and replies of a transport that was started, in any order and however
they come between what its loop reads and writes. The bytes written are the frames of the accepted
messages, in the order in which they were accepted, cut off at some point; inside a frame only if
the write of that frame failed. As long as the loop goes on, it has written the first messages in
full and the others wait, and the next to be written is the first of these. If the loop ended
because the queue was closed, all that was accepted was written in full. Stopping the transport is
to close the queue and to let the loop go on.

Proof: what was accepted is at every move what was written and then what is queued, whichever kind
of call brought it. A closed queue ends the loop only once nothing is queued. -/
theorem accepted_messages_are_written_in_order
    (launched : transport.start config created = (.ok (), started)) (occasions : List Occasion) :
    let moves := occasions.map Occasion.move
    let exchange := Exchange.reached moves
    let accepted := started.accepted occasions
    (started.after occasions).exchange? = some exchange ∧
    Exchange.CutOff moves accepted exchange.written ∧
    (exchange.ended = false → ∃ sent queued, accepted = sent ++ queued ∧
      exchange.written = sent.flatMap Rpc.Frame.write ∧
      ∀ message rest, queued = message :: rest →
        (exchange.step (.deliver .complete)).written =
          (sent ++ [message]).flatMap Rpc.Frame.write) ∧
    (Occurred (fun before move => (Exchange.reached before).ended = false ∧
        Exchange.EndsLoop (Exchange.reached before) move .queueClosed) moves →
      exchange.written = accepted.flatMap Rpc.Frame.write) ∧
    ∀ rest : List Occasion,
      ((started.after occasions).stop (·.steps (rest.map Occasion.move))).events =
        (started.after (occasions ++ .closed :: rest)).events := by
  intro moves exchange accepted
  obtain ⟨reached, past, taken⟩ := after_launched (exchange?_start launched) occasions
  change accepted = _ at taken
  refine ⟨reached, ?_, ?_, ?_, ?_⟩
  · rw [taken]
    exact Exchange.written_cutOff moves
  · intro going
    obtain ⟨sent, split, written⟩ := Exchange.written_going going
    refine ⟨sent, exchange.unwritten, taken.trans split, written, ?_⟩
    intro message rest front
    rw [Exchange.written_deliver going front, written]
    simp
  · rintro ⟨before, move, after, whole, going, ends⟩
    have complete := Exchange.written_queueClosed going ends after
    rw [← whole] at complete
    rw [taken]
    exact complete
  · intro rest
    obtain ⟨final, still, -⟩ :=
      after_launched (exchange?_start launched) (occasions ++ .closed :: rest)
    rw [events_stop reached, events_launched final, past, still]
    simp [Exchange.steps, Occasion.move, Exchange.step]

end Started

/-- Calls of all three kinds, while the server asks and answers, with the queue closed before the
last of them is written and one call after the end. -/
def errand : List Occasion :=
  [.notify ⟨"textDocument/didOpen", .null⟩,
    .request ⟨.number 1, "workspace/executeCommand", .null⟩ none,
    .read (.message (.request ⟨.text "a", "workspace/configuration", .null⟩)), .wrote .complete,
    .reply (.text "a") (.result (.array [])), .wrote .complete,
    .read (.message (.response ⟨.number 1, some .null, none⟩)), .closed, .wrote .complete] ++
  .wrote .complete :: [.notify ⟨"textDocument/didClose", .null⟩]

/-- Of the errand all is written that was accepted before the end, and nothing else. -/
theorem errand_is_written_in_full :
    let config := LaunchConfig.inDirectory "/usr/bin/tinymist" "/work" []
    let started := (fresh.start config (.ok ())).2
    let moves := errand.map Occasion.move
    fresh.start config (.ok ()) = (.ok (), started) ∧
    started.accepted errand =
      [.notification ⟨"textDocument/didOpen", .null⟩,
        .request ⟨.number 1, "workspace/executeCommand", .null⟩,
        .response ⟨.text "a", some (.array []), none⟩] ∧
    (Exchange.reached moves).written =
      (started.accepted errand).flatMap Rpc.Frame.write := by
  intro config started moves
  have launched : fresh.start config (.ok ()) = (.ok (), started) := rfl
  have ended : Occurred (fun before move => (Exchange.reached before).ended = false ∧
      Exchange.EndsLoop (Exchange.reached before) move .queueClosed) moves :=
    ⟨_, _, _, List.map_append, by decide +kernel,
      .queueClosed (by decide +kernel) (by decide +kernel) .complete⟩
  exact ⟨launched, rfl,
    (accepted_messages_are_written_in_order launched errand).2.2.2.1 ended⟩

end LocalTransport

end LanguageClient
