import LanguageClient.Proofs.FrameBoundaries
import LanguageClient.Proofs.RequestMatching

/-!
# What the loop reports

Requests and notifications of the server are reported as they are handled, in the order in which
they were read; responses and payloads that do not decode are not reported. When the loop ends it
reports why, unless it ends because nothing is left to write, and then that the conversation ended.
Nothing is reported after that.

What the loop reported can be read off the moves alone. If reading ended it, the loop has handled
all that was read before, so nothing that the server sent up to there is lost.
-/

namespace LanguageClient

/-- The message of an outcome, if it is one that answers no request. -/
def Rpc.Frame.Outcome.unasked? : Rpc.Frame.Outcome → Option Rpc.Message
  | .message (.response _) => none
  | .message content => some content
  | .ended | .noRoom | .failed _ => none

/-- After every outcome but the last reading goes on. -/
theorem Rpc.Frame.readFrames_last {fuel : Nat} {bytes : List UInt8}
    {before after : List Rpc.Frame.Outcome} {outcome : Rpc.Frame.Outcome}
    (split : (Rpc.Frame.readFrames fuel bytes).1 = before ++ outcome :: after)
    (final : outcome.continues = false) : after = [] := by
  induction fuel generalizing bytes before with
  | zero => simp [readFrames] at split
  | succ fuel inductionHypothesis =>
    cases going : (read bytes).1.continues with
    | false =>
      simp only [readFrames, going, Bool.false_eq_true, if_false] at split
      cases before with
      | nil => exact (List.cons.inj split).2.symm
      | cons first others => simp at split
    | true =>
      simp only [readFrames, going, if_true] at split
      cases before with
      | nil =>
        obtain ⟨rfl, -⟩ := List.cons.inj split
        exact absurd (going.symm.trans final) (by decide)
      | cons first others => exact inductionHypothesis (List.cons.inj split).2

namespace Exchange

/-- What was read and handed to the loop, in the order of the input. -/
def received? : ExchangeMove → Option Rpc.Frame.Outcome
  | .receive outcome => some outcome
  | _ => none

/-- All that was read and handed to the loop. -/
def inbound (moves : List ExchangeMove) : List Rpc.Frame.Outcome := moves.filterMap received?

/-- The requests and notifications of the server among what was read. -/
def unasked (outcomes : List Rpc.Frame.Outcome) : List Rpc.Message :=
  outcomes.filterMap Rpc.Frame.Outcome.unasked?

/-- Why the loop ends. -/
inductive EndCause where
  | inputEnded
  | readFailed (error : Rpc.TransportError)
  | writeFailed (error : Rpc.TransportError)
  | queueClosed
deriving DecidableEq, Repr

/-- The status that is reported for a cause. -/
def EndCause.status? : EndCause → Option TransportStatus
  | .inputEnded => some .stopped
  | .readFailed _ | .writeFailed _ => some .crashed
  | .queueClosed => none

/-- Whether it is reading that ends the loop. -/
def EndCause.isReading : EndCause → Bool
  | .inputEnded | .readFailed _ => true
  | .writeFailed _ | .queueClosed => false

/-- A move that ends a loop that goes on: the input ends, or reading breaks off without a result;
reading fails for more than one payload; a write fails; or nothing is left of a closed queue. -/
inductive EndsLoop (exchange : Exchange) : ExchangeMove → EndCause → Prop where
  | inputEnded {outcome : Rpc.Frame.Outcome} (final : outcome = .ended ∨ outcome = .noRoom) :
      EndsLoop exchange (.receive outcome) .inputEnded
  | readFailed {error : Rpc.TransportError} (fatal : error.isPayloadOnly = false) :
      EndsLoop exchange (.receive (.failed error)) (.readFailed error)
  | writeFailed (nonempty : exchange.queue ≠ []) (count : Nat) (error : Rpc.TransportError) :
      EndsLoop exchange (.deliver (.failed count error)) (.writeFailed error)
  | queueClosed (empty : exchange.queue = []) (closed : exchange.closed = true)
      (outcome : WriteEnd) : EndsLoop exchange (.deliver outcome) .queueClosed

/-- What the loop reports at its end. -/
def farewell (cause : EndCause) : List TransportEvent :=
  cause.status?.toList.map .status ++ [.disconnected]

section Step

variable {exchange next : Exchange} {move : ExchangeMove} {cause : EndCause}

/-- What ends the loop is reported as its end. -/
theorem EndsLoop.step (going : exchange.ended = false) (ends : EndsLoop exchange move cause) :
    (exchange.step move).ended = true ∧
      (exchange.step move).events = exchange.events ++ farewell cause := by
  cases ends with
  | inputEnded final =>
    obtain rfl | rfl := final <;>
      simp [Exchange.step, receive, going, finish, farewell, EndCause.status?]
  | readFailed fatal =>
    simp [Exchange.step, receive, going, fatal, finish, farewell, EndCause.status?]
  | writeFailed nonempty count error =>
    cases front : exchange.queue with
    | nil => exact absurd front nonempty
    | cons outbound rest =>
      cases outbound <;>
        simp [Exchange.step, deliver, going, front, giveUp, fill, finish, farewell,
          EndCause.status?]
  | queueClosed empty closed outcome =>
    simp [Exchange.step, deliver, going, empty, closed, finish, farewell, EndCause.status?]

/-- If reading ends the loop, it was handed an outcome after which nothing is read, and which is no
message. -/
theorem EndsLoop.received (ends : EndsLoop exchange move cause) (reading : cause.isReading = true) :
    ∃ outcome, move = .receive outcome ∧ outcome.continues = false ∧ outcome.unasked? = none := by
  cases ends with
  | inputEnded final => obtain rfl | rfl := final <;> exact ⟨_, rfl, rfl, rfl⟩
  | readFailed fatal => exact ⟨_, rfl, fatal, rfl⟩
  | writeFailed nonempty count error => cases reading
  | queueClosed empty closed outcome => cases reading

/-- A turn that ends the loop does so for one of the causes. -/
theorem Turn.endsLoop (turn : Turn exchange move next) (going : exchange.ended = false)
    (halted : next.ended = true) : ∃ cause, EndsLoop exchange move cause := by
  cases turn with
  | exhausted _ empty closed outcome => exact ⟨_, .queueClosed empty closed outcome⟩
  | stopped _ final => exact ⟨_, .inputEnded final⟩
  | crashed _ error fatal => exact ⟨_, .readFailed fatal⟩
  | broke _ front count error => exact ⟨_, .writeFailed (by simp [front]) count error⟩
  | @wrote _ outbound rest front =>
    cases outbound <;> exact absurd (going.symm.trans halted) (by decide)
  | _ => exact absurd (going.symm.trans halted) (by decide)

/-- While the loop goes on, a turn reports what was read if it is a request or notification of the
server, and nothing otherwise. -/
theorem Turn.events_going (turn : Turn exchange move next) (going : next.ended = false) :
    next.events = exchange.events ++ (unasked (inbound [move])).map .message := by
  cases turn with
  | reported _ message unasked =>
    cases message with
    | response response => exact absurd rfl (unasked response)
    | request call => rfl
    | notification notice => rfl
  | spent ended other => exact absurd (going.symm.trans ended) (by decide)
  | @wrote _ outbound rest front => cases outbound <;> exact (List.append_nil _).symm
  | exhausted _ _ _ _ => exact absurd going (by simp [finish])
  | stopped _ _ => exact absurd going (by simp [finish])
  | crashed _ _ _ => exact absurd going (by simp [finish])
  | broke _ _ _ _ => exact absurd going (by simp [finish])
  | _ => exact (List.append_nil _).symm

/-- After the end nothing is reported. -/
theorem Turn.events_ended (turn : Turn exchange move next) (ended : exchange.ended = true) :
    next.events = exchange.events := by
  cases turn with
  | spent ended other => rfl
  | closed => rfl
  | _ => simp_all

end Step

/-- While the loop goes on, it has reported the requests and notifications of the server that were
read, in their order. -/
theorem events_going {moves : List ExchangeMove} (going : (reached moves).ended = false) :
    (reached moves).events = (unasked (inbound moves)).map .message := by
  induction moves using List.reverseRecOn with
  | nil => rfl
  | append_singleton moves move inductionHypothesis =>
    have turn := turn_snoc moves move
    rw [turn.events_going going, inductionHypothesis (turn.going going)]
    simp [inbound, unasked]

/-- What was reported and ended stays so. -/
theorem reached_halted {moves : List ExchangeMove} (halted : (reached moves).ended = true)
    (after : List ExchangeMove) :
    (reached (moves ++ after)).ended = true ∧
      (reached (moves ++ after)).events = (reached moves).events := by
  induction after using List.reverseRecOn with
  | nil => simp [halted]
  | append_singleton after move inductionHypothesis =>
    obtain ⟨ended, events⟩ := inductionHypothesis
    have turn := turn_snoc (moves ++ after) move
    rw [← List.append_assoc]
    exact ⟨turn.ended ended, (turn.events_ended ended).trans events⟩

/-- A loop that ended was ended by one of its moves. -/
theorem ended_by {moves : List ExchangeMove} (halted : (reached moves).ended = true) :
    ∃ before move after cause, moves = before ++ move :: after ∧
      (reached before).ended = false ∧ EndsLoop (reached before) move cause := by
  induction moves using List.reverseRecOn with
  | nil => simp [reached, steps, fresh] at halted
  | append_singleton moves move inductionHypothesis =>
    cases earlier : (reached moves).ended with
    | true =>
      obtain ⟨before, last, after, cause, rfl, going, ends⟩ := inductionHypothesis earlier
      exact ⟨before, last, after ++ [move], cause, by simp, going, ends⟩
    | false =>
      obtain ⟨cause, ends⟩ := (turn_snoc moves move).endsLoop earlier halted
      exact ⟨moves, move, [], cause, rfl, earlier, ends⟩

/-- All that is reported by a loop that one of the moves ended. -/
theorem events_halted {before : List ExchangeMove} {move : ExchangeMove} {cause : EndCause}
    (going : (reached before).ended = false) (ends : EndsLoop (reached before) move cause)
    (after : List ExchangeMove) :
    (reached (before ++ move :: after)).ended = true ∧
      (reached (before ++ move :: after)).events =
        (unasked (inbound before)).map .message ++ farewell cause := by
  obtain ⟨halted, events⟩ := ends.step going
  rw [← reached_snoc] at halted events
  obtain ⟨still, same⟩ := reached_halted halted after
  rw [List.append_assoc, List.singleton_append] at still same
  exact ⟨still, by rw [same, events, events_going going]⟩

/-- If reading ended the loop, all that could be read was handled before. -/
theorem unasked_before {before after : List ExchangeMove} {move : ExchangeMove} {cause : EndCause}
    (ends : EndsLoop (reached before) move cause) (reading : cause.isReading = true)
    {bytes : List UInt8}
    (stream : inbound (before ++ move :: after) <+: (Rpc.Frame.readAll bytes).1) :
    unasked (Rpc.Frame.readAll bytes).1 = unasked (inbound before) := by
  obtain ⟨outcome, rfl, final, silent⟩ := ends.received reading
  obtain ⟨unread, whole⟩ := stream
  have split : (Rpc.Frame.readAll bytes).1 =
      inbound before ++ outcome :: (inbound after ++ unread) := by
    simp [← whole, inbound, received?]
  -- Nothing is read after the outcome that ended the loop, so nothing was left behind.
  have last := Rpc.Frame.readFrames_last split final
  rw [split, last]
  simp [unasked, silent]

/-- What the loop reports, whatever is read and however it comes between what is written. As long as
the loop goes on, these are the requests and notifications of the server that it handled, in their
order; responses and payloads that do not decode are not reported. A loop that ended was ended by
one of the moves, and then it has reported those that it handled before that move; that the server
stopped if the input ended, that it crashed if reading failed otherwise or a write failed, and no
status if the queue was closed; and at last, once, that the conversation ended. If it was reading
that ended the loop, the requests and notifications reported are all those of the stream.

Proof: by what each turn adds to the report. Outcomes are handed to the loop in the order in which
they were read, and an outcome that ends the loop is the last that is read. -/
theorem loop_reports_in_order (moves : List ExchangeMove) :
    ((reached moves).ended = false →
      (reached moves).events = (unasked (inbound moves)).map .message) ∧
    ((reached moves).ended = true → ∃ before move after cause,
      moves = before ++ move :: after ∧ (reached before).ended = false ∧
        EndsLoop (reached before) move cause) ∧
    ∀ before move after cause, moves = before ++ move :: after →
      (reached before).ended = false → EndsLoop (reached before) move cause →
      (reached moves).ended = true ∧
      (reached moves).events = (unasked (inbound before)).map .message ++
        cause.status?.toList.map .status ++ [.disconnected] ∧
      ∀ bytes, cause.isReading = true → inbound moves <+: (Rpc.Frame.readAll bytes).1 →
        (reached moves).events = (unasked (Rpc.Frame.readAll bytes).1).map .message ++
          cause.status?.toList.map .status ++ [.disconnected] := by
  refine ⟨events_going, ended_by, ?_⟩
  rintro before move after cause rfl going ends
  obtain ⟨halted, events⟩ := events_halted going ends after
  rw [farewell, ← List.append_assoc] at events
  refine ⟨halted, events, ?_⟩
  intro bytes reading stream
  rw [unasked_before ends reading stream, events]

/-- A server that sends a notification, a body that is no JSON, a response and a request, and ends
its output, is heard to the end while a request is written and answered. -/
theorem talkative_server_is_heard_to_the_end :
    let notice := Rpc.Frame.untidy "\x7b\"method\":\"a\"\x7d" (by decide)
    let garbled := Rpc.Frame.untidy "?" (by decide)
    let answer := Rpc.Frame.untidy "\x7b\"id\":1,\"result\":true\x7d" (by decide)
    let call := Rpc.Frame.untidy "\x7b\"id\":\"b\",\"method\":\"c\"\x7d" (by decide)
    let bytes := [notice, garbled, answer, call].flatMap Rpc.Frame.Announced.bytes ++ []
    let before : List ExchangeMove :=
      [.ask ⟨.number 1, "d", .null⟩, .receive (.message (.notification ⟨"a", .null⟩)),
        .deliver .complete, .receive (.failed .malformed),
        .receive (.message (.response ⟨.number 1, some (.bool true), none⟩)),
        .receive (.message (.request ⟨.text "b", "c", .null⟩))]
    inbound (before ++ .receive .ended :: [.close]) <+: (Rpc.Frame.readAll bytes).1 ∧
    (reached (before ++ .receive .ended :: [.close])).events =
      [.message (.notification ⟨"a", .null⟩), .message (.request ⟨.text "b", "c", .null⟩),
        .status .stopped, .disconnected] := by
  intro notice garbled answer call bytes before
  have first : notice.outcome = .message (.notification ⟨"a", .null⟩) := by
    rw [Rpc.Frame.untidy_outcome]
    decide +kernel
  have second : garbled.outcome = .failed .malformed := by
    rw [Rpc.Frame.untidy_outcome]
    decide +kernel
  have third : answer.outcome = .message (.response ⟨.number 1, some (.bool true), none⟩) := by
    rw [Rpc.Frame.untidy_outcome]
    decide +kernel
  have fourth : call.outcome = .message (.request ⟨.text "b", "c", .null⟩) := by
    rw [Rpc.Frame.untidy_outcome]
    decide +kernel
  have lawful : ∀ frame ∈ [notice, garbled, answer, call],
      ¬ Rpc.Frame.BreaksRules frame.body := by
    rintro frame member ⟨reason, broken⟩
    simp only [List.mem_cons, List.not_mem_nil, or_false] at member
    change frame.outcome = _ at broken
    obtain rfl | rfl | rfl | rfl := member
    · simp [first] at broken
    · simp [second] at broken
    · simp [third] at broken
    · simp [fourth] at broken
  have nothing : Rpc.Frame.readAll [] = ([.ended], []) := by
    simp [Rpc.Frame.readAll, Rpc.Frame.readFrames, Rpc.Frame.read, Rpc.Frame.readHeader,
      Rpc.Frame.Outcome.continues]
  have stream : (Rpc.Frame.readAll bytes).1 =
      [notice, garbled, answer, call].map Rpc.Frame.Announced.outcome ++ [.ended] := by
    rw [Rpc.Frame.readAll_lawful lawful, nothing]
  have handed : inbound (before ++ .receive .ended :: [.close]) = (Rpc.Frame.readAll bytes).1 := by
    simp only [stream, List.map_cons, List.map_nil, first, second, third, fourth]
    rfl
  have told := (loop_reports_in_order (before ++ .receive .ended :: [.close])).2.2 before
    (.receive .ended) [.close] .inputEnded rfl (by decide +kernel) (.inputEnded (.inl rfl))
  refine ⟨⟨[], by rw [List.append_nil]; exact handed⟩, ?_⟩
  rw [told.2.2 bytes rfl ⟨[], by rw [List.append_nil, handed]⟩, ← handed]
  rfl

end Exchange

end LanguageClient
