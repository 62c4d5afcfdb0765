import LanguageClient.Proofs.Histories
import LanguageClient.Proofs.WriteOrder

/-!
# Disconnection is final for one server only

The loop of a server reports at its end, once, that the conversation is over, and nothing after
that. All servers of a transport report to the same stream, though, and so does starting one. A
transport that was stopped can be started again, since starting only asks whether a server is held;
so the stream goes on after a disconnection as soon as a start follows a stop.

A life of a transport is a list of happenings: calls in any order, and whatever the servers and the
loops do between them. A start waits for nothing, and on one thread nothing of the loop comes
between its two reports; so a start is a single happening. Up to the first start after a stop the
stream holds at most one disconnection, as its last event.
-/

namespace LanguageClient

/-- A disconnection among the events is the last of them, and so the only one. -/
def Final (stream : List TransportEvent) : Prop :=
  ∀ before after : List TransportEvent, stream = before ++ .disconnected :: after → after = []

/-- Events with no disconnection but at their end. -/
theorem final_of_last {front : List TransportEvent} (quiet : .disconnected ∉ front)
    (ended : Bool) : Final (front ++ if ended then [.disconnected] else []) := by
  intro before after split
  cases ended with
  | false =>
    rw [if_neg (by decide), List.append_nil] at split
    exact absurd (split ▸ by simp) quiet
  | true =>
    rw [if_pos rfl] at split
    obtain ⟨rfl, -, rfl⟩ | ⟨rest, rfl, -⟩ := snoc_eq_split.mp split
    · rfl
    · exact absurd (by simp) quiet

/-- The loop reports a disconnection exactly at its end. -/
theorem Exchange.reached_events (moves : List ExchangeMove) :
    ∃ front : List TransportEvent, .disconnected ∉ front ∧
      (reached moves).events = front ++ if (reached moves).ended then [.disconnected] else [] := by
  cases halted : (reached moves).ended with
  | false =>
    refine ⟨(unasked (inbound moves)).map .message, by simp, ?_⟩
    rw [events_going halted]
    exact (List.append_nil _).symm
  | true =>
    obtain ⟨before, move, after, cause, rfl, going, ends⟩ := ended_by halted
    obtain ⟨-, events⟩ := events_halted going ends after
    refine ⟨(unasked (inbound before)).map .message ++ cause.status?.toList.map .status,
      by simp, ?_⟩
    rw [events, farewell, List.append_assoc]
    rfl

namespace LocalTransport

/-- What may happen in the life of a transport: its events are subscribed to, a server is started,
given whether the process can be created, a started server is called or its loop goes on, or the
server is stopped, given what its loop still does. A start is one happening, since it has no point
at which it waits: both its reports come before any of the loop that it launches. -/
inductive Happening where
  | subscribe
  | start (config : LaunchConfig) (created : Except String Unit)
  | meets (occasion : Occasion)
  | stop (rest : List ExchangeMove)

/-- The transport after something happened. A call that fails may leave its report behind. -/
def happen (transport : LocalTransport) : Happening → LocalTransport
  | .subscribe =>
    match transport.subscribe with
    | .ok next => next
    | .error _ => transport
  | .start config created => (transport.start config created).2
  | .meets occasion => transport.occur occasion
  | .stop rest => transport.stop (·.steps rest)

/-- A new transport after all that happened. -/
def reached (happenings : List Happening) : LocalTransport := happenings.foldl happen fresh

/-- How far a transport has come: no server was launched yet, the first server is held, it was
stopped, or a start was tried after that. -/
inductive Stage where
  | idle
  | serving
  | dismissed
  | restarted
deriving DecidableEq, Repr

/-- The stage after something happened. -/
def Stage.next : Stage → Happening → Stage
  | .idle, .start _ (.ok ()) => .serving
  | .serving, .stop _ => .dismissed
  | .dismissed, .start _ _ => .restarted
  | stage, _ => stage

/-- The stage after all that happened. -/
def stage (happenings : List Happening) : Stage := happenings.foldl Stage.next .idle

/-- Every stop goes on until the loop of its server ends. -/
def Prompt (happenings : List Happening) : Prop :=
  ∀ (before : List Happening) (rest : List ExchangeMove) (after : List Happening),
    happenings = before ++ .stop rest :: after →
    ∀ exchange, (reached before).exchange? = some exchange →
      (exchange.close.steps rest).ended = true

/-- What was prompt with one happening more was prompt before it, and that happening is. -/
theorem Prompt.snoc {happenings : List Happening} {last : Happening}
    (prompt : Prompt (happenings ++ [last])) :
    Prompt happenings ∧ ∀ rest, last = .stop rest →
      ∀ exchange, (reached happenings).exchange? = some exchange →
        (exchange.close.steps rest).ended = true := by
  constructor
  · rintro before rest after rfl
    exact prompt before rest (after ++ [last]) (by simp)
  · rintro rest rfl
    exact prompt happenings rest [] rfl

section Unlaunched

variable {transport : LocalTransport} (unlaunched : transport.server = none)

include unlaunched

/-- Without a server nothing comes of the calls that need one, and there is no loop. -/
theorem occur_unlaunched (occasion : Occasion) : transport.occur occasion = transport := by
  obtain ⟨server, past, taken⟩ := transport
  obtain rfl : server = none := unlaunched
  cases occasion <;> rfl

/-- Without a server there is nothing to stop. -/
theorem stop_unlaunched (toEnd : Exchange → Exchange) : transport.stop toEnd = transport := by
  rw [stop, unlaunched]

/-- Without a server all that was reported is past. -/
theorem events_unlaunched : transport.events = transport.past := by
  rw [events, unlaunched]
  exact List.append_nil _

/-- A start without a server reports that it starts, whether the process can be created or not. -/
theorem start_unlaunched (config : LaunchConfig) (created : Except String Unit) :
    ∃ more : List TransportEvent, (transport.start config created).2.past =
      transport.past ++ .status .starting :: more := by
  rw [start, unlaunched]
  cases created with
  | error reason => exact ⟨[], rfl⟩
  | ok => exact ⟨[.status .running], by simp⟩

end Unlaunched

section Launched

variable {transport : LocalTransport} {exchange : Exchange}
  (launched : transport.exchange? = some exchange)

include launched

/-- A transport with a server refuses to start another one, and reports nothing. -/
theorem start_launched (config : LaunchConfig) (created : Except String Unit) :
    (transport.start config created).2 = transport := by
  obtain ⟨server, held, -⟩ := Option.map_eq_some_iff.mp launched
  rw [start, held]
  rfl

/-- A stop lets go of the server; what its loop reported is past. -/
theorem stop_launched (toEnd : Exchange → Exchange) :
    (transport.stop toEnd).server = none ∧
      (transport.stop toEnd).past = transport.past ++ (toEnd exchange.close).events := by
  obtain ⟨server, held, rfl⟩ := Option.map_eq_some_iff.mp launched
  rw [stop, held]
  exact ⟨rfl, rfl⟩

end Launched

/-- A transport holds no server or talks to one. -/
theorem unlaunched_or_launched (transport : LocalTransport) :
    transport.server = none ∨ ∃ exchange, transport.exchange? = some exchange := by
  cases held : transport.server with
  | none => exact .inl rfl
  | some server => exact .inr ⟨server.exchange, by rw [exchange?, held]; rfl⟩

/-- To subscribe concerns neither the server nor what was reported. -/
theorem happen_subscribe (transport : LocalTransport) :
    (transport.happen .subscribe).server = transport.server ∧
      (transport.happen .subscribe).past = transport.past := by
  obtain ⟨server, past, taken⟩ := transport
  cases taken <;> exact ⟨rfl, rfl⟩

/-- What was reported before a server stays so, whatever happens. -/
theorem past_happen (transport : LocalTransport) (happening : Happening) :
    ∃ more, (transport.happen happening).past = transport.past ++ more := by
  obtain unlaunched | ⟨exchange, launched⟩ := unlaunched_or_launched transport
  · cases happening with
    | subscribe => exact ⟨[], by rw [(happen_subscribe transport).2, List.append_nil]⟩
    | start config created =>
      obtain ⟨more, past⟩ := start_unlaunched unlaunched config created
      exact ⟨_, past⟩
    | meets occasion => exact ⟨[], by rw [happen, occur_unlaunched unlaunched, List.append_nil]⟩
    | stop rest => exact ⟨[], by rw [happen, stop_unlaunched unlaunched, List.append_nil]⟩
  · cases happening with
    | subscribe => exact ⟨[], by rw [(happen_subscribe transport).2, List.append_nil]⟩
    | start config created =>
      exact ⟨[], by rw [happen, start_launched launched, List.append_nil]⟩
    | meets occasion => exact ⟨[], by rw [happen, past_occur launched, List.append_nil]⟩
    | stop rest => exact ⟨_, (stop_launched launched _).2⟩

/-- What a stage says of the transport, for a life that is prompt or not. Nothing before the first
server is a disconnection. The loop of the first server has made some moves, and if its stop was
prompt, it has ended with them. A start after that, if all was prompt, reports right behind a
disconnection. -/
def Stage.Describes (prompt : Prop) (transport : LocalTransport) : Stage → Prop
  | .idle => transport.server = none ∧ .disconnected ∉ transport.past
  | .serving =>
    (∃ moves, transport.exchange? = some (Exchange.reached moves)) ∧
      .disconnected ∉ transport.past
  | .dismissed =>
    transport.server = none ∧ ∃ (prior : List TransportEvent) (moves : List ExchangeMove),
      .disconnected ∉ prior ∧
      transport.past = prior ++ (Exchange.reached moves).events ∧
      (prompt → (Exchange.reached moves).ended = true)
  | .restarted =>
    prompt → ∃ earlier later : List TransportEvent,
      transport.past = earlier ++ .disconnected :: .status .starting :: later

/-- What a stage says of a life that need not be prompt it says of one that is. -/
theorem Stage.Describes.mono {prompt later : Prop} {transport : LocalTransport} {stage : Stage}
    (describes : stage.Describes prompt transport) (implies : later → prompt) :
    stage.Describes later transport := by
  cases stage with
  | idle => exact describes
  | serving => exact describes
  | dismissed =>
    obtain ⟨unlaunched, prior, moves, quiet, past, ended⟩ := describes
    exact ⟨unlaunched, prior, moves, quiet, past, fun isPrompt => ended (implies isPrompt)⟩
  | restarted => exact fun isPrompt => describes (implies isPrompt)

section Steps

variable {prompt : Prop} {transport : LocalTransport} {happening : Happening}

/-- Before the first server, a start may launch it, and nothing else counts. -/
theorem Stage.describes_idle (describes : Stage.idle.Describes prompt transport) :
    (Stage.idle.next happening).Describes prompt (transport.happen happening) := by
  obtain ⟨unlaunched, quiet⟩ := describes
  cases happening with
  | subscribe =>
    obtain ⟨server, past⟩ := happen_subscribe transport
    exact ⟨server.trans unlaunched, past ▸ quiet⟩
  | start config created =>
    cases created with
    | error reason =>
      rw [happen, start, unlaunched]
      exact ⟨rfl, by simpa using quiet⟩
    | ok =>
      rw [happen, start, unlaunched]
      exact ⟨⟨[], rfl⟩, by simpa using quiet⟩
  | meets occasion =>
    rw [happen, occur_unlaunched unlaunched]
    exact ⟨unlaunched, quiet⟩
  | stop rest =>
    rw [happen, stop_unlaunched unlaunched]
    exact ⟨unlaunched, quiet⟩

/-- While the first server is held, its loop goes on, up to a stop. -/
theorem Stage.describes_serving (describes : Stage.serving.Describes prompt transport)
    (ends : prompt → ∀ rest, happening = .stop rest →
      ∀ exchange, transport.exchange? = some exchange → (exchange.close.steps rest).ended = true) :
    (Stage.serving.next happening).Describes prompt (transport.happen happening) := by
  obtain ⟨⟨moves, launched⟩, quiet⟩ := describes
  cases happening with
  | subscribe =>
    obtain ⟨server, past⟩ := happen_subscribe transport
    refine ⟨⟨moves, ?_⟩, past ▸ quiet⟩
    rw [exchange?, server]
    exact launched
  | start config created =>
    rw [happen, start_launched launched]
    exact ⟨⟨moves, launched⟩, quiet⟩
  | meets occasion =>
    refine ⟨⟨moves ++ [occasion.move], ?_⟩, ?_⟩
    · rw [happen, exchange?_occur launched, Exchange.reached_snoc]
    · rw [happen, past_occur launched]
      exact quiet
  | stop rest =>
    obtain ⟨unlaunched, past⟩ := stop_launched launched (·.steps rest)
    have further : (Exchange.reached moves).close.steps rest =
        Exchange.reached (moves ++ .close :: rest) := by
      simp [Exchange.reached, Exchange.steps, Exchange.step]
    refine ⟨unlaunched, transport.past, moves ++ .close :: rest, quiet, further ▸ past, ?_⟩
    intro isPrompt
    rw [← further]
    exact ends isPrompt rest rfl _ launched

/-- After the first server was stopped, nothing is reported until a start. -/
theorem Stage.describes_dismissed (describes : Stage.dismissed.Describes prompt transport) :
    (Stage.dismissed.next happening).Describes prompt (transport.happen happening) := by
  obtain ⟨unlaunched, prior, moves, quiet, past, ended⟩ := describes
  cases happening with
  | subscribe =>
    obtain ⟨server, still⟩ := happen_subscribe transport
    exact ⟨server.trans unlaunched, prior, moves, quiet, still.trans past, ended⟩
  | start config created =>
    intro isPrompt
    obtain ⟨front, -, events⟩ := Exchange.reached_events moves
    obtain ⟨more, started⟩ := start_unlaunched unlaunched config created
    refine ⟨prior ++ front, more, ?_⟩
    rw [happen, started, past, events, ended isPrompt]
    simp
  | meets occasion =>
    rw [happen, occur_unlaunched unlaunched]
    exact ⟨unlaunched, prior, moves, quiet, past, ended⟩
  | stop rest =>
    rw [happen, stop_unlaunched unlaunched]
    exact ⟨unlaunched, prior, moves, quiet, past, ended⟩

/-- What was reported after a disconnection cannot be taken back. -/
theorem Stage.describes_restarted (describes : Stage.restarted.Describes prompt transport) :
    (Stage.restarted.next happening).Describes prompt (transport.happen happening) := by
  intro isPrompt
  obtain ⟨earlier, later, past⟩ := describes isPrompt
  obtain ⟨more, grown⟩ := past_happen transport happening
  exact ⟨earlier, later ++ more, by rw [grown, past]; simp⟩

/-- What a stage says of the transport, the next stage says of it after one happening more. -/
theorem Stage.Describes.next {stage : Stage} (describes : stage.Describes prompt transport)
    (ends : prompt → ∀ rest, happening = .stop rest →
      ∀ exchange, transport.exchange? = some exchange → (exchange.close.steps rest).ended = true) :
    (stage.next happening).Describes prompt (transport.happen happening) := by
  cases stage with
  | idle => exact describes_idle describes
  | serving => exact describes_serving describes ends
  | dismissed => exact describes_dismissed describes
  | restarted => exact describes_restarted describes

end Steps

/-- The stage of a life describes the transport.

Proof: by what one happening more does in each stage. -/
theorem stage_describes (happenings : List Happening) :
    (stage happenings).Describes (Prompt happenings) (reached happenings) := by
  induction happenings using List.reverseRecOn with
  | nil => exact ⟨rfl, List.not_mem_nil⟩
  | append_singleton happenings last inductionHypothesis =>
    have shorter (prompt : Prompt (happenings ++ [last])) : Prompt happenings := prompt.snoc.1
    have describes := (inductionHypothesis.mono shorter).next fun prompt => prompt.snoc.2
    simpa [stage, reached] using describes

/-- Before a start follows a stop, a disconnection is final. -/
theorem final_unless_restarted {happenings : List Happening}
    (once : stage happenings ≠ .restarted) : Final (reached happenings).events := by
  have describes := stage_describes happenings
  cases current : stage happenings with
  | idle =>
    rw [current] at describes
    obtain ⟨unlaunched, quiet⟩ := describes
    rw [events_unlaunched unlaunched]
    intro before after split
    exact absurd (split ▸ by simp) quiet
  | serving =>
    rw [current] at describes
    obtain ⟨⟨moves, launched⟩, quiet⟩ := describes
    obtain ⟨front, silent, events⟩ := Exchange.reached_events moves
    rw [events_launched launched, events, ← List.append_assoc]
    exact final_of_last (by simp [quiet, silent]) _
  | dismissed =>
    rw [current] at describes
    obtain ⟨unlaunched, prior, moves, quiet, past, -⟩ := describes
    obtain ⟨front, silent, events⟩ := Exchange.reached_events moves
    rw [events_unlaunched unlaunched, past, events, ← List.append_assoc]
    exact final_of_last (by simp [quiet, silent]) _
  | restarted => exact absurd current once

/-- When a disconnection is final. As long as no start follows a stop of the first server, the
stream holds at most one disconnection and nothing after it, whatever is called and whatever the
server does. But a start that follows it reports to the same stream, whether it succeeds or not: if
every stop went on to the end of its loop, the report that a server starts comes right behind a
disconnection. So in a life of prompt stops a disconnection is final exactly if the transport was
never started again.

Proof: by the stages of a life. Nothing but the loop of a server reports a disconnection, at its
end; it is the last that the server reports, and between a stop and a start nothing is reported. -/
theorem disconnection_is_final_until_a_restart (happenings : List Happening) :
    (stage happenings ≠ .restarted →
      ∀ before after : List TransportEvent,
        (reached happenings).events = before ++ .disconnected :: after → after = []) ∧
    (stage happenings = .restarted → Prompt happenings →
      ∃ earlier later : List TransportEvent, (reached happenings).events =
        earlier ++ .disconnected :: .status .starting :: later) := by
  constructor
  · exact final_unless_restarted
  · intro restarted prompt
    have describes := stage_describes happenings
    rw [restarted] at describes
    obtain ⟨earlier, later, past⟩ := describes prompt
    rw [events, past, List.append_assoc]
    exact ⟨earlier, _, rfl⟩

/-- A server that is started, sends a notice and is stopped. -/
def visit : List Happening :=
  [.subscribe, .start (.inDirectory "/usr/bin/tinymist" "/work" []) (.ok ()),
    .meets (.read (.message (.notification ⟨"a", .null⟩))), .stop [.deliver .complete]]

/-- After a visit the disconnection is the last event. Behind it stands the report of a second
start, even if the process of that start cannot be created. -/
theorem second_visit_follows_a_disconnection :
    let again := visit ++ [.start (.inDirectory "/nowhere" "/work" []) (.error "not found")]
    (∀ before after : List TransportEvent,
      (reached visit).events = before ++ .disconnected :: after → after = []) ∧
    (reached visit).events = [.status .starting, .status .running,
      .message (.notification ⟨"a", .null⟩), .disconnected] ∧
    ∃ earlier later : List TransportEvent, (reached again).events =
      earlier ++ .disconnected :: .status .starting :: later := by
  intro again
  have prompt : Prompt again := by
    intro before rest after split exchange held
    match before, split with
    | [], split => simp [again, visit] at split
    | [_], split => simp [again, visit] at split
    | [_, _], split => simp [again, visit] at split
    | [_, _, _], split =>
      simp only [again, visit, List.cons_append, List.nil_append, List.cons.injEq,
        Happening.stop.injEq] at split
      obtain ⟨rfl, rfl, rfl, rfl, -⟩ := split
      obtain rfl := Option.some.inj held
      rfl
    | [_, _, _, _], split => simp [again, visit] at split
    | _ :: _ :: _ :: _ :: _ :: _, split => simp [again, visit] at split
  exact ⟨(disconnection_is_final_until_a_restart visit).1 (by decide), by decide +kernel,
    (disconnection_is_final_until_a_restart again).2 (by decide) prompt⟩

end LocalTransport

end LanguageClient
