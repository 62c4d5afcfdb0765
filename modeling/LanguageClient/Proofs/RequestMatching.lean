import LanguageClient.Proofs.ConnectionCalls
import LanguageClient.Proofs.ExchangeTurns
import LanguageClient.Proofs.Histories
import Mathlib.Data.List.Induction
import Mathlib.Data.List.Perm.Basic
import Mathlib.Logic.Relation

/-!
# Requests and their answers

Requests are numbered by one counter, whoever sends them and in whatever order they reach the
queue: the requests of a connection carry the numbers from one on, whatever else is done over it. As
long as the counter does not go round their identifiers differ, and then every accepted request gets
the answer it is due: the first response under its identifier that is handled while it is pending,
otherwise the error of its own write, otherwise the end of the service.

What happened to a request is read off the moves alone. The loop's own bookkeeping, those who wait
and the slots that are filled, is shown to agree with it after every move.
-/

namespace LanguageClient

/-- The request that a call sends, if it sends one. -/
def Call.request? : Call → Option Rpc.Request
  | .request sent _ => some sent
  | _ => none

/-- The requests among the calls, in their order. -/
def Trace.requests (trace : Trace) : List Rpc.Request := trace.filterMap Call.request?

/-- One call more is one request more if the call sends one. -/
theorem Trace.requests_snoc (trace : Trace) (call : Call) :
    Trace.requests (trace ++ [call]) = trace.requests ++ call.request?.toList := by
  rw [requests, requests, List.filterMap_append]
  cases call <;> rfl

namespace Connection

/-- The number that the counter shows after so many draws. -/
def counter : Nat → Int64
  | 0 => (fresh 0).nextId
  | draws + 1 => counter draws + 1

/-- The counter starts at one and goes up by one. -/
theorem counter_eq (draws : Nat) : counter draws = Int64.ofNat (draws + 1) := by
  induction draws with
  | zero => rfl
  | succ draws inductionHypothesis =>
    rw [counter, inductionHypothesis]
    exact (Int64.ofNat_add (draws + 1) 1).symm

/-- As long as the counter does not go round, no number is drawn twice. -/
theorem counter_injective {first second : Nat} (firstBound : first < UInt64.size)
    (secondBound : second < UInt64.size) (same : counter first = counter second) :
    first = second := by
  rw [counter_eq, counter_eq] at same
  unfold UInt64.size at firstBound secondBound
  have bits := congrArg (fun number => number.toBitVec.toNat) same
  simp only [Int64.toBitVec_ofNat', BitVec.toNat_ofNat] at bits
  omega

/-- One thing that is done over a connection, whether it succeeds or not. An introduction is a
request, what is learnt from its answer, and a notification. What is called for in the editor goes
on the same trace. -/
inductive Step (peer : Peer) (before : Connection) : Connection → Prop where
  | request {α : Type} (method : String) (params : Json) (decode : Json.Decoder α) :
      Step peer before ((request peer method params decode).run before).2
  | notify (method : String) (params : Json) :
      Step peer before ((notify peer method params).run before).2
  | listen : Step peer before ((listen peer).run before).2
  | launch (config : LaunchConfig) : Step peer before ((launch peer config).run before).2
  | reply (id : Rpc.RequestId) (content : Reply) :
      Step peer before ((reply peer id content).run before).2
  | stop : Step peer before ((stop peer).run before).2
  | learn (capabilities : Option Capabilities.Server) :
      Step peer before { before with capabilities := capabilities }
  | editor (call : EditorCall) : Step peer before (before.record (.editor call))

/-- The requests of a connection carry the numbers of the counter in their order, and the next number
is the one after them. -/
structure Counted (connection : Connection) : Prop where
  next : connection.nextId = counter connection.trace.requests.length
  ids : connection.trace.requests.map (·.id) =
    (List.range connection.trace.requests.length).map fun draw => .number (counter draw)

/-- A new connection has sent no requests. -/
theorem counted_fresh (timeout : Nat) : Counted (fresh timeout) := ⟨rfl, rfl⟩

namespace Counted

variable {connection after : Connection} (counted : Counted connection)

include counted

/-- What sends no request draws no number. -/
theorem of_same (next : after.nextId = connection.nextId)
    (sent : after.trace.requests = connection.trace.requests) : Counted after where
  next := by rw [next, sent, counted.next]
  ids := by rw [sent, counted.ids]

/-- A call that is no request draws no number. -/
theorem record {call : Call} (other : call.request? = none) : Counted (connection.record call) :=
  counted.of_same rfl (by
    rw [Connection.record, Trace.requests_snoc, other, Option.toList_none, List.append_nil])

/-- A request takes the number that is next and leaves the following one to the next request. -/
theorem request {α : Type} (peer : Peer) (method : String) (params : Json)
    (decode : Json.Decoder α) :
    Counted ((Connection.request peer method params decode).run connection).2 := by
  rw [request_sent, counted.next]
  have sent (call : Rpc.Request) (timeout : Option Nat) :
      Trace.requests (connection.trace ++ [.request call timeout]) =
        connection.trace.requests ++ [call] :=
    Trace.requests_snoc connection.trace (.request call timeout)
  constructor
  case next =>
    rw [Connection.record, sent, List.length_append]
    rfl
  case ids =>
    rw [Connection.record, sent, List.map_append, List.length_append, List.length_singleton,
      List.range_succ, List.map_append, counted.ids]
    rfl

/-- One thing more that is done keeps the requests counted. -/
theorem step {peer : Peer} (done : Step peer connection after) : Counted after := by
  cases done with
  | request method params decode => exact counted.request peer method params decode
  | notify method params =>
    rw [run_notify]
    exact counted.record rfl
  | listen =>
    rw [run_listen]
    exact counted
  | launch config =>
    rw [run_launch]
    exact counted.record rfl
  | reply id content =>
    have replied := run_recorded (.reply id content) peer.reply connection
    rw [Connection.reply, replied]
    exact counted.record rfl
  | stop =>
    rw [run_stop]
    exact counted.record rfl
  | learn capabilities => exact counted.of_same rfl rfl
  | editor call => exact counted.record rfl

/-- Whatever is done keeps the requests counted. -/
theorem steps {peer : Peer} (done : Relation.ReflTransGen (Step peer) connection after) :
    Counted after := by
  induction done with
  | refl => exact counted
  | tail _ last inductionHypothesis => exact inductionHypothesis.step last

end Counted

end Connection

end LanguageClient

namespace LanguageClient.Exchange

/-- The exchange after some moves. -/
def reached (moves : List ExchangeMove) : Exchange := fresh.steps moves

/-- One more move is one more step. -/
theorem reached_snoc (moves : List ExchangeMove) (move : ExchangeMove) :
    reached (moves ++ [move]) = (reached moves).step move := by
  simp [reached, steps]

/-- The last move is a turn. -/
theorem turn_snoc (moves : List ExchangeMove) (move : ExchangeMove) :
    Turn (reached moves) move (reached (moves ++ [move])) :=
  reached_snoc moves move ▸ turn_step (reached moves) move

/-- The request of a move that asks. -/
def asked? : ExchangeMove → Option Rpc.Request
  | .ask request => some request
  | _ => none

/-- The requests that were asked, whether they were accepted or not. -/
def asked (moves : List ExchangeMove) : List Rpc.Request := moves.filterMap asked?

/-- The requests carry numbers of one counter, in any order, and fewer than all its numbers were
drawn. -/
def NumberedByOneCounter (moves : List ExchangeMove) : Prop :=
  ∃ draws : List Nat, draws.Nodup ∧ (∀ draw ∈ draws, draw < UInt64.size) ∧
    (asked moves).map (·.id) = draws.map fun draw => .number (Connection.counter draw)

/-- Requests that carry numbers of one counter carry different ones. -/
theorem NumberedByOneCounter.distinct {moves : List ExchangeMove}
    (numbered : NumberedByOneCounter moves) : ((asked moves).map (·.id)).Nodup := by
  obtain ⟨draws, apart, bounded, numbers⟩ := numbered
  rw [numbers]
  refine List.Pairwise.map _ ?_ (List.Pairwise.and_mem.mp apart)
  rintro first second ⟨firstDrawn, secondDrawn, different⟩ same
  exact different (Connection.counter_injective (bounded first firstDrawn)
    (bounded second secondDrawn) (Rpc.RequestId.number.inj same))

/-- Some of the values of a function, in whatever order, are its values at some of the places. -/
theorem exists_map_of_perm {α β : Type} {value : α → β} {values inOrder : List β}
    {places : List α} (same : inOrder.Perm values) (part : inOrder.Sublist (places.map value)) :
    ∃ chosen kept : List α, chosen.Perm kept ∧ kept.Sublist places ∧ values = chosen.map value := by
  obtain ⟨kept, fewer, rfl⟩ := List.sublist_map_iff.mp part
  have valued : List.Forall₂ (fun entry place => entry = value place) (kept.map value) kept := by
    simp [List.forall₂_map_left_iff, List.forall₂_same]
  obtain ⟨chosen, entries, rearranged⟩ := List.perm_comp_forall₂ same.symm valued
  refine ⟨chosen, kept, rearranged, fewer, ?_⟩
  exact List.forall₂_eq_eq_eq ▸ List.forall₂_map_right_iff.mpr entries

/-- Whatever is done over a connection, the requests that it sends carry numbers of one counter, in
whatever order they reach the queue, also if some of them do not. -/
theorem numberedByOneCounter_of_sent {peer : Peer} {timeout : Nat} {connection : Connection}
    (done : Relation.ReflTransGen (Connection.Step peer) (.fresh timeout) connection)
    (few : connection.trace.requests.length ≤ UInt64.size) {moves : List ExchangeMove}
    (sent : (asked moves).Subperm connection.trace.requests) : NumberedByOneCounter moves := by
  have counted := (Connection.counted_fresh timeout).steps done
  obtain ⟨inOrder, same, part⟩ := sent
  have numbers := part.map (·.id)
  rw [counted.ids] at numbers
  obtain ⟨draws, kept, rearranged, drawn, numbered⟩ :=
    exists_map_of_perm (same.map (·.id)) numbers
  refine ⟨draws, ?_, fun draw inside => ?_, numbered⟩
  · exact rearranged.nodup_iff.mpr (List.nodup_range.sublist drawn)
  · have bounded := List.mem_range.mp (drawn.subset (rearranged.subset inside))
    omega

/-- The request was accepted, and its answer goes into the slot. -/
def Accepted (moves : List ExchangeMove) (request : Rpc.Request) (slot : Nat) : Prop :=
  Occurred (fun before move =>
    move = .ask request ∧ ∃ next, (reached before).ask request = .ok (slot, next)) moves

/-- The loop goes on, and the request is the next to be written. -/
def IsNext (moves : List ExchangeMove) (request : Rpc.Request) (slot : Nat) : Prop :=
  (reached moves).ended = false ∧ ∃ rest, (reached moves).queue = .request request slot :: rest

/-- The request was written, and no response under its identifier was handled since. -/
def Unanswered (moves : List ExchangeMove) (request : Rpc.Request) (slot : Nat) : Prop :=
  ∃ before after, moves = before ++ .deliver .complete :: after ∧ IsNext before request slot ∧
    ∀ response, .receive (.message (.response response)) ∈ after → response.id ≠ request.id

/-- The request waits for its response: it was written and not answered, and the loop goes on. -/
def Pending (moves : List ExchangeMove) (request : Rpc.Request) (slot : Nat) : Prop :=
  (reached moves).ended = false ∧ Unanswered moves request slot

/-- The response was handled while the request was pending, and carries its identifier. It is the
first such response, since the request is not pending any more after one. -/
def AnsweredBy (moves : List ExchangeMove) (request : Rpc.Request) (slot : Nat)
    (response : Rpc.Response) : Prop :=
  Occurred (fun before move => move = .receive (.message (.response response)) ∧
    response.id = request.id ∧ Pending before request slot) moves

/-- The write of the request's own frame failed. -/
def WriteFailed (moves : List ExchangeMove) (request : Rpc.Request) (slot : Nat)
    (error : Rpc.TransportError) : Prop :=
  Occurred (fun before move =>
    (∃ count, move = .deliver (.failed count error)) ∧ IsNext before request slot) moves

/-- The answer is the one that the request is due: the first response to it while it was pending,
otherwise the error of the write of its own frame, otherwise the end of the service. -/
def Due (moves : List ExchangeMove) (request : Rpc.Request) (slot : Nat) : SlotAnswer → Prop
  | .response response => AnsweredBy moves request slot response
  | .error error =>
    (∀ response, ¬ AnsweredBy moves request slot response) ∧
      (WriteFailed moves request slot error ∨
        error = .serviceStopped ∧ ∀ other, ¬ WriteFailed moves request slot other)

/-- A request was written and not answered before the last move unless that move wrote it. -/
theorem unanswered_snoc {moves : List ExchangeMove} {move : ExchangeMove} {request : Rpc.Request}
    {slot : Nat} :
    Unanswered (moves ++ [move]) request slot ↔
      (move = .deliver .complete ∧ IsNext moves request slot) ∨
        (Unanswered moves request slot ∧
          ∀ response, move = .receive (.message (.response response)) →
            response.id ≠ request.id) := by
  constructor
  · rintro ⟨before, after, split, front, none⟩
    obtain ⟨rfl, rfl, rfl⟩ | ⟨rest, rfl, rfl⟩ := snoc_eq_split.mp split
    · exact .inl ⟨rfl, front⟩
    · refine .inr ⟨⟨before, rest, rfl, front, fun response member => ?_⟩, fun response last => ?_⟩
      · exact none response (List.mem_append_left _ member)
      · exact none response (by simp [last])
  · rintro (⟨rfl, front⟩ | ⟨⟨before, after, rfl, front, none⟩, other⟩)
    · exact ⟨moves, [], rfl, front, by simp⟩
    · refine ⟨before, after ++ [move], by simp, front, fun response member => ?_⟩
      obtain earlier | last := List.mem_append.mp member
      · exact none response earlier
      · exact other response (List.mem_singleton.mp last).symm

/-- A request is accepted exactly by a loop that goes on, and gets the next slot. -/
theorem accepted_snoc {moves : List ExchangeMove} {move : ExchangeMove} {request : Rpc.Request}
    {slot : Nat} :
    Accepted (moves ++ [move]) request slot ↔
      Accepted moves request slot ∨
        (reached moves).ended = false ∧ move = .ask request ∧ slot = (reached moves).accepted := by
  refine occurred_snoc.trans (or_congr_right ?_)
  cases ended : (reached moves).ended with
  | true => simp [ask, ended]
  | false => simp [ask, ended, eq_comm]

/-- What was accepted stays accepted. -/
theorem Accepted.snoc {moves : List ExchangeMove} {request : Rpc.Request} {slot : Nat}
    (accepted : Accepted moves request slot) (move : ExchangeMove) :
    Accepted (moves ++ [move]) request slot :=
  accepted_snoc.mpr (.inl accepted)

/-- An accepted request was asked. -/
theorem Accepted.asked {moves : List ExchangeMove} {request : Rpc.Request} {slot : Nat}
    (accepted : Accepted moves request slot) : request ∈ asked moves := by
  obtain ⟨before, move, after, rfl, rfl, -⟩ := accepted
  simp [Exchange.asked, asked?]

/-- The slots of accepted requests are those below their number. -/
theorem Accepted.slot_lt {moves : List ExchangeMove} {request : Rpc.Request} {slot : Nat}
    (accepted : Accepted moves request slot) : slot < (reached moves).accepted := by
  induction moves using List.reverseRecOn with
  | nil => simp [Accepted, Occurred] at accepted
  | append_singleton moves move inductionHypothesis =>
    obtain older | ⟨going, rfl, rfl⟩ := accepted_snoc.mp accepted
    · exact Nat.lt_of_lt_of_le (inductionHypothesis older) (turn_snoc moves move).accepted
    · simp [reached_snoc, step, ask, going]

/-- A slot belongs to one request. -/
theorem Accepted.request_unique {moves : List ExchangeMove} {first second : Rpc.Request}
    {slot : Nat} (firstAccepted : Accepted moves first slot)
    (secondAccepted : Accepted moves second slot) : first = second := by
  induction moves using List.reverseRecOn with
  | nil => simp [Accepted, Occurred] at firstAccepted
  | append_singleton moves move inductionHypothesis =>
    obtain firstOlder | ⟨-, firstAsked, firstSlot⟩ := accepted_snoc.mp firstAccepted
    · obtain secondOlder | ⟨-, -, rfl⟩ := accepted_snoc.mp secondAccepted
      · exact inductionHypothesis firstOlder secondOlder
      · exact absurd firstOlder.slot_lt (Nat.lt_irrefl _)
    · obtain secondOlder | ⟨-, secondAsked, -⟩ := accepted_snoc.mp secondAccepted
      · exact absurd (firstSlot ▸ secondOlder.slot_lt) (Nat.lt_irrefl _)
      · exact ExchangeMove.ask.inj (firstAsked.symm.trans secondAsked)

/-- Under different identifiers, an identifier belongs to one slot. -/
theorem Accepted.slot_unique {moves : List ExchangeMove}
    (distinct : ((Exchange.asked moves).map (·.id)).Nodup) {first second : Rpc.Request}
    {firstSlot secondSlot : Nat} (firstAccepted : Accepted moves first firstSlot)
    (secondAccepted : Accepted moves second secondSlot) (same : first.id = second.id) :
    firstSlot = secondSlot := by
  induction moves using List.reverseRecOn with
  | nil => simp [Accepted, Occurred] at firstAccepted
  | append_singleton moves move inductionHypothesis =>
    have parts : ((Exchange.asked moves).map (·.id)).Nodup ∧
        ∀ earlier ∈ Exchange.asked moves, ∀ last, move = .ask last → earlier.id ≠ last.id := by
      rw [Exchange.asked, List.filterMap_append, List.map_append, List.nodup_append] at distinct
      refine ⟨distinct.1, ?_⟩
      rintro earlier member last rfl
      exact distinct.2.2 earlier.id (List.mem_map_of_mem member) last.id (by simp [asked?])
    obtain firstOlder | ⟨-, firstAsked, firstNew⟩ := accepted_snoc.mp firstAccepted
    · obtain secondOlder | ⟨-, secondAsked, -⟩ := accepted_snoc.mp secondAccepted
      · exact inductionHypothesis parts.1 firstOlder secondOlder
      · exact absurd same (parts.2 first firstOlder.asked second secondAsked)
    · obtain secondOlder | ⟨-, -, secondNew⟩ := accepted_snoc.mp secondAccepted
      · exact absurd same.symm (parts.2 second secondOlder.asked first firstAsked)
      · exact firstNew.trans secondNew.symm

/-- Slots are accounted for after any moves. -/
theorem accounted_reached (moves : List ExchangeMove) : Accounted (reached moves) :=
  accounted_steps moves

/-- What is filled and what is open are different slots, and each of them once. -/
theorem Accounted.nodup {exchange : Exchange} (accounted : Accounted exchange) :
    (exchange.answers.map Prod.fst ++ exchange.openSlots).Nodup :=
  accounted.slots.symm.nodup List.nodup_range

/-- Requests are matched with what became of them: whoever is in the queue or was written had been
accepted, exactly the pending requests wait, and the filled slots hold what their requests got. -/
structure Matched (moves : List ExchangeMove) : Prop where
  queued : ∀ request slot, .request request slot ∈ (reached moves).queue →
    Accepted moves request slot
  written : ∀ request slot, Unanswered moves request slot → Accepted moves request slot
  pending : ∀ request slot, Pending moves request slot →
    (request.id, slot) ∈ (reached moves).waiting
  waiting : ∀ id slot, (id, slot) ∈ (reached moves).waiting →
    ∃ request, request.id = id ∧ Pending moves request slot
  response : ∀ slot response, (slot, .response response) ∈ (reached moves).answers →
    ∃ request, Accepted moves request slot ∧ AnsweredBy moves request slot response
  error : ∀ slot error, (slot, .error error) ∈ (reached moves).answers →
    ∃ request, Accepted moves request slot ∧
      (WriteFailed moves request slot error ∨ error = .serviceStopped)
  answered : ∀ request slot response, AnsweredBy moves request slot response →
    (slot, .response response) ∈ (reached moves).answers
  failed : ∀ request slot error, WriteFailed moves request slot error →
    (slot, .error error) ∈ (reached moves).answers

namespace Matched

variable {moves : List ExchangeMove} {move : ExchangeMove}

/-- An open slot belongs to an accepted request. -/
theorem open_accepted (matched : Matched moves) {slot : Nat}
    (member : slot ∈ (reached moves).openSlots) : ∃ request, Accepted moves request slot := by
  obtain waits | queues := List.mem_append.mp member
  · obtain ⟨⟨id, slot⟩, inside, rfl⟩ := List.mem_map.mp waits
    obtain ⟨request, -, pending⟩ := matched.waiting id slot inside
    exact ⟨request, matched.written request slot pending.2⟩
  · obtain ⟨outbound, inside, slotted⟩ := List.mem_filterMap.mp queues
    cases outbound with
    | message content => simp at slotted
    | request request position =>
      obtain rfl := Option.some.inj slotted
      exact ⟨request, matched.queued request position inside⟩

/-- A response under the identifier of a pending request fills its slot. -/
theorem receive_pending (matched : Matched moves) {request : Rpc.Request} {slot : Nat}
    (pending : Pending moves request slot) {response : Rpc.Response}
    (same : response.id = request.id) :
    (reached (moves ++ [.receive (.message (.response response))])).answers =
      (reached moves).answers ++ [(slot, .response response)] := by
  have waits := matched.pending request slot pending
  have found := lookup_of_mem (accounted_reached moves).keys waits
  rw [← same] at found
  simp [reached_snoc, step, receive, settle, fill, pending.1, found]

/-- The loop writes no request under an identifier for which another one waits. -/
theorem front_differs (matched : Matched moves)
    (distinct : ((asked moves).map (·.id)).Nodup) {request front : Rpc.Request}
    {slot frontSlot : Nat} {rest : List Outbound} (pending : Pending moves request slot)
    (next : (reached moves).queue = .request front frontSlot :: rest) : front.id ≠ request.id := by
  intro same
  have inside : .request front frontSlot ∈ (reached moves).queue := next ▸ List.mem_cons_self
  have equal : frontSlot = slot := (matched.queued front frontSlot inside).slot_unique distinct
    (matched.written request slot pending.2) same
  -- the slot would be open twice, for a request that waits and for one in the queue
  have opened := (List.nodup_append.mp (accounted_reached moves).nodup).2.1
  have apart := (List.nodup_append.mp opened).2.2
  exact apart slot (List.mem_map_of_mem (matched.pending request slot pending)) frontSlot
    (List.mem_filterMap.mpr ⟨_, inside, rfl⟩) equal.symm

/-- One more move keeps the pending requests and those that wait the same. -/
theorem pending_snoc (matched : Matched moves) (distinct : ((asked moves).map (·.id)).Nodup)
    {request : Rpc.Request} {slot : Nat} (pending : Pending (moves ++ [move]) request slot) :
    (request.id, slot) ∈ (reached (moves ++ [move])).waiting := by
  obtain ⟨going, unanswered⟩ := pending
  have turn := turn_snoc moves move
  refine (turn.waiting going).mpr ?_
  obtain ⟨rfl, -, rest, front⟩ | ⟨older, other⟩ := unanswered_snoc.mp unanswered
  · exact .inr ⟨request, rest, rfl, front, rfl⟩
  · have earlier : Pending moves request slot := ⟨turn.going going, older⟩
    refine .inl ⟨matched.pending request slot earlier, other, ?_⟩
    intro front position rest _ next
    exact matched.front_differs distinct earlier next

/-- One more move keeps those that wait pending. -/
theorem waiting_snoc (matched : Matched moves) {id : Rpc.RequestId} {slot : Nat}
    (member : (id, slot) ∈ (reached (moves ++ [move])).waiting) :
    ∃ request, request.id = id ∧ Pending (moves ++ [move]) request slot := by
  have turn := turn_snoc moves move
  have going : (reached (moves ++ [move])).ended = false := by
    by_contra ended
    have none := (accounted_reached (moves ++ [move])).covered (by simpa using ended)
    have opened := openSlots_of_waiting member
    simp [none] at opened
  obtain ⟨older, other, -⟩ | ⟨request, rest, rfl, front, rfl⟩ := (turn.waiting going).mp member
  · obtain ⟨request, rfl, pending⟩ := matched.waiting id slot older
    exact ⟨request, rfl, going, unanswered_snoc.mpr (.inr ⟨pending.2, other⟩)⟩
  · exact ⟨request, rfl, going, unanswered_snoc.mpr (.inl ⟨rfl, turn.going going, rest, front⟩)⟩

/-- One more move keeps requests matched. -/
theorem snoc (matched : Matched moves) (distinct : ((asked moves).map (·.id)).Nodup) :
    Matched (moves ++ [move]) where
  queued := by
    intro request slot member
    refine accepted_snoc.mpr ?_
    exact ((turn_snoc moves move).queue member).imp_left (matched.queued request slot)
  written := by
    intro request slot unanswered
    obtain ⟨-, -, rest, front⟩ | ⟨older, -⟩ := unanswered_snoc.mp unanswered
    · exact (matched.queued request slot (front ▸ List.mem_cons_self)).snoc move
    · exact (matched.written request slot older).snoc move
  pending := fun request slot => matched.pending_snoc distinct
  waiting := fun id slot => matched.waiting_snoc
  response := by
    intro slot response member
    obtain older | ⟨going, filled⟩ := (turn_snoc moves move).filled member
    · obtain ⟨request, accepted, answered⟩ := matched.response slot response older
      exact ⟨request, accepted.snoc move, occurred_snoc.mpr (.inl answered)⟩
    · cases filled with
      | response _ found =>
        obtain ⟨request, same, pending⟩ := matched.waiting _ slot (mem_of_lookup found)
        exact ⟨request, (matched.written request slot pending.2).snoc _,
          occurred_snoc.mpr (.inr ⟨rfl, same.symm, pending⟩)⟩
  error := by
    intro slot error member
    obtain older | ⟨going, filled⟩ := (turn_snoc moves move).filled member
    · obtain ⟨request, accepted, cause⟩ := matched.error slot error older
      refine ⟨request, accepted.snoc move, ?_⟩
      exact cause.imp_left fun failed => occurred_snoc.mpr (.inl failed)
    · cases filled with
      | @unwritten request _ rest front count _ =>
        refine ⟨request, (matched.queued request slot (front ▸ List.mem_cons_self)).snoc _, .inl ?_⟩
        exact occurred_snoc.mpr (.inr ⟨⟨count, rfl⟩, going, rest, front⟩)
      | abandoned _ left =>
        obtain ⟨request, accepted⟩ := matched.open_accepted left
        exact ⟨request, accepted.snoc move, .inr rfl⟩
  answered := by
    intro request slot response answered
    obtain older | ⟨rfl, same, pending⟩ := occurred_snoc.mp answered
    · exact (turn_snoc moves move).answers (matched.answered request slot response older)
    · rw [matched.receive_pending pending same]
      exact List.mem_append_right _ (List.mem_singleton_self _)
  failed := by
    intro request slot error failed
    obtain older | ⟨⟨count, rfl⟩, going, rest, front⟩ := occurred_snoc.mp failed
    · exact (turn_snoc moves move).answers (matched.failed request slot error older)
    · rw [reached_snoc]
      simp [step, deliver, going, front, giveUp, fill, finish]

end Matched

/-- Requests under different identifiers are matched after any moves. -/
theorem matched_reached {moves : List ExchangeMove}
    (distinct : ((asked moves).map (·.id)).Nodup) : Matched moves := by
  induction moves using List.reverseRecOn with
  | nil =>
    constructor <;>
      simp [reached, steps, fresh, Unanswered, Pending, AnsweredBy, WriteFailed, Occurred]
  | append_singleton moves move inductionHypothesis =>
    have earlier : ((asked moves).map (·.id)).Nodup := by
      rw [asked, List.filterMap_append, List.map_append] at distinct
      exact (List.nodup_append.mp distinct).1
    exact (inductionHypothesis earlier).snoc earlier

/-- A filled slot holds one answer. -/
theorem Accounted.answer_unique {exchange : Exchange} (accounted : Accounted exchange) {slot : Nat}
    {first second : SlotAnswer} (firstFilled : (slot, first) ∈ exchange.answers)
    (secondFilled : (slot, second) ∈ exchange.answers) : first = second := by
  have once : (exchange.answers.map Prod.fst).Nodup := (List.nodup_append.mp accounted.nodup).1
  exact Option.some.inj ((lookup_of_mem once firstFilled).symm.trans
    (lookup_of_mem once secondFilled))

/-- What fills the slot of an accepted request is what the request is due. -/
theorem Matched.due {moves : List ExchangeMove} (matched : Matched moves) {request : Rpc.Request}
    {slot : Nat} (accepted : Accepted moves request slot) {answer : SlotAnswer}
    (filled : (slot, answer) ∈ (reached moves).answers) : Due moves request slot answer := by
  have only {other : SlotAnswer} (otherFilled : (slot, other) ∈ (reached moves).answers) :
      other = answer := (accounted_reached moves).answer_unique otherFilled filled
  cases answer with
  | response response =>
    obtain ⟨owner, owned, answered⟩ := matched.response slot response filled
    exact accepted.request_unique owned ▸ answered
  | error error =>
    obtain ⟨owner, owned, cause⟩ := matched.error slot error filled
    obtain rfl := accepted.request_unique owned
    refine ⟨fun response answered => ?_, ?_⟩
    · simpa using only (matched.answered _ slot response answered)
    · by_cases failed : ∃ other, WriteFailed moves request slot other
      · obtain ⟨other, failed⟩ := failed
        obtain rfl := SlotAnswer.error.inj (only (matched.failed _ slot other failed))
        exact .inl failed
      · have unfailed := not_exists.mp failed
        exact .inr ⟨cause.resolve_left (unfailed error), unfailed⟩

/-- Requests with numbers of one counter, under any interleaving of what is accepted, written and
read. No slot is ever filled twice; a filled slot belongs to an accepted request and holds what it
is due, in particular no response under another identifier. Once the loop has ended, the slot of
every accepted request is filled exactly once. A response under the identifier of a pending request
is always delivered to it.

Proof: the requests that wait are the pending ones, because no request is written under an
identifier for which another one waits. Slots are accounted for, so what fills a slot once is all
that ever fills it, and at the end none is left open. -/
theorem every_request_gets_its_answer (moves : List ExchangeMove)
    (numbered : NumberedByOneCounter moves) :
    ((reached moves).answers.map Prod.fst).Nodup ∧
    (∀ slot answer, (slot, answer) ∈ (reached moves).answers →
      ∃ request, Accepted moves request slot ∧ Due moves request slot answer) ∧
    (∀ request slot response, Accepted moves request slot →
      (slot, .response response) ∈ (reached moves).answers → response.id = request.id) ∧
    ((reached moves).ended = true → ∀ request slot, Accepted moves request slot →
      ((reached moves).answers.map Prod.fst).count slot = 1 ∧
      ∃ answer, (reached moves).answer? slot = some answer ∧ Due moves request slot answer) ∧
    (∀ request slot response, Pending moves request slot → response.id = request.id →
      (reached (moves ++ [.receive (.message (.response response))])).answers =
        (reached moves).answers ++ [(slot, .response response)]) := by
  have matched := matched_reached numbered.distinct
  have accounted := accounted_reached moves
  have once : ((reached moves).answers.map Prod.fst).Nodup :=
    (List.nodup_append.mp accounted.nodup).1
  refine ⟨once, ?_, ?_, ?_, ?_⟩
  · intro slot answer filled
    obtain ⟨request, accepted⟩ : ∃ request, Accepted moves request slot := by
      cases answer with
      | response response => exact (matched.response slot response filled).imp fun _ => And.left
      | error error => exact (matched.error slot error filled).imp fun _ => And.left
    exact ⟨request, accepted, matched.due accepted filled⟩
  · intro request slot response accepted filled
    obtain ⟨-, -, -, -, -, same, -⟩ := matched.due accepted filled
    exact same
  · intro ended request slot accepted
    have member : slot ∈ (reached moves).answers.map Prod.fst := by
      have slots := accounted.slots
      rw [accounted.covered ended, List.append_nil] at slots
      exact slots.mem_iff.mpr (List.mem_range.mpr accepted.slot_lt)
    refine ⟨by rw [once.count, if_pos member], ?_⟩
    obtain ⟨⟨position, answer⟩, filled, rfl⟩ := List.mem_map.mp member
    exact ⟨answer, lookup_of_mem once filled, matched.due accepted filled⟩
  · intro request slot response pending same
    exact matched.receive_pending pending same

/-- A conversation in which everything can go wrong: an answer that comes before its request was
written, one that comes twice, a write that fails and a request that is still queued then. -/
def hurried : List ExchangeMove :=
  let ask (number : Int64) := ExchangeMove.ask ⟨.number number, "tinymist.pinMain", .null⟩
  let reply (number : Int64) := ExchangeMove.receive
    (.message (.response ⟨.number number, some .null, none⟩))
  [ask 2, ask 1, reply 1, .deliver .complete, reply 2, reply 2, ask 4, ask 3, .deliver .complete,
    .deliver (.failed 7 (.io "Broken pipe"))]

/-- In the hurried conversation every request gets the answer it is due. -/
theorem hurried_requests_get_their_answers :
    NumberedByOneCounter hurried ∧ (reached hurried).ended = true ∧
    (reached hurried).accepted = 4 ∧
    ∀ request slot, Accepted hurried request slot →
      ((reached hurried).answers.map Prod.fst).count slot = 1 ∧
      ∃ answer, (reached hurried).answer? slot = some answer ∧
        Due hurried request slot answer := by
  have numbered : NumberedByOneCounter hurried := ⟨[1, 0, 3, 2], by decide, by decide, by decide⟩
  have ended : (reached hurried).ended = true := by decide
  exact ⟨numbered, ended, by decide,
    (every_request_gets_its_answer hurried numbered).2.2.2.1 ended⟩

end LanguageClient.Exchange
