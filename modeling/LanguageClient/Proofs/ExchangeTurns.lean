import LanguageClient.Proofs.KeyedLists
import LanguageClient.Transport.Exchange

/-!
# What a move of an exchange can do

Every move is one of a few turns. Once the loop ended nothing changes any more but whether the
queue was closed. While it goes on, a message or request is accepted, the front of the queue is
written or its write fails, a response finds its request or finds none, something else is
reported or skipped, or the loop ends.

Slots are accounted for at every turn: those that were filled together with those that are open
are exactly the slots of the accepted requests, each of them once. The loop leaves no slot open
behind.
-/

namespace LanguageClient.Exchange

/-- What a move turns an exchange into. -/
inductive Turn (exchange : Exchange) : ExchangeMove → Exchange → Prop where
  | spent (ended : exchange.ended = true) {move : ExchangeMove} (other : move ≠ .close) :
      Turn exchange move exchange
  | closed : Turn exchange .close { exchange with closed := true }
  | sent (going : exchange.ended = false) (message : Rpc.Message) :
      Turn exchange (.send message)
        { exchange with queue := exchange.queue ++ [.message message] }
  | asked (going : exchange.ended = false) (request : Rpc.Request) :
      Turn exchange (.ask request)
        { exchange with
          queue := exchange.queue ++ [.request request exchange.accepted]
          accepted := exchange.accepted + 1 }
  | idle (going : exchange.ended = false) (empty : exchange.queue = [])
      (unclosed : exchange.closed = false) (outcome : WriteEnd) :
      Turn exchange (.deliver outcome) exchange
  | exhausted (going : exchange.ended = false) (empty : exchange.queue = [])
      (closed : exchange.closed = true) (outcome : WriteEnd) :
      Turn exchange (.deliver outcome) (exchange.finish none)
  | wrote (going : exchange.ended = false) {outbound : Outbound} {rest : List Outbound}
      (next : exchange.queue = outbound :: rest) :
      Turn exchange (.deliver .complete)
        ({ exchange with
          queue := rest
          written := exchange.written ++ Rpc.Frame.write outbound.content }.await outbound)
  | broke (going : exchange.ended = false) {outbound : Outbound} {rest : List Outbound}
      (next : exchange.queue = outbound :: rest) (count : Nat) (error : Rpc.TransportError) :
      Turn exchange (.deliver (.failed count error))
        (({ exchange with
          queue := rest
          written := exchange.written ++
            (Rpc.Frame.write outbound.content).take count }.giveUp error outbound).finish
          (some .crashed))
  | answered (going : exchange.ended = false) (response : Rpc.Response) {slot : Nat}
      (found : exchange.waiting.lookup response.id = some slot) :
      Turn exchange (.receive (.message (.response response)))
        ({ exchange with waiting := exchange.waiting.filter (·.1 != response.id) }.fill slot
          (.response response))
  | unknown (going : exchange.ended = false) (response : Rpc.Response)
      (missing : exchange.waiting.lookup response.id = none) :
      Turn exchange (.receive (.message (.response response))) exchange
  | reported (going : exchange.ended = false) (message : Rpc.Message)
      (unasked : ∀ response, message ≠ .response response) :
      Turn exchange (.receive (.message message))
        { exchange with events := exchange.events ++ [.message message] }
  | skipped (going : exchange.ended = false) (error : Rpc.TransportError)
      (payload : error.isPayloadOnly = true) : Turn exchange (.receive (.failed error)) exchange
  | stopped (going : exchange.ended = false) {outcome : Rpc.Frame.Outcome}
      (final : outcome = .ended ∨ outcome = .noRoom) :
      Turn exchange (.receive outcome) (exchange.finish (some .stopped))
  | crashed (going : exchange.ended = false) (error : Rpc.TransportError)
      (fatal : error.isPayloadOnly = false) :
      Turn exchange (.receive (.failed error)) (exchange.finish (some .crashed))

/-- After the end a move does nothing but close the queue. -/
theorem step_ended {exchange : Exchange} (ended : exchange.ended = true) {move : ExchangeMove}
    (other : move ≠ .close) : exchange.step move = exchange := by
  cases move with
  | close => exact absurd rfl other
  | send message => simp [step, send, ended]
  | ask request => simp [step, ask, ended]
  | deliver outcome => simp [step, deliver, ended]
  | receive outcome => simp [step, receive, ended]

/-- Taking the next message from the queue is a turn. -/
theorem turn_deliver {exchange : Exchange} (going : exchange.ended = false) (outcome : WriteEnd) :
    Turn exchange (.deliver outcome) (exchange.step (.deliver outcome)) := by
  cases front : exchange.queue with
  | nil =>
    cases closed : exchange.closed with
    | true =>
      simpa [step, deliver, going, front, closed] using Turn.exhausted going front closed outcome
    | false =>
      simpa [step, deliver, going, front, closed] using Turn.idle going front closed outcome
  | cons outbound rest =>
    cases outcome with
    | complete => simpa [step, deliver, going, front] using Turn.wrote going front
    | failed count error =>
      simpa [step, deliver, going, front] using Turn.broke going front count error

/-- Handling what was read is a turn. -/
theorem turn_receive {exchange : Exchange} (going : exchange.ended = false)
    (outcome : Rpc.Frame.Outcome) :
    Turn exchange (.receive outcome) (exchange.step (.receive outcome)) := by
  cases outcome with
  | message content =>
    cases content with
    | response answer =>
      cases found : exchange.waiting.lookup answer.id with
      | some slot =>
        simpa [step, receive, settle, going, found] using Turn.answered going answer found
      | none => simpa [step, receive, settle, going, found] using Turn.unknown going answer found
    | request call =>
      simpa [step, receive, going] using Turn.reported going (.request call) (by simp)
    | notification notice =>
      simpa [step, receive, going] using Turn.reported going (.notification notice) (by simp)
  | ended => simpa [step, receive, going] using Turn.stopped going (.inl rfl)
  | noRoom => simpa [step, receive, going] using Turn.stopped going (.inr rfl)
  | failed error =>
    cases payload : error.isPayloadOnly with
    | true => simpa [step, receive, going, payload] using Turn.skipped going error payload
    | false => simpa [step, receive, going, payload] using Turn.crashed going error payload

/-- Every move is a turn. -/
theorem turn_step (exchange : Exchange) (move : ExchangeMove) :
    Turn exchange move (exchange.step move) := by
  by_cases close : move = .close
  · subst close
    exact .closed
  · cases ended : exchange.ended with
    | true =>
      rw [step_ended ended close]
      exact .spent ended close
    | false =>
      cases move with
      | close => exact .closed
      | send message => simpa [step, send, ended] using Turn.sent ended message
      | ask request => simpa [step, ask, ended] using Turn.asked ended request
      | deliver outcome => exact turn_deliver ended outcome
      | receive outcome => exact turn_receive ended outcome

/-- Slots are accounted for: no identifier waits twice, the filled and the open slots together are
those of the accepted requests, each once, and the end leaves no slot open. -/
structure Accounted (exchange : Exchange) : Prop where
  keys : (exchange.waiting.map Prod.fst).Nodup
  slots : (exchange.answers.map Prod.fst ++ exchange.openSlots).Perm (List.range exchange.accepted)
  covered : exchange.ended = true → exchange.openSlots = []

/-- Taking an identifier out takes its slot out. -/
theorem slots_without {entries : List (Rpc.RequestId × Nat)} (keys : (entries.map Prod.fst).Nodup)
    (id : Rpc.RequestId) :
    (entries.map Prod.snd).Perm
      ((entries.lookup id).toList ++ (entries.filter (·.1 != id)).map Prod.snd) := by
  simpa [Function.comp_def] using (perm_without keys id).map Prod.snd

/-- A message has no slot. -/
@[simp] theorem slot?_message (content : Rpc.Message) :
    (Outbound.message content).slot? = none := rfl

/-- A request has its slot. -/
@[simp] theorem slot?_request (request : Rpc.Request) (slot : Nat) :
    (Outbound.request request slot).slot? = some slot := rfl

/-- Nothing is open after the end, and what was open is filled by it. -/
theorem Accounted.finish {exchange : Exchange}
    (slots : (exchange.answers.map Prod.fst ++ exchange.openSlots).Perm
      (List.range exchange.accepted)) (status : Option TransportStatus) :
    Accounted (exchange.finish status) where
  keys := List.nodup_nil
  slots := by
    have filled : (exchange.finish status).answers.map Prod.fst =
        exchange.answers.map Prod.fst ++ exchange.openSlots := by
      simp [Exchange.finish, Function.comp_def]
    have left : (exchange.finish status).openSlots = [] := rfl
    rw [filled, left, List.append_nil]
    exact slots
  covered := fun _ => rfl

/-- A written request waits for its response; a request that waited under its identifier is
settled. -/
theorem Accounted.await {exchange : Exchange} (accounted : Accounted exchange)
    (going : exchange.ended = false) {request : Rpc.Request} {slot : Nat} {rest : List Outbound}
    (next : exchange.queue = .request request slot :: rest) (written : List UInt8) :
    Accounted ({ exchange with queue := rest, written := written }.await
      (.request request slot)) where
  keys := by
    obtain ⟨apart, free⟩ := keys_without accounted.keys request.id
    simp only [Exchange.await, List.map_append, List.map_cons, List.map_nil]
    rw [List.nodup_append]
    refine ⟨apart, by simp, ?_⟩
    intro id member other last same
    rw [List.mem_singleton.mp last] at same
    exact free (same ▸ member)
  slots := by
    have taken := slots_without accounted.keys request.id
    have slots := accounted.slots
    simp only [openSlots, next, List.filterMap_cons, slot?_request] at slots
    simp only [openSlots, Exchange.await, List.map_append, List.map_cons, List.map_nil,
      Function.comp_def, List.map_map, List.map_id', List.append_assoc, List.singleton_append]
    rw [← List.append_assoc (exchange.waiting.lookup request.id).toList]
    exact ((taken.symm.append_right _).append_left _).trans slots
  covered := fun ended => absurd (going.symm.trans ended) (by decide)

/-- A turn keeps slots accounted for. -/
theorem Accounted.turn {exchange next : Exchange} {move : ExchangeMove}
    (accounted : Accounted exchange) (turn : Turn exchange move next) : Accounted next := by
  have slots := accounted.slots
  cases turn with
  | spent ended other => exact accounted
  | closed => exact ⟨accounted.keys, slots, accounted.covered⟩
  | idle going empty unclosed outcome => exact accounted
  | unknown going response missing => exact accounted
  | skipped going error payload => exact accounted
  | reported going message unasked => exact ⟨accounted.keys, slots, accounted.covered⟩
  | exhausted going empty closed outcome => exact .finish slots none
  | stopped going final => exact .finish slots (some .stopped)
  | crashed going error fatal => exact .finish slots (some .crashed)
  | sent going message =>
    refine ⟨accounted.keys, ?_, fun ended => absurd (going.symm.trans ended) (by decide)⟩
    simpa [openSlots, List.filterMap_cons] using slots
  | asked going request =>
    refine ⟨accounted.keys, ?_, fun ended => absurd (going.symm.trans ended) (by decide)⟩
    have more := slots.append_right [exchange.accepted]
    simpa [openSlots, List.filterMap_cons, List.range_succ] using more
  | @answered going response slot found =>
    have taken := slots_without accounted.keys response.id
    rw [found] at taken
    refine ⟨(keys_without accounted.keys response.id).1, ?_,
      fun ended => absurd (going.symm.trans ended) (by decide)⟩
    have moved := ((taken.symm.append_right (exchange.queue.filterMap Outbound.slot?)).append_left
      (exchange.answers.map Prod.fst)).trans slots
    simpa [openSlots, fill] using moved
  | @wrote going outbound rest next =>
    cases outbound with
    | message content =>
      refine ⟨accounted.keys, ?_, fun ended => absurd (going.symm.trans ended) (by decide)⟩
      simpa [openSlots, Exchange.await, next, List.filterMap_cons] using slots
    | request request slot => exact accounted.await going next _
  | @broke going outbound rest next count error =>
    apply Accounted.finish
    cases outbound with
    | message content => simpa [openSlots, giveUp, next, List.filterMap_cons] using slots
    | request request slot =>
      simp only [openSlots, next, List.filterMap_cons, slot?_request] at slots
      simp only [openSlots, giveUp, fill, List.map_append, List.map_cons, List.map_nil,
        List.append_assoc, List.singleton_append]
      exact (List.perm_middle.symm.append_left _).trans slots

/-- Slots are accounted for after any moves. -/
theorem accounted_steps (moves : List ExchangeMove) : Accounted (fresh.steps moves) := by
  have kept (exchange : Exchange) (accounted : Accounted exchange) :
      Accounted (exchange.steps moves) := by
    induction moves generalizing exchange with
    | nil => exact accounted
    | cons move moves inductionHypothesis =>
      exact inductionHypothesis (exchange.step move) (accounted.turn (turn_step exchange move))
  exact kept fresh ⟨List.nodup_nil, .refl _, fun _ => rfl⟩

section Step

variable {exchange next : Exchange} {move : ExchangeMove}

/-- What was the end stays the end. -/
theorem Turn.ended (turn : Turn exchange move next) (ended : exchange.ended = true) :
    next.ended = true := by
  cases turn with
  | spent ended other => exact ended
  | closed => exact ended
  | _ => simp_all

/-- A loop that goes on has gone on before. -/
theorem Turn.going (turn : Turn exchange move next) (going : next.ended = false) :
    exchange.ended = false := by
  cases ended : exchange.ended with
  | true => simp [turn.ended ended] at going
  | false => rfl

/-- The number of accepted requests does not fall. -/
theorem Turn.accepted (turn : Turn exchange move next) : exchange.accepted ≤ next.accepted := by
  cases turn with
  | asked going request => exact Nat.le_succ _
  | @wrote going outbound rest front => cases outbound <;> exact Nat.le_refl _
  | @broke going outbound rest front count error => cases outbound <;> exact Nat.le_refl _
  | _ => exact Nat.le_refl _

/-- A request in the queue was there before or is asked just now. -/
theorem Turn.queue (turn : Turn exchange move next) {request : Rpc.Request} {slot : Nat}
    (member : .request request slot ∈ next.queue) :
    .request request slot ∈ exchange.queue ∨
      exchange.ended = false ∧ move = .ask request ∧ slot = exchange.accepted := by
  cases turn with
  | sent going message => exact .inl (by simpa using member)
  | asked going asked =>
    have split : Outbound.request request slot ∈ exchange.queue ∨
        request = asked ∧ slot = exchange.accepted := by simpa using member
    obtain older | ⟨rfl, rfl⟩ := split
    · exact .inl older
    · exact .inr ⟨going, rfl, rfl⟩
  | @wrote going outbound rest front =>
    have kept : .request request slot ∈ rest := by cases outbound <;> exact member
    exact .inl (front ▸ List.mem_cons_of_mem _ kept)
  | exhausted _ _ _ _ => simp [finish] at member
  | stopped _ _ => simp [finish] at member
  | crashed _ _ _ => simp [finish] at member
  | broke _ _ _ _ => simp [finish] at member
  | _ => exact .inl member

/-- Filled slots stay filled with what they were filled with. -/
theorem Turn.answers (turn : Turn exchange move next) : exchange.answers ⊆ next.answers := by
  cases turn with
  | answered _ _ _ => exact List.subset_append_left _ _
  | exhausted _ _ _ _ => exact List.subset_append_left _ _
  | stopped _ _ => exact List.subset_append_left _ _
  | crashed _ _ _ => exact List.subset_append_left _ _
  | @wrote going outbound rest front =>
    cases outbound with
    | message content => exact List.Subset.refl _
    | request written slot => exact List.subset_append_left _ _
  | @broke going outbound rest front count error =>
    cases outbound with
    | message content => exact List.subset_append_left _ _
    | request written slot =>
      exact List.Subset.trans (List.subset_append_left _ _) (List.subset_append_left _ _)
  | _ => exact List.Subset.refl _

/-- What a slot is newly filled with: the response under the identifier for which it waits, the
error of the write of its own request, or else the end of the service. -/
inductive Filled (exchange : Exchange) : ExchangeMove → Nat → SlotAnswer → Prop where
  | response (response : Rpc.Response) {slot : Nat}
      (found : exchange.waiting.lookup response.id = some slot) :
      Filled exchange (.receive (.message (.response response))) slot (.response response)
  | unwritten {request : Rpc.Request} {slot : Nat} {rest : List Outbound}
      (next : exchange.queue = .request request slot :: rest) (count : Nat)
      (error : Rpc.TransportError) :
      Filled exchange (.deliver (.failed count error)) slot (.error error)
  | abandoned (move : ExchangeMove) {slot : Nat} (left : slot ∈ exchange.openSlots) :
      Filled exchange move slot (.error .serviceStopped)

/-- The slot of whoever waits is open. -/
theorem openSlots_of_waiting {id : Rpc.RequestId} {slot : Nat}
    (member : (id, slot) ∈ exchange.waiting) : slot ∈ exchange.openSlots :=
  List.mem_append_left _ (List.mem_map_of_mem member)

/-- The end of the loop fills the open slots and no others. -/
theorem mem_answers_finish {status : Option TransportStatus} {slot : Nat} {answer : SlotAnswer} :
    (slot, answer) ∈ (exchange.finish status).answers ↔
      (slot, answer) ∈ exchange.answers ∨
        slot ∈ exchange.openSlots ∧ answer = .error .serviceStopped := by
  simp only [finish, List.mem_append, List.mem_map]
  refine or_congr_right ⟨?_, ?_⟩
  · rintro ⟨left, member, equal⟩
    obtain ⟨rfl, rfl⟩ := Prod.mk.inj equal
    exact ⟨member, rfl⟩
  · rintro ⟨member, rfl⟩
    exact ⟨slot, member, rfl⟩

/-- A filled slot was filled before or is filled just now. -/
theorem Turn.filled (turn : Turn exchange move next) {slot : Nat} {answer : SlotAnswer}
    (member : (slot, answer) ∈ next.answers) :
    (slot, answer) ∈ exchange.answers ∨
      exchange.ended = false ∧ Filled exchange move slot answer := by
  cases turn with
  | answered going response found =>
    obtain older | newer := List.mem_append.mp member
    · exact .inl older
    · obtain ⟨rfl, rfl⟩ := Prod.mk.inj (List.mem_singleton.mp newer)
      exact .inr ⟨going, .response response found⟩
  | exhausted going empty closed outcome =>
    obtain older | ⟨left, rfl⟩ := mem_answers_finish.mp member
    · exact .inl older
    · exact .inr ⟨going, .abandoned _ left⟩
  | stopped going final =>
    obtain older | ⟨left, rfl⟩ := mem_answers_finish.mp member
    · exact .inl older
    · exact .inr ⟨going, .abandoned _ left⟩
  | crashed going error fatal =>
    obtain older | ⟨left, rfl⟩ := mem_answers_finish.mp member
    · exact .inl older
    · exact .inr ⟨going, .abandoned _ left⟩
  | @wrote going outbound rest front =>
    cases outbound with
    | message content => exact .inl member
    | request written position =>
      obtain older | newer := List.mem_append.mp member
      · exact .inl older
      · obtain ⟨earlier, replaced, equal⟩ := List.mem_map.mp newer
        obtain ⟨rfl, rfl⟩ := Prod.mk.inj equal
        have waited := mem_of_lookup (Option.mem_toList.mp replaced)
        exact .inr ⟨going, .abandoned _ (openSlots_of_waiting waited)⟩
  | @broke going outbound rest front count error =>
    have shrunk : exchange.waiting.map Prod.snd ++ rest.filterMap Outbound.slot? ⊆
        exchange.openSlots := by
      rw [openSlots, front]
      exact (((List.sublist_cons_self _ _).filterMap _).append_left _).subset
    cases outbound with
    | message content =>
      obtain older | ⟨left, rfl⟩ := mem_answers_finish.mp member
      · exact .inl older
      · exact .inr ⟨going, .abandoned _ (shrunk left)⟩
    | request written position =>
      obtain older | ⟨left, rfl⟩ := mem_answers_finish.mp member
      · obtain oldest | own := List.mem_append.mp older
        · exact .inl oldest
        · obtain ⟨rfl, rfl⟩ := Prod.mk.inj (List.mem_singleton.mp own)
          exact .inr ⟨going, .unwritten front count error⟩
      · exact .inr ⟨going, .abandoned _ (shrunk left)⟩
  | _ => exact .inl member

/-- Who waits after a move that does not end the loop: whoever waited and neither is answered nor
replaced, and the request that was just written. -/
theorem Turn.waiting (turn : Turn exchange move next) (going : next.ended = false)
    {id : Rpc.RequestId} {slot : Nat} :
    (id, slot) ∈ next.waiting ↔
      ((id, slot) ∈ exchange.waiting ∧
        (∀ response, move = .receive (.message (.response response)) → response.id ≠ id) ∧
        (∀ request position rest, move = .deliver .complete →
          exchange.queue = .request request position :: rest → request.id ≠ id)) ∨
      ∃ request rest, move = .deliver .complete ∧
        exchange.queue = .request request slot :: rest ∧ request.id = id := by
  cases turn with
  | spent ended other => simp [going] at ended
  | exhausted _ _ _ _ => simp [finish] at going
  | stopped _ _ => simp [finish] at going
  | crashed _ _ _ => simp [finish] at going
  | broke _ _ _ _ => simp [finish] at going
  | reported _ message unasked => simp [unasked]
  | unknown _ response missing =>
    have absent := List.lookup_eq_none_iff.mp missing
    have others : (id, slot) ∈ exchange.waiting → response.id ≠ id := fun member => by
      simpa using absent _ member
    simpa using others
  | answered _ response found => 
    have flipped : id ≠ response.id ↔ response.id ≠ id := ne_comm
    simp [fill, flipped]
  | @wrote _ outbound rest front =>
    cases outbound with
    | message content => simp [await, front]
    | request written position =>
      have flipped : id ≠ written.id ↔ written.id ≠ id := ne_comm
      have own : id = written.id ∧ slot = position ↔
          ∃ request, (written = request ∧ position = slot) ∧ request.id = id := by
        constructor
        · rintro ⟨rfl, rfl⟩
          exact ⟨written, ⟨rfl, rfl⟩, rfl⟩
        · rintro ⟨request, ⟨rfl, rfl⟩, rfl⟩
          exact ⟨rfl, rfl⟩
      simp [await, front, flipped, own]
  | idle _ empty _ _ => simp [empty]
  | _ => simp

end Step

end LanguageClient.Exchange
