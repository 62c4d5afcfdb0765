import LanguageClient.DocumentSync
import LanguageClient.Proofs.Actions

/-!
# The calls over a connection

What is done over a connection makes the trace grow. The calls of commands and of handled messages
are routine: they neither start nor end the conversation and neither open nor close a preview.
-/

namespace LanguageClient

/-- Whether a call opens or closes a preview in the editor. -/
def Call.isPreview : Call → Bool
  | .editor (.openPreview _ _) | .editor (.closePreview _) => true
  | _ => false

/-- Whether a call is part of the daily business: it neither starts nor ends the conversation and
neither opens nor closes a preview. -/
def Call.isRoutine : Call → Bool
  | .request call _ => call.method != "initialize" && call.method != "shutdown"
  | .notification notice => notice.method != "initialized" && notice.method != "exit"
  | .reply _ _ => true
  | .start _ | .stop => false
  | .editor (.openPreview _ _) | .editor (.closePreview _) => false
  | .editor _ => true

/-- A routine call does not concern previews. -/
theorem Call.isPreview_of_isRoutine {call : Call} (routine : call.isRoutine = true) :
    call.isPreview = false := by
  cases call with
  | editor call =>
    cases call with
    | openPreview task started => simp [isRoutine] at routine
    | closePreview task => simp [isRoutine] at routine
    | _ => rfl
  | _ => rfl

/-- A trace grows by calls of a kind. -/
def Trace.Grows (allowed : Call → Prop) (before after : Trace) : Prop :=
  ∃ calls, after = before ++ calls ∧ ∀ call ∈ calls, allowed call

namespace Trace.Grows

variable {allowed weaker : Call → Prop}

/-- Growing by nothing and by one thing after another is growing. -/
instance : IsPreorder Trace (Trace.Grows allowed) where
  refl := fun trace => ⟨[], by simp, by simp⟩
  trans := by
    rintro first second third ⟨early, rfl, earlyAllowed⟩ ⟨late, rfl, lateAllowed⟩
    refine ⟨early ++ late, by simp, fun call member => ?_⟩
    obtain inEarly | inLate := List.mem_append.mp member
    · exact earlyAllowed call inEarly
    · exact lateAllowed call inLate

/-- One call more. -/
theorem snoc (trace : Trace) {call : Call} (fits : allowed call) :
    Trace.Grows allowed trace (trace ++ [call]) :=
  ⟨[call], rfl, by simpa using fits⟩

/-- A wider kind of calls. -/
theorem mono (implied : ∀ call, allowed call → weaker call) {before after : Trace}
    (grows : Trace.Grows allowed before after) : Trace.Grows weaker before after := by
  obtain ⟨calls, rfl, fits⟩ := grows
  exact ⟨calls, rfl, fun call member => implied call (fits call member)⟩

end Trace.Grows

namespace Connection

/-- The trace of a connection grows by calls of a kind. -/
def Calls (allowed : Call → Prop) (before after : Connection) : Prop :=
  Trace.Grows allowed before.trace after.trace

instance (allowed : Call → Prop) : IsPreorder Connection (Calls allowed) where
  refl := fun connection => refl_of (Trace.Grows allowed) connection.trace
  trans := fun _ _ _ => trans_of (Trace.Grows allowed)

variable {allowed : Call → Prop} (peer : Peer)

/-- What becomes of a request: it is recorded under the next number, and the response is decoded. -/
theorem run_request {α : Type} (method : String) (params : Json) (decode : Json.Decoder α)
    (connection : Connection) :
    let call : Call :=
      .request ⟨.number connection.nextId, method, params⟩ connection.requestTimeout
    (request peer method params decode).run connection =
      ((peer.request (connection.trace ++ [call])).bind (accept decode),
        { connection with nextId := connection.nextId + 1 }.record call) := by
  intro call
  let sent := { connection with nextId := connection.nextId + 1 }.record call
  change (do
    let response ← liftExcept (peer.request sent.trace)
    liftExcept (accept decode response) : Action α).run sent =
      ((peer.request sent.trace).bind (accept decode), sent)
  cases peer.request sent.trace with
  | error cause => rfl
  | ok response =>
    change (liftExcept (accept decode response) : Action α).run sent =
      (accept decode response, sent)
    cases accept decode response with
    | ok value => rfl
    | error cause => rfl

/-- A request is recorded under the next number, whatever its outcome. -/
theorem request_sent {α : Type} (method : String) (params : Json) (decode : Json.Decoder α)
    (connection : Connection) :
    ((request peer method params decode).run connection).2 =
      { connection with nextId := connection.nextId + 1 }.record
        (.request ⟨.number connection.nextId, method, params⟩ connection.requestTimeout) :=
  congrArg Prod.snd (run_request peer method params decode connection)

/-- What becomes of listening. -/
theorem run_listen (connection : Connection) :
    (listen peer).run connection = (peer.listen connection.trace, connection) := by
  change (liftExcept (peer.listen connection.trace) : Action Unit).run connection = _
  cases peer.listen connection.trace with
  | ok done => rfl
  | error cause => rfl

/-- A call that is recorded before it is made. Its answer is the result, and the record is all that
changes. -/
theorem run_recorded {α : Type} (call : Call) (answer : Trace → Except Rpc.TransportError α)
    (connection : Connection) :
    (do
      let current ← get
      set (current.record call)
      liftExcept (answer (current.record call).trace) : Action α).run connection =
      (answer (connection.trace ++ [call]), connection.record call) := by
  change (liftExcept (answer (connection.record call).trace) : Action α).run
    (connection.record call) = (answer (connection.record call).trace, _)
  cases answer (connection.record call).trace with
  | ok value => rfl
  | error cause => rfl

/-- What becomes of a notification. -/
theorem run_notify (method : String) (params : Json) (connection : Connection) :
    (notify peer method params).run connection =
      (peer.notify (connection.trace ++ [.notification ⟨method, params⟩]),
        connection.record (.notification ⟨method, params⟩)) :=
  run_recorded _ peer.notify connection

/-- What becomes of a launch. -/
theorem run_launch (config : LaunchConfig) (connection : Connection) :
    (launch peer config).run connection =
      (peer.start (connection.trace ++ [.start config]), connection.record (.start config)) :=
  run_recorded _ peer.start connection

/-- What becomes of stopping the transport. -/
theorem run_stop (connection : Connection) :
    (stop peer).run connection =
      (peer.stop (connection.trace ++ [.stop]), connection.record .stop) :=
  run_recorded _ peer.stop connection

/-- A request is one call. -/
theorem request_calls {α : Type} {method : String} {params : Json} {decode : Json.Decoder α}
    (fits : ∀ request timeout, request.method = method → allowed (.request request timeout)) :
    Leads (Calls allowed) (request peer method params decode) :=
  .get_bind fun connection => Leads.set_bind (.snoc connection.trace (fits _ _ rfl))
    (.bind (.liftExcept _) fun _ => .liftExcept _)

/-- A notification is one call. -/
theorem notify_calls {method : String} {params : Json}
    (fits : ∀ notification, notification.method = method → allowed (.notification notification)) :
    Leads (Calls allowed) (notify peer method params) :=
  .get_bind fun connection => Leads.set_bind (.snoc connection.trace (fits _ rfl)) (.liftExcept _)

/-- Listening is no call. -/
theorem listen_calls : Leads (Calls allowed) (listen peer) :=
  .bind .get fun _ => .liftExcept _

/-- A launch is one call. -/
theorem launch_calls {config : LaunchConfig} (fits : allowed (.start config)) :
    Leads (Calls allowed) (launch peer config) :=
  .get_bind fun connection => Leads.set_bind (.snoc connection.trace fits) (.liftExcept _)

/-- A reply is one call. -/
theorem reply_calls {id : Rpc.RequestId} {content : Reply} (fits : allowed (.reply id content)) :
    Leads (Calls allowed) (reply peer id content) :=
  .get_bind fun connection => Leads.set_bind (.snoc connection.trace fits) (.liftExcept _)

/-- Stopping the transport is one call. -/
theorem stop_calls (fits : allowed .stop) : Leads (Calls allowed) (stop peer) :=
  .get_bind fun connection => Leads.set_bind (.snoc connection.trace fits) (.liftExcept _)

/-- Announcing documents makes notifications of their openings. -/
theorem announceAll_calls
    (fits : ∀ notification, notification.method = "textDocument/didOpen" →
      allowed (.notification notification)) (documents : List Document) :
    Leads (Calls allowed) (DocumentSync.announceAll peer documents) := by
  induction documents with
  | nil => exact .pure _
  | cons document documents inductionHypothesis =>
    exact .bind (notify_calls peer fits) fun _ => inductionHypothesis

/-- Announcing an event makes the notification that announces it, if there is one. -/
theorem forward_calls {primary : String} {event : EditorEvent}
    (fits : ∀ notification, DocumentSync.announcement? primary event = some notification →
      allowed (.notification notification)) :
    Leads (Calls allowed) (DocumentSync.forward peer primary event) := by
  cases announced : DocumentSync.announcement? primary event with
  | none =>
    simp only [DocumentSync.forward, announced]
    exact .pure _
  | some notification =>
    simp only [DocumentSync.forward, announced]
    refine .bind ?_ fun _ => .pure _
    exact .get_bind fun connection =>
      Leads.set_bind (.snoc connection.trace (fits notification announced)) (.liftExcept _)

/-- The messages by which the client is introduced. -/
def introductionCalls (connection : Connection) (params : Json) : List Call :=
  [.request ⟨.number connection.nextId, "initialize", params⟩ connection.requestTimeout,
    .notification ⟨"initialized", .object []⟩]

/-- What becomes of an introduction: it breaks off after the first messages, or it sends both and
leaves the connection with the next number. -/
theorem run_introduce (processId : Json) (root : Option Uri) (options : Option Json)
    (connection : Connection) :
    let plan := connection.introductionCalls (introduction processId root options)
    (∃ cause left made,
      (introduce peer processId root options).run connection = (.error cause, left) ∧
        left.trace = connection.trace ++ made ∧ made <+: plan) ∨
    ∃ answer capabilities,
      (introduce peer processId root options).run connection =
        (.ok answer, { connection with
          nextId := connection.nextId + 1
          capabilities := capabilities
          trace := connection.trace ++ plan }) := by
  intro plan
  let call : Call := .request ⟨.number connection.nextId, "initialize",
    introduction processId root options⟩ connection.requestTimeout
  let asked := { connection with nextId := connection.nextId + 1 }.record call
  have asks : (request peer "initialize" (introduction processId root options)
      Capabilities.Introduction.decode).run connection =
      ((peer.request (connection.trace ++ [call])).bind
        (accept Capabilities.Introduction.decode), asked) :=
    run_request peer "initialize" _ _ connection
  cases answered : (peer.request (connection.trace ++ [call])).bind
      (accept Capabilities.Introduction.decode) with
  | error cause =>
    rw [answered] at asks
    exact .inl ⟨cause, asked, [call], run_bind_error asks, rfl, ⟨[_], rfl⟩⟩
  | ok answer =>
    rw [answered] at asks
    let introduced := { asked with
      capabilities := asked.capabilities.or (some answer.capabilities) }
    have confirms := run_notify peer "initialized" (.object []) introduced
    have both : asked.trace ++ [.notification ⟨"initialized", .object []⟩] =
        connection.trace ++ plan := List.append_assoc connection.trace [_] [_]
    have rest : (introduce peer processId root options).run connection = (do
        notify peer "initialized" (.object [])
        return answer : Action Capabilities.Introduction).run introduced :=
      run_bind_ok asks
    rw [rest]
    cases confirmed : peer.notify
        (introduced.trace ++ [.notification ⟨"initialized", .object []⟩]) with
    | error cause =>
      rw [confirmed] at confirms
      exact .inl ⟨cause, _, plan, run_bind_error confirms, both, List.prefix_rfl⟩
    | ok done =>
      rw [confirmed] at confirms
      refine .inr ⟨answer, introduced.capabilities, ?_⟩
      rw [run_bind_ok confirms, ← both]
      rfl

end Connection

namespace DocumentSync

/-- The message that announces an open document. -/
def openingCall (document : Document) : Call :=
  .notification ⟨"textDocument/didOpen", openedParams document⟩

/-- What becomes of announcing documents: the announcements break off after some of them, or all are
made.

Proof: by induction on the documents that are left; the first failure ends the loop. -/
theorem run_announceAll (peer : Peer) (documents : List Document) (connection : Connection) :
    (∃ cause made,
      (announceAll peer documents).run connection =
          (.error cause, { connection with trace := connection.trace ++ made }) ∧
        made <+: documents.map openingCall) ∨
    (announceAll peer documents).run connection =
      (.ok (), { connection with trace := connection.trace ++ documents.map openingCall }) := by
  induction documents generalizing connection with
  | nil =>
    refine .inr ?_
    simp only [List.map_nil, List.append_nil]
    rfl
  | cons document documents inductionHypothesis =>
    have tells : (Connection.notify peer "textDocument/didOpen" (openedParams document)).run
        connection = (peer.notify (connection.trace ++ [openingCall document]),
          connection.record (openingCall document)) :=
      Connection.run_notify peer _ _ connection
    cases told : peer.notify (connection.trace ++ [openingCall document]) with
    | error cause =>
      rw [told] at tells
      exact .inl ⟨cause, [_], run_bind_error tells, ⟨_, rfl⟩⟩
    | ok done =>
      rw [told] at tells
      have recorded (made : List Call) : (connection.record (openingCall document)).trace ++ made =
          connection.trace ++ openingCall document :: made :=
        List.append_assoc connection.trace [_] made
      rw [announceAll, run_bind_ok tells]
      obtain ⟨cause, made, broke, part⟩ | completed :=
        inductionHypothesis (connection.record (openingCall document))
      · refine .inl ⟨cause, openingCall document :: made, ?_, ?_⟩
        · rw [broke, recorded]
          rfl
        · exact List.prefix_cons_inj _ |>.mpr part
      · refine .inr ?_
        rw [completed, recorded]
        rfl

/-- What becomes of announcing the documents that qualify. -/
theorem run_replay (peer : Peer) (primary : String) (documents : List Document)
    (connection : Connection) :
    let plan := (documents.filter (qualifies primary)).map openingCall
    (∃ cause made,
      (replay peer primary documents).run connection =
          (.error cause, { connection with trace := connection.trace ++ made }) ∧ made <+: plan) ∨
    ∃ count, (replay peer primary documents).run connection =
      (.ok count, { connection with trace := connection.trace ++ plan }) := by
  intro plan
  obtain ⟨cause, made, broke, part⟩ | completed :=
    run_announceAll peer (documents.filter (qualifies primary)) connection
  · exact .inl ⟨cause, made, run_bind_error broke, part⟩
  · exact .inr ⟨_, run_bind_ok completed⟩

/-- Only openings, changes and closings are announced. -/
theorem announcement?_method {primary : String} {event : EditorEvent}
    {notification : Rpc.Notification}
    (announced : announcement? primary event = some notification) :
    notification.method = "textDocument/didOpen" ∨
      notification.method = "textDocument/didChange" ∨
      notification.method = "textDocument/didClose" := by
  cases event with
  | activeChanged active => simp [announcement?] at announced
  | opened document =>
    obtain ⟨-, ⟨⟩⟩ := Option.ite_none_right_eq_some.mp announced
    exact .inl rfl
  | changed document changes =>
    obtain ⟨-, ⟨⟩⟩ := Option.ite_none_right_eq_some.mp announced
    exact .inr (.inl rfl)
  | closed document =>
    obtain ⟨-, ⟨⟩⟩ := Option.ite_none_right_eq_some.mp announced
    exact .inr (.inr rfl)

end DocumentSync

end LanguageClient
