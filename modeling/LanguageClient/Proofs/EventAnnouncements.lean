import LanguageClient.Proofs.MainFile

/-!
# What each event of the editor adds to the calls

The server is told about an event of a document that it does not synchronize itself, with all that
the event says and nothing else. If it could be told, or need not be, the focus may move, and then
the indicator is set and the new main file is announced. If it could not be told, the failure is
what handling the event comes to, and nothing else happens.

So the calls that a sequence of events leads to are the calls of the single events, one after the
other, whichever of them fail.
-/

namespace LanguageClient

namespace DocumentSync

/-- A document that the server is told about: one of another language than the primary one, with a
file or an untitled URI. -/
def IsMirrored (primary : String) (document : Document) : Prop :=
  document.language ≠ primary ∧ (document.scheme = "file" ∨ document.scheme = "untitled")

/-- These are the documents that qualify. -/
theorem qualifies_iff {primary : String} {document : Document} :
    qualifies primary document = true ↔ IsMirrored primary document := by
  simp [qualifies, IsMirrored, schemes]

/-- What the server is told about an event. An opening carries the whole document, a change all
edits in their order, each with both ends of its range, and a closing the URI alone. -/
inductive Mirrors (primary : String) : EditorEvent → Rpc.Notification → Prop where
  | opened {document : Document} (mirrored : IsMirrored primary document) :
      Mirrors primary (.opened document) ⟨"textDocument/didOpen",
        .object [("textDocument", .object [
          ("languageId", .string document.language),
          ("text", .string document.text),
          ("uri", .string document.uri.text),
          ("version", .ofInt document.version.toInt)])]⟩
  | changed {document : Document} {changes : List ContentChange}
      (mirrored : IsMirrored primary document) :
      Mirrors primary (.changed document changes) ⟨"textDocument/didChange",
        .object [
          ("contentChanges", .array (changes.map fun change => .object [
            ("range", .object [
              ("end", .object [
                ("character", .ofNat change.range.stop.character.toNat),
                ("line", .ofNat change.range.stop.line.toNat)]),
              ("start", .object [
                ("character", .ofNat change.range.start.character.toNat),
                ("line", .ofNat change.range.start.line.toNat)])]),
            ("rangeLength", .ofNat change.length.toNat),
            ("text", .string change.text)])),
          ("textDocument", .object [
            ("uri", .string document.uri.text),
            ("version", .ofInt document.version.toInt)])]⟩
  | closed {document : Document} (mirrored : IsMirrored primary document) :
      Mirrors primary (.closed document) ⟨"textDocument/didClose",
        .object [("textDocument", .object [("uri", .string document.uri.text)])]⟩

/-- An event is announced by what it calls for. -/
theorem announcement?_eq_some_iff {primary : String} {event : EditorEvent}
    {notification : Rpc.Notification} :
    announcement? primary event = some notification ↔ Mirrors primary event notification := by
  constructor
  · intro announced
    -- Members are sorted by their keys, and the lists of `Mirrors` are the results.
    cases event with
    | activeChanged active => cases announced
    | opened document =>
      obtain ⟨qualified, same⟩ := Option.ite_none_right_eq_some.mp announced
      exact Option.some.inj same ▸ .opened (qualifies_iff.mp qualified)
    | changed document changes =>
      obtain ⟨qualified, same⟩ := Option.ite_none_right_eq_some.mp announced
      exact Option.some.inj same ▸ .changed (qualifies_iff.mp qualified)
    | closed document =>
      obtain ⟨qualified, same⟩ := Option.ite_none_right_eq_some.mp announced
      exact Option.some.inj same ▸ .closed (qualifies_iff.mp qualified)
  · intro mirrors
    cases mirrors with
    | opened mirrored => exact if_pos (qualifies_iff.mpr mirrored)
    | changed mirrored => exact if_pos (qualifies_iff.mpr mirrored)
    | closed mirrored => exact if_pos (qualifies_iff.mpr mirrored)

/-- An event calls for one notification at most. -/
theorem Mirrors.unique {primary : String} {event : EditorEvent} {first second : Rpc.Notification}
    (one : Mirrors primary event first) (another : Mirrors primary event second) :
    first = second := by
  rw [← announcement?_eq_some_iff] at one another
  exact Option.some.inj (one.symm.trans another)

end DocumentSync

namespace Session

/-- The session after some calls, if nothing else changed. -/
def logging (session : Session) (calls : List Call) : Session :=
  { session with connection := { session.connection with trace := session.trace ++ calls } }

/-- The attempt to tell the server about an event: the calls that are made for it, and how it ends.
-/
inductive Attempts (environment : Environment) (session : Session) (event : EditorEvent) :
    List Call → Except Rpc.TransportError Unit → Prop where
  | unneeded
      (unmirrored : ∀ notification,
        ¬ DocumentSync.Mirrors session.options.primary event notification) :
      Attempts environment session event [] (.ok ())
  | made {notification : Rpc.Notification}
      (mirrors : DocumentSync.Mirrors session.options.primary event notification) :
      Attempts environment session event [.notification notification]
        (environment.peer.notify (session.trace ++ [.notification notification]))

/-- The calls for an effect: the indicator is set, and the path of the new focus is announced as
main file. Without an effect there are none. -/
def focusCalls (connection : Connection) (focus : FocusState) : Option FocusEffect → List Call
  | none => []
  | some effect =>
    [.editor (.setFocusIndicator effect.indicator),
      .request ⟨.number connection.nextId, "workspace/executeCommand", focusMain focus.path⟩
        connection.requestTimeout]

/-- What handling an event adds to the calls, how it ends, and what it makes of the session. If the
server cannot be told about the event, this is the end of it. Otherwise the focus moves as the
tracker has it, and an effect is carried out; whether the server takes the new main file does not
matter. -/
inductive Contributes (environment : Environment) (session : Session) (event : EditorEvent) :
    List Call → Except Halt Unit → Session → Prop where
  | refused {attempt : List Call} {error : Rpc.TransportError}
      (told : Attempts environment session event attempt (.error error)) :
      Contributes environment session event attempt (.error (.failed (.transport error)))
        (session.logging attempt)
  | moved {attempt : List Call} {focus : FocusState} {effect : Option FocusEffect}
      (told : Attempts environment session event attempt (.ok ()))
      (moves : focusMove environment session.options.primary (session.logging attempt) event =
        (focus, effect)) :
      Contributes environment session event
        (attempt ++ focusCalls session.connection focus effect) (.ok ())
        { session with
          focus := focus
          connection := { session.connection with
            nextId := effect.elim session.connection.nextId fun _ => session.connection.nextId + 1
            trace := session.trace ++ attempt ++ focusCalls session.connection focus effect } }

section One

variable {environment : Environment} {session : Session} {event : EditorEvent}

/-- There is an attempt for every event. -/
theorem exists_attempt (environment : Environment) (session : Session) (event : EditorEvent) :
    ∃ attempt outcome, Attempts environment session event attempt outcome := by
  cases announced : DocumentSync.announcement? session.options.primary event with
  | some notification =>
    exact ⟨_, _, .made (DocumentSync.announcement?_eq_some_iff.mp announced)⟩
  | none =>
    refine ⟨_, _, .unneeded fun notification mirrors => ?_⟩
    rw [DocumentSync.announcement?_eq_some_iff.mpr mirrors] at announced
    cases announced

/-- There is only one attempt for an event. -/
theorem Attempts.unique {attempt other : List Call}
    {outcome different : Except Rpc.TransportError Unit}
    (one : Attempts environment session event attempt outcome)
    (another : Attempts environment session event other different) :
    attempt = other ∧ outcome = different := by
  cases one with
  | unneeded unmirrored =>
    cases another with
    | unneeded _ => exact ⟨rfl, rfl⟩
    | made mirrors => exact absurd mirrors (unmirrored _)
  | made mirrors =>
    cases another with
    | unneeded unmirrored => exact absurd mirrors (unmirrored _)
    | made others =>
      obtain rfl := mirrors.unique others
      exact ⟨rfl, rfl⟩

/-- Telling the server about an event is the attempt, and nothing else. -/
theorem Attempts.run {attempt : List Call} {outcome : Except Rpc.TransportError Unit}
    (attempts : Attempts environment session event attempt outcome) :
    ∃ qualified : Bool,
      (overConnection (DocumentSync.forward environment.peer session.options.primary event)).run
        session =
        ((outcome.map fun _ => qualified).mapError fun error => .failed (.transport error),
          session.logging attempt) := by
  cases attempts with
  | unneeded unmirrored =>
    have unannounced : DocumentSync.announcement? session.options.primary event = none := by
      refine Option.eq_none_iff_forall_not_mem.mpr fun notification announced => ?_
      exact unmirrored notification (DocumentSync.announcement?_eq_some_iff.mp announced)
    refine ⟨false, ?_⟩
    rw [run_forward_none environment unannounced, logging, List.append_nil]
    rfl
  | @made notification mirrors =>
    refine ⟨true, ?_⟩
    simp only [DocumentSync.forward, DocumentSync.announcement?_eq_some_iff.mpr mirrors]
    rw [run_overConnection, run_bind, Connection.run_notify]
    unfold logging trace
    cases environment.peer.notify (session.connection.trace ++ [.notification notification]) with
    | ok done => rfl
    | error error => rfl

/-- An effect announces the path of the new focus. -/
theorem focusMove_main {primary : String} {focus : FocusState} {effect : FocusEffect}
    (moves : focusMove environment primary session event = (focus, some effect)) :
    effect.main = focus.path := by
  cases event with
  | activeChanged active =>
    simp only [focusMove, FocusState.activeChanged] at moves
    split at moves
    · cases moves
    · cases moves
      rfl
  | opened document =>
    simp only [focusMove, FocusState.documentOpened] at moves
    split at moves
    · split at moves
      · cases moves
        rfl
      · cases moves
        rfl
    · cases moves
  | closed document =>
    simp only [focusMove, FocusState.documentClosed] at moves
    split at moves
    · cases moves
      rfl
    · cases moves
  | changed document changes => cases moves

/-- Carrying out an effect that announces the path of the focus. -/
theorem run_applyFocus? {effect : Option FocusEffect}
    (announced : ∀ present, effect = some present → present.main = session.focus.path) :
    (applyFocus? environment effect).run session =
      (.ok (), { session with
        connection := { session.connection with
          nextId := effect.elim session.connection.nextId fun _ => session.connection.nextId + 1
          trace := session.trace ++ focusCalls session.connection session.focus effect } }) := by
  cases effect with
  | none =>
    rw [focusCalls, List.append_nil]
    rfl
  | some effect =>
    rw [applyFocus?, run_applyFocus, announced effect rfl]
    rfl

/-- Handling an event contributes as said. -/
theorem handleEvent_contributes (environment : Environment) (session : Session)
    (event : EditorEvent) :
    ∃ calls, Contributes environment session event calls
      ((handleEvent environment event).run session).1
      ((handleEvent environment event).run session).2 := by
  obtain ⟨attempt, outcome, attempts⟩ := exists_attempt environment session event
  obtain ⟨qualified, forwarded⟩ := attempts.run
  cases outcome with
  | error error =>
    have ended : (handleEvent environment event).run session =
        (.error (.failed (.transport error)), session.logging attempt) := by
      rw [handleEvent_eq, run_get_bind, run_bind_error forwarded]
    rw [ended]
    exact ⟨attempt, .refused attempts⟩
  | ok done =>
    rw [run_handleEvent forwarded]
    cases moves : focusMove environment session.options.primary (session.logging attempt) event with
    | mk focus effect =>
      rw [run_applyFocus?]
      · exact ⟨_, .moved attempts moves⟩
      · rintro effect rfl
        exact focusMove_main moves

variable {calls : List Call} {result : Except Halt Unit} {after : Session}

/-- The calls of an event are added to those before. -/
theorem Contributes.trace (contributes : Contributes environment session event calls result after) :
    after.trace = session.trace ++ calls := by
  cases contributes with
  | refused told => rfl
  | moved told moves => exact List.append_assoc _ _ _

/-- An event contributes in one way only. -/
theorem Contributes.unique {others : List Call} {different : Except Halt Unit} {final : Session}
    (one : Contributes environment session event calls result after)
    (another : Contributes environment session event others different final) :
    calls = others ∧ result = different ∧ after = final := by
  cases one with
  | refused told =>
    cases another with
    | refused same =>
      obtain ⟨rfl, outcome⟩ := told.unique same
      obtain rfl := Except.error.inj outcome
      exact ⟨rfl, rfl, rfl⟩
    | moved same moves => exact absurd (told.unique same).2 nofun
  | moved told moves =>
    cases another with
    | refused same => exact absurd (told.unique same).2 nofun
    | moved same others =>
      obtain ⟨rfl, -⟩ := told.unique same
      obtain ⟨rfl, rfl⟩ := Prod.mk.inj (moves.symm.trans others)
      exact ⟨rfl, rfl, rfl⟩

/-- Handling an event changes nothing but the focus and the connection. -/
theorem Contributes.frame (contributes : Contributes environment session event calls result after) :
    after = { session with focus := after.focus, connection := after.connection } := by
  cases contributes with
  | refused told => rfl
  | moved told moves => rfl

end One

/-- Handle events one after another, each in surroundings of its own. What handling one of them
comes to has no part in whether the next is handled. -/
def handleAll (session : Session) :
    List (Environment × EditorEvent) → List (Except Halt Unit) × Session
  | [] => ([], session)
  | (environment, event) :: events =>
    let (result, after) := (handleEvent environment event).run session
    let (results, final) := handleAll after events
    (result :: results, final)

/-- What events contribute one after another, each to the session that those before it left. -/
inductive Course : Session → List (Environment × EditorEvent) → List (List Call) →
    List (Except Halt Unit) → Session → Prop where
  | nil {session : Session} : Course session [] [] [] session
  | cons {session after final : Session} {environment : Environment} {event : EditorEvent}
      {calls : List Call} {result : Except Halt Unit} {events : List (Environment × EditorEvent)}
      {later : List (List Call)} {results : List (Except Halt Unit)}
      (first : Contributes environment session event calls result after)
      (rest : Course after events later results final) :
      Course session ((environment, event) :: events) (calls :: later) (result :: results) final

/-- Handling events one after another is a course. -/
theorem exists_course (session : Session) (events : List (Environment × EditorEvent)) :
    ∃ log, Course session events log (handleAll session events).1 (handleAll session events).2 := by
  induction events generalizing session with
  | nil => exact ⟨[], .nil⟩
  | cons entry events inductionHypothesis =>
    obtain ⟨environment, event⟩ := entry
    obtain ⟨calls, first⟩ := handleEvent_contributes environment session event
    obtain ⟨log, rest⟩ := inductionHypothesis ((handleEvent environment event).run session).2
    exact ⟨calls :: log, .cons first rest⟩

section All

variable {session final : Session} {events : List (Environment × EditorEvent)}
  {log : List (List Call)} {results : List (Except Halt Unit)}

/-- The calls of all events are those of the single ones in their order. -/
theorem Course.trace (course : Course session events log results final) :
    final.trace = session.trace ++ log.flatten := by
  induction course with
  | nil => exact (List.append_nil _).symm
  | cons first rest inductionHypothesis =>
    rw [inductionHypothesis, first.trace, List.append_assoc, List.flatten_cons]

/-- Events take one course only. -/
theorem Course.unique {others : List (List Call)} {different : List (Except Halt Unit)}
    {last : Session} (one : Course session events log results final)
    (another : Course session events others different last) :
    log = others ∧ results = different ∧ final = last := by
  induction one generalizing others different with
  | nil =>
    cases another
    exact ⟨rfl, rfl, rfl⟩
  | cons first rest inductionHypothesis =>
    cases another with
    | cons same remaining =>
      obtain ⟨rfl, rfl, rfl⟩ := first.unique same
      obtain ⟨rfl, rfl, rfl⟩ := inductionHypothesis remaining
      exact ⟨rfl, rfl, rfl⟩

/-- Nothing but the focus and the connection changes. -/
theorem Course.frame (course : Course session events log results final) :
    final = { session with focus := final.focus, connection := final.connection } := by
  induction course with
  | nil => rfl
  | cons first rest inductionHypothesis => rw [inductionHypothesis, first.frame]

end All

/-- Events of the editor are announced one by one: none is lost, repeated, merged with another or
put in another's place, whichever notifications fail. Each event contributes exactly the
notification that mirrors it, if one does; and if that did not fail, the indicator and the
announcement of the new main file, if the focus tracker has an effect for it. If it failed, that
failure is the result, and the session stays as it was but for the call. The calls are the
contributions in the order of the events, and tasks, lifecycle and all else but focus and connection
stay.

Proof: by the contribution of one event, for any session, and induction along the events. What an
event contributes is determined, so there is no other course. -/
theorem events_are_announced_one_by_one (session : Session)
    (events : List (Environment × EditorEvent)) :
    ∃ log, (∀ calls results final, Course session events calls results final ↔
        calls = log ∧ results = (handleAll session events).1 ∧
          final = (handleAll session events).2) ∧
      (handleAll session events).2.trace = session.trace ++ log.flatten ∧
      (handleAll session events).2.tasks = session.tasks ∧
      (handleAll session events).2.lifecycle = session.lifecycle := by
  obtain ⟨log, course⟩ := exists_course session events
  have frame := course.frame
  refine ⟨log, fun calls results final => ⟨fun other => other.unique course, ?_⟩, course.trace,
    by rw [frame], by rw [frame]⟩
  rintro ⟨rfl, rfl, rfl⟩
  exact course

end Session

end LanguageClient
