import LanguageClient.Proofs.SessionRuns
import Mathlib.Control.Monad.Basic

/-!
# The main file and the document it is taken from

A path is taken from a document together with that document, but a document that the editor does
not report as open is dropped at once, and the path stays. As long as no main file is announced,
nothing that happens to the session moves the focus. Closing the document then clears the path
exactly if the document was reported as open when the path was taken from it; otherwise the main
file stays what it was, and the server is not asked to change it.
-/

namespace LanguageClient

/-- Whether a call shows or hides the indicator of the focus. Every announcement of a main file
does so first. -/
def Call.isFocus : Call → Bool
  | .editor (.setFocusIndicator _) => true
  | _ => false

namespace Session

/-- What the server is asked when a main file is announced. -/
def focusMain (main : Option String) : Json :=
  .ofFields [("command", .string "tinymist.focusMain"), ("arguments", .array [.ofText? main])]

/-- Announcing a main file shows the indicator and makes one request, whose failure is ignored. -/
theorem run_applyFocus (environment : Environment) (effect : FocusEffect) (session : Session) :
    (applyFocus environment effect).run session =
      (.ok (), { session with
        connection := { session.connection with
          nextId := session.connection.nextId + 1
          trace := session.trace ++ [.editor (.setFocusIndicator effect.indicator),
            .request ⟨.number session.connection.nextId, "workspace/executeCommand",
              focusMain effect.main⟩ session.connection.requestTimeout] } }) := by
  let told := { session with
    connection := session.connection.record (.editor (.setFocusIndicator effect.indicator)) }
  let asking := Connection.execute environment.peer "tinymist.focusMain" [.ofText? effect.main]
  have sent : (asking.run told.connection).2 =
      { session.connection with
        nextId := session.connection.nextId + 1
        trace := session.trace ++ [.editor (.setFocusIndicator effect.indicator),
          .request ⟨.number session.connection.nextId, "workspace/executeCommand",
            focusMain effect.main⟩ session.connection.requestTimeout] } := by
    change ((Connection.request environment.peer "workspace/executeCommand"
      (focusMain effect.main) (Json.nullable Json.anyValue)).run told.connection).2 = _
    rw [Connection.request_sent]
    exact congrArg (fun calls => { session.connection with
      nextId := session.connection.nextId + 1, trace := calls })
      (List.append_assoc session.trace [_] [_])
  rw [← sent]
  exact run_ignoring_overConnection asking told

/-- Announcing a move of the focus does not move it. -/
theorem applyFocus?_focus (environment : Environment) (effect : Option FocusEffect)
    (session : Session) :
    ((applyFocus? environment effect).run session).2.focus = session.focus := by
  rw [(applyFocus?_routine environment effect session).1]

/-- Whether a main file was announced between two states. -/
def announced (before after : Session) : Bool :=
  (after.trace.drop before.trace.length).any Call.isFocus

/-- The trace grows, and as long as no main file is announced the focus stays. -/
def Announces (before after : Session) : Prop :=
  ∃ calls, after.trace = before.trace ++ calls ∧
    ((∀ call ∈ calls, call.isFocus = false) → after.focus = before.focus)

instance : IsPreorder Session Announces where
  refl := fun session => ⟨[], (List.append_nil session.trace).symm, fun _ => rfl⟩
  trans := by
    rintro first second third ⟨early, secondTrace, secondFocus⟩ ⟨late, thirdTrace, thirdFocus⟩
    refine ⟨early ++ late, ?_, fun silent => ?_⟩
    · rw [thirdTrace, secondTrace, List.append_assoc]
    · rw [thirdFocus fun call member => silent call (List.mem_append_right _ member)]
      exact secondFocus fun call member => silent call (List.mem_append_left _ member)

/-- Calls alone move no focus. -/
theorem Announces.calls {allowed : Call → Prop} {before after : Session}
    (made : Calls allowed before after) : Announces before after := by
  obtain ⟨frame, calls, trace, -⟩ := made
  exact ⟨calls, trace, fun _ => by rw [frame]⟩

/-- A change of neither the focus nor the calls. -/
theorem Announces.frame {before after : Session} (focus : after.focus = before.focus)
    (connection : after.connection = before.connection) : Announces before after := by
  refine ⟨[], ?_, fun _ => focus⟩
  rw [trace, trace, connection, List.append_nil]

/-- The focus moves only together with an announcement. -/
theorem announces_lawful : Lawful Announces where
  routine := fun _ _ => .calls
  focus := by
    intro environment effect focus session
    rw [run_applyFocus]
    refine ⟨_, rfl, fun silent => ?_⟩
    exact absurd (silent _ List.mem_cons_self) (by simp [Call.isFocus])
  dispose := by
    intro id session
    rw [run_disposeTask]
    exact ⟨_, rfl, fun _ => rfl⟩
  fetches := fun _ _ fetched => .frame (by rw [fetched]) (by rw [fetched])
  arranges := fun _ _ arranged => .frame arranged.focus arranged.connection
  traffic := fun _ _ => .calls
  disposeAll := by
    intro session
    rw [run_disposeTasks]
    exact ⟨_, rfl, fun _ => rfl⟩

/-- Launching a preview moves no focus. -/
theorem launchPreview_announces (environment : Environment) (kind : Preview.Kind) :
    Leads Announces (launchPreview environment kind) := by
  refine announces_lawful.launchPreview environment (fun _ _ => .frame rfl rfl) ?_ ?_ kind
  · refine fun task => .get_bind fun session => ?_
    split
    · exact .frame rfl rfl
    · exact refl_of Announces session
  · intro task started
    have asked : Leads (Calls fun _ => True) (ask environment.editor (.openPreview task started)) :=
      ask_calls environment.editor trivial
    exact asked.mono fun _ _ => .calls

/-- As long as no main file is announced, nothing that happens moves the focus. -/
theorem focus_stays {session : Session} {happenings : List Happening}
    (unannounced : announced session (happenings.foldl happen session) = false) :
    (happenings.foldl happen session).focus = session.focus := by
  obtain ⟨calls, trace, focus⟩ := happenings_obey
    (announces_lawful.happen launchPreview_announces) session happenings
  refine focus fun call member => ?_
  rw [announced, trace, List.drop_left, List.any_eq_false] at unannounced
  exact Bool.eq_false_iff.mpr (unannounced call member)

/-- An event of the editor is handled, and this succeeds: directly, or by a turn of the loop that
takes it from its queue. -/
inductive Handles (session : Session) (environment : Environment) (event : EditorEvent) :
    Happening → Prop where
  | directly (completed : ((handleEvent environment event).run session).1 = .ok ()) :
      Handles session environment event (.performed environment (.handleEvent event))
  | inTurn (taken : (next.run session).1 = .ok (.editor event))
      (completed : ((handleEvent environment event).run (next.run session).2).1 = .ok ()) :
      Handles session environment event (.turned environment)

/-- Either way the event is handled by the same action, with at most a queue changed before. -/
theorem Handles.run {session : Session} {environment : Environment} {event : EditorEvent}
    {happening : Happening} (handles : Handles session environment event happening) :
    ∃ fetched, Fetches session fetched ∧
      (handleEvent environment event).run fetched = (.ok (), session.happen happening) := by
  cases handles with
  | directly completed =>
    refine ⟨session, refl_of Fetches session, ?_⟩
    exact Prod.ext completed (run_bind_pure (handleEvent environment event) _ session).symm
  | inTurn taken completed =>
    let fetched := (next.run session).2
    have found : next.run session = (.ok (.editor event), fetched) := Prod.ext taken rfl
    have outcome : (handleEvent environment event).run fetched =
      (.ok (), ((handleEvent environment event).run fetched).2) := Prod.ext completed rfl
    have attempted := run_attempt (handleEvent environment event) fetched
    rw [outcome] at attempted
    have turned : (turn environment).run session =
        (.ok .proceed, ((handleEvent environment event).run fetched).2) := by
      change (next >>= fun _ => _).run session = _
      rw [run_bind_ok found]
      exact run_bind_ok (run_bind_ok attempted)
    refine ⟨fetched, next_fetches session, ?_⟩
    rw [happen, turned]
    exact outcome

/-- Once an event was announced the focus moves, and the move is announced. -/
theorem run_handleEvent {environment : Environment} {event : EditorEvent} {session told : Session}
    {qualified : Bool}
    (forwarded : (overConnection (DocumentSync.forward environment.peer session.options.primary
      event)).run session = (.ok qualified, told)) :
    (handleEvent environment event).run session =
      (applyFocus? environment (focusMove environment session.options.primary told event).2).run
        { told with focus := (focusMove environment session.options.primary told event).1 } := by
  rw [handleEvent_eq, run_get_bind, run_bind_ok forwarded, run_get_bind, moveFocus, run_set_bind]

/-- An event that is not announced changes nothing before the focus moves. -/
theorem run_forward_none (environment : Environment) {primary : String} {event : EditorEvent}
    (unannounced : DocumentSync.announcement? primary event = none) (session : Session) :
    (overConnection (DocumentSync.forward environment.peer primary event)).run session =
      (.ok false, session) := by
  simp only [DocumentSync.forward, unannounced]
  rfl

/-- Taking an event from its queue has no part in how the focus moves. -/
theorem Fetches.focusMove {session fetched : Session} (fetches : Fetches session fetched)
    (environment : Environment) (primary : String) (event : EditorEvent) :
    focusMove environment primary fetched event = focusMove environment primary session event := by
  rw [fetches]
  cases event <;> rfl

/-- An event that is not announced moves the focus, and does nothing else to it. -/
theorem Handles.focus {session : Session} {environment : Environment} {event : EditorEvent}
    {happening : Happening} (handles : Handles session environment event happening)
    (unannounced : DocumentSync.announcement? session.options.primary event = none) :
    (session.happen happening).focus =
      (focusMove environment session.options.primary session event).1 := by
  obtain ⟨fetched, fetches, completed⟩ := handles.run
  have options : fetched.options = session.options := by rw [fetches]
  rw [← options] at unannounced
  have moved := run_handleEvent (run_forward_none environment unannounced fetched)
  have kept : ((handleEvent environment event).run fetched).2.focus =
      (focusMove environment fetched.options.primary fetched event).1 := by
    rw [moved, applyFocus?_focus]
  rw [completed, options, fetches.focusMove] at kept
  exact kept

/-- A start that succeeds ends with the first evaluation of the focus. -/
theorem start_focusesFirst {environment : Environment} {session : Session}
    (started : ((start environment).run session).1 = .ok ()) :
    ((start environment).run session).2 =
      ((focusFirst environment).run ((prepare environment).run session).2).2 := by
  have outcome : (start environment).run session =
    (.ok (), ((start environment).run session).2) := Prod.ext started rfl
  generalize ((start environment).run session).2 = after at outcome ⊢
  rw [run_start] at outcome
  split at outcome
  · obtain ⟨result, reached, attempted, rest⟩ := of_run_bind_ok outcome
    cases result with
    | ok done =>
      cases rest
      have completed := of_run_attempt_ok attempted
      rw [bringUp_eq] at completed
      obtain ⟨_, prepared, preparation, evaluated⟩ := of_run_bind_ok completed
      rw [preparation, evaluated]
    | error error =>
      obtain ⟨_, _, _, rest⟩ := of_run_bind_ok rest
      obtain ⟨_, _, _, failed⟩ := of_run_bind_ok rest
      cases failed
  · cases outcome

/-- The document that the first evaluation takes the path from. -/
def firstChoice (environment : Environment) (session : Session) : Option Document :=
  ((environment.editor.active session.trace).filter
      (FocusState.isPrimary session.options.primary)).or
    ((environment.editor.visible session.trace).find?
      (FocusState.isPrimary session.options.primary))

/-- The path of the main file is taken from a document while the editor reports some documents as
open: by a start, by its editor becoming active, or by its opening if it was never saved and is
active. -/
inductive TakesFocus (session : Session) (document : Document) (opened : List Document) :
    Happening → Prop where
  | started {environment : Environment}
      (completed : ((start environment).run session).1 = .ok ())
      (reported : environment.editor.documents ((prepare environment).run session).2.trace = opened)
      (chosen : firstChoice environment ((prepare environment).run session).2 = some document) :
      TakesFocus session document opened (.performed environment .start)
  | activated {environment : Environment} {happening : Happening}
      (handled : Handles session environment (.activeChanged (some document)) happening)
      (reported : environment.editor.documents session.trace = opened)
      (saved : document.isUntitled = false)
      (primary : FocusState.isPrimary session.options.primary document = true) :
      TakesFocus session document opened happening
  | opened {environment : Environment} {happening : Happening}
      (handled : Handles session environment (.opened document) happening)
      (reported : environment.editor.documents session.trace = opened)
      (unsaved : document.isUntitled = true)
      (primary : FocusState.isPrimary session.options.primary document = true)
      (active : (environment.editor.active session.trace).any (·.uri == document.uri) = true) :
      TakesFocus session document opened happening

/-- The focus after its first evaluation, if a document is chosen. -/
theorem focusFirst_focus {environment : Environment} {session : Session} {document : Document}
    (chosen : firstChoice environment session = some document) :
    ((focusFirst environment).run session).2.focus =
      ⟨some document.path, (some document).filter
        (·.isAmong (environment.editor.documents session.trace))⟩ := by
  let first := session.focus.initial session.options.primary
    (environment.editor.active session.trace) (environment.editor.visible session.trace)
    (environment.editor.documents session.trace)
  have moved : first.1 = ⟨some document.path, (some document).filter
      (·.isAmong (environment.editor.documents session.trace))⟩ := by
    change (session.focus.activateDocument (firstChoice environment session) _).1 = _
    rw [chosen]
    rfl
  have kept := applyFocus?_focus environment (some first.2) { session with focus := first.1 }
  exact kept.trans moved

/-- The opening of a document of the primary language is not announced. -/
theorem opening_unannounced {primary : String} {document : Document}
    (isPrimary : FocusState.isPrimary primary document = true) :
    DocumentSync.announcement? primary (.opened document) = none := by
  have language : document.language = primary := by
    simpa [FocusState.isPrimary] using isPrimary
  simp [DocumentSync.announcement?, DocumentSync.qualifies, language]

/-- A path that is taken from a document comes with that document if it is open, and without it
otherwise. -/
theorem TakesFocus.focus {session : Session} {document : Document} {opened : List Document}
    {taking : Happening} (taken : TakesFocus session document opened taking) :
    ∃ path, (session.happen taking).focus =
      ⟨some path, (some document).filter (·.isAmong opened)⟩ := by
  cases taken with
  | started completed reported chosen =>
    refine ⟨document.path, ?_⟩
    rw [happen_start, start_focusesFirst completed, focusFirst_focus chosen, reported]
  | activated handled reported saved primary =>
    refine ⟨document.path, ?_⟩
    rw [handled.focus rfl]
    simp [focusMove, FocusState.activeChanged, FocusState.activateDocument,
      FocusState.activatePath, Option.filter, saved, primary, reported]
  | opened handled reported unsaved primary active =>
    refine ⟨FocusState.untitledPath document, ?_⟩
    rw [handled.focus (opening_unannounced primary)]
    simp [focusMove, FocusState.documentOpened, FocusState.activatePath, unsaved, primary, active,
      reported]

/-- The indicator is hidden, and the server is asked to have no main file. -/
def ClearsMain (before after : Trace) : Prop :=
  ∃ calls id timeout, after = before ++ calls ++
    [.editor (.setFocusIndicator false),
      .request ⟨id, "workspace/executeCommand", focusMain none⟩ timeout]

/-- The server is asked nothing, and the indicator is left alone. -/
def LeavesMain : Trace → Trace → Prop :=
  Trace.Grows fun call => call.isFocus = false ∧ ∀ request timeout, call ≠ .request request timeout

/-- Handling the closing of a document announces it if need be, and then clears the focus exactly if
the document is the tracked one. -/
theorem handle_closed {environment : Environment} {document : Document} {session after : Session}
    (handled : (handleEvent environment (.closed document)).run session = (.ok (), after)) :
    if session.focus.document.any (·.uri == document.uri) then
      after.focus = .unfocused ∧ ClearsMain session.trace after.trace
    else after.focus = session.focus ∧ LeavesMain session.trace after.trace := by
  have announces : Leads (Calls fun call => call.isFocus = false ∧
      ∀ request timeout, call ≠ .request request timeout)
      (overConnection (DocumentSync.forward environment.peer session.options.primary
        (.closed document))) :=
    overConnection_calls (Connection.forward_calls environment.peer fun _ _ => ⟨rfl, nofun⟩)
  have completed := handled
  rw [handleEvent_eq, run_get_bind] at completed
  obtain ⟨qualified, told, forwarded, -⟩ := of_run_bind_ok completed
  have announcement := announces session
  rw [forwarded] at announcement
  obtain ⟨frame, grows⟩ : Calls _ session told := announcement
  have focus : told.focus = session.focus := by rw [frame]
  rw [run_handleEvent forwarded] at handled
  simp only [focusMove, FocusState.documentClosed, focus] at handled
  obtain ⟨calls, trace, silent⟩ := grows
  split at handled
  · rw [if_pos ‹_›]
    have cleared := run_applyFocus environment (FocusState.unfocused.effect [])
      { told with focus := .unfocused }
    obtain rfl := congrArg Prod.snd (cleared.symm.trans handled)
    refine ⟨rfl, calls, .number told.connection.nextId, told.connection.requestTimeout, ?_⟩
    rw [← trace]
    rfl
  · rw [if_neg ‹_›]
    obtain rfl := congrArg Prod.snd handled
    exact ⟨rfl, calls, trace, silent⟩

/-- A closed document is left as main file exactly if the editor did not report it as open any more
when the path was taken from it. The path is taken from a document; anything may happen then that
announces no main file; at last the closing of the document is handled. If the document was
reported as open at the taking, the path is gone and the server is told so. Otherwise the focus is
what the taking made it, with a path, and the server is asked nothing.

Proof: without an announcement the focus is still what the taking made it. It holds the document
if that was open, and no document otherwise; the closing is compared with the document it holds. -/
theorem closed_main_is_cleared_iff_open {session : Session} {document : Document}
    {opened : List Document} {taking : Happening}
    (taken : TakesFocus session document opened taking) (between : List Happening)
    (unannounced :
      announced (session.happen taking) (between.foldl happen (session.happen taking)) = false)
    {environment : Environment} {snapshot : Document} (same : snapshot.uri = document.uri)
    {closing : Happening}
    (closed : Handles (between.foldl happen (session.happen taking)) environment
      (.closed snapshot) closing) :
    let current := between.foldl happen (session.happen taking)
    let final := current.happen closing
    ((final.focus.path = none ∧ ClearsMain current.trace final.trace) ↔
      document.isAmong opened = true) ∧
    (document.isAmong opened = false →
      final.focus = (session.happen taking).focus ∧ final.focus.path.isSome = true ∧
        LeavesMain current.trace final.trace) := by
  intro current final
  obtain ⟨path, focus⟩ := taken.focus
  have kept : current.focus = (session.happen taking).focus := focus_stays unannounced
  obtain ⟨fetched, fetches, completed⟩ := closed.run
  have source : fetched.focus = ⟨some path, (some document).filter (·.isAmong opened)⟩ := by
    rw [fetches, ← focus, ← kept]
  have tracked : fetched.focus.document.any (·.uri == snapshot.uri) = document.isAmong opened := by
    rw [source]
    cases reported : document.isAmong opened <;> simp [Option.filter, same, reported]
  have calls : fetched.trace = current.trace := by
    rw [fetches]
    rfl
  have handled := handle_closed completed
  rw [tracked, calls] at handled
  cases reported : document.isAmong opened with
  | true =>
    rw [reported, if_pos rfl] at handled
    obtain ⟨cleared, told⟩ := handled
    exact ⟨iff_of_true ⟨congrArg FocusState.path cleared, told⟩ rfl, nofun⟩
  | false =>
    rw [reported, if_neg Bool.false_ne_true, source, ← focus] at handled
    obtain ⟨stayed, left⟩ := handled
    have remains : final.focus.path = some path := by
      rw [stayed, focus]
    refine ⟨iff_of_false (fun cleared => ?_) Bool.false_ne_true, fun _ => ⟨stayed, ?_, left⟩⟩
    · rw [remains] at cleared
      cases cleared.1
    · rw [remains]
      rfl

/-- Calm surroundings with a server that introduces itself, in which some documents are open. -/
def reporting (opened : List Document) : Environment :=
  { calm with
    peer := { calm.peer with
      request := fun _ =>
        .ok ⟨.number 0, some (.ofFields [("capabilities", .object [])]), none⟩ }
    editor := { calm.editor with documents := fun _ => opened } }

/-- A saved document of the primary language. -/
def letter : Document := ⟨⟨"file:///work/a.typ", by decide +kernel⟩, "typst", 1, ""⟩

/-- A session that was started, and then the editor of the letter became active and the letter was
closed. Both events still wait, while the editor reports what is open by now. -/
def hastyClosing (opened : List Document) : Session :=
  reached (.inWorkspace (.fixed "tinymist") "/")
    [.performed (reporting opened) .start, .emitted (.activeChanged (some letter)),
      .emitted (.closed letter)]

/-- After two turns the closed letter is still the main file if it was gone from the report, and the
server is asked nothing. It is no longer the main file if it was in the report. -/
theorem hastyClosing_leaves_letter :
    let gone := (hastyClosing []).happen (.turned (reporting []))
    let present := (hastyClosing [letter]).happen (.turned (reporting [letter]))
    gone.focus.path = some "/work/a.typ" ∧
      (gone.happen (.turned (reporting []))).focus = gone.focus ∧
      LeavesMain gone.trace (gone.happen (.turned (reporting []))).trace ∧
      (present.happen (.turned (reporting [letter]))).focus.path = none ∧
      ClearsMain present.trace (present.happen (.turned (reporting [letter]))).trace := by
  dsimp only
  have takesGone : TakesFocus (hastyClosing []) letter [] (.turned (reporting [])) :=
    .activated (.inTurn (by decide +kernel) (by decide +kernel)) rfl (by decide +kernel)
      (by decide +kernel)
  have closesGone : Handles ((hastyClosing []).happen (.turned (reporting []))) (reporting [])
      (.closed letter) (.turned (reporting [])) :=
    .inTurn (by decide +kernel) (by decide +kernel)
  have takesPresent :
      TakesFocus (hastyClosing [letter]) letter [letter] (.turned (reporting [letter])) :=
    .activated (.inTurn (by decide +kernel) (by decide +kernel)) rfl (by decide +kernel)
      (by decide +kernel)
  have closesPresent : Handles ((hastyClosing [letter]).happen (.turned (reporting [letter])))
      (reporting [letter]) (.closed letter) (.turned (reporting [letter])) :=
    .inTurn (by decide +kernel) (by decide +kernel)
  have quiet (session : Session) : announced session session = false := by simp [announced]
  have left := closed_main_is_cleared_iff_open takesGone [] (quiet _) rfl closesGone
  have cleared := closed_main_is_cleared_iff_open takesPresent [] (quiet _) rfl closesPresent
  simp only [List.foldl_nil] at left cleared
  have told := cleared.1.mpr (by simp [Document.isAmong])
  exact ⟨by decide +kernel, (left.2 rfl).1, (left.2 rfl).2.2, told⟩

end Session

end LanguageClient
