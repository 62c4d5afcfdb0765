import LanguageClient.Proofs.MainFile

/-!
# The path by which the server knows a document

A document is known by its URI. The server knows it by a path, which is worked out wherever a path
is needed: when the path of the main file is taken from the document, and when a command concerns
the active document. For a document that was saved all of these agree. For one that was never saved
they do not: its opening makes a path below `/untitled` the main file, while a start and the
commands use the plain one.
-/

namespace LanguageClient

/-- Snapshots of one document have one path. -/
theorem Document.path_congr {document snapshot : Document} (same : snapshot.uri = document.uri) :
    snapshot.path = document.path := by
  rw [path, same, path]

/-- Either all snapshots of a document were saved or none. -/
theorem Document.isUntitled_congr {document snapshot : Document}
    (same : snapshot.uri = document.uri) : snapshot.isUntitled = document.isUntitled := by
  rw [isUntitled, scheme, same, isUntitled, scheme]

/-- The main file of a document that was never saved is not called by its plain path. -/
theorem FocusState.untitledPath_ne_path (document : Document) :
    untitledPath document ≠ document.path := by
  intro same
  have longer := congrArg String.length same
  rw [untitledPath, String.length_append] at longer
  have prefixed : "/untitled/".length = 10 := rfl
  omega

namespace Session

/-- Whether something that happens is a start. -/
def Happening.isStart : Happening → Bool
  | .performed _ .start => true
  | _ => false

/-- The path that is taken from a document. It depends on the route only if the document was never
saved. -/
def mainPath (document : Document) (taking : Happening) : String :=
  if document.isUntitled && !taking.isStart then FocusState.untitledPath document else document.path

/-- A path becomes the main file: it is focused, and at last the indicator is shown and the server
is told. -/
structure SetsMain (path : String) (before after : Session) : Prop where
  focused : after.focus.path = some path
  told : ∃ calls id timeout, after.trace = before.trace ++ calls ++
    [.editor (.setFocusIndicator true),
      .request ⟨id, "workspace/executeCommand", focusMain (some path)⟩ timeout]

section Taking

variable {environment : Environment} {session : Session} {path : String} {focus : FocusState}

/-- A move of the focus to a path makes the path the main file. -/
theorem applyFocus_setsMain (moved : focus.path = some path) (opened : List Document) :
    SetsMain path session
      ((applyFocus environment (focus.effect opened)).run { session with focus := focus }).2 := by
  rw [run_applyFocus]
  refine ⟨moved, [], .number session.connection.nextId, session.connection.requestTimeout, ?_⟩
  rw [List.append_nil]
  simp only [trace, FocusState.effect, moved, Option.isSome_some, Bool.true_or]

/-- Calls that were made before do not matter. -/
theorem SetsMain.of_trace {before between after : Session} {calls : List Call}
    (sets : SetsMain path between after) (earlier : between.trace = before.trace ++ calls) :
    SetsMain path before after := by
  obtain ⟨focused, later, id, timeout, told⟩ := sets
  refine ⟨focused, calls ++ later, id, timeout, ?_⟩
  rw [told, earlier, List.append_assoc before.trace calls later]

/-- Handling an event that is not announced and moves the focus to a path makes the path the main
file. -/
theorem Handles.setsMain {event : EditorEvent} {happening : Happening} {opened : List Document}
    (handles : Handles session environment event happening)
    (unannounced : DocumentSync.announcement? session.options.primary event = none)
    (move : focusMove environment session.options.primary session event =
      (focus, some (focus.effect opened))) (moved : focus.path = some path) :
    SetsMain path session (session.happen happening) := by
  obtain ⟨fetched, fetches, completed⟩ := handles.run
  have options : fetched.options = session.options := by rw [fetches]
  have calls : fetched.trace = session.trace ++ [] := by
    rw [fetches, List.append_nil]
    rfl
  have moves : focusMove environment fetched.options.primary fetched event =
      (focus, some (focus.effect opened)) := by
    rw [options, fetches.focusMove, move]
  rw [← options] at unannounced
  rw [run_handleEvent (run_forward_none environment unannounced fetched), moves] at completed
  have reached : ((applyFocus environment (focus.effect opened)).run
      { fetched with focus := focus }).2 = session.happen happening := congrArg Prod.snd completed
  rw [← reached]
  exact (applyFocus_setsMain moved opened).of_trace calls

/-- A start that succeeds makes the path of the document that it chooses the main file. -/
theorem start_setsMain {document : Document}
    (completed : ((start environment).run session).1 = .ok ())
    (chosen : firstChoice environment ((prepare environment).run session).2 = some document) :
    SetsMain document.path session (session.happen (.performed environment .start)) := by
  let prepared := ((prepare environment).run session).2
  let opened := environment.editor.documents prepared.trace
  let first := prepared.focus.activateDocument (firstChoice environment prepared) opened
  have moved : first.1.path = some document.path := by
    change (firstChoice environment prepared).map Document.path = _
    rw [chosen]
    rfl
  have sets : SetsMain document.path prepared ((focusFirst environment).run prepared).2 :=
    applyFocus_setsMain moved opened
  obtain ⟨calls, earlier, -⟩ := announces_lawful.prepare environment session
  rw [happen_start, start_focusesFirst completed]
  exact sets.of_trace earlier

/-- Whatever route takes the path from a document, the path that it takes becomes the main file. -/
theorem TakesFocus.setsMain {document : Document} {opened : List Document} {taking : Happening}
    (taken : TakesFocus session document opened taking) :
    SetsMain (mainPath document taking) session (session.happen taking) := by
  cases taken with
  | started completed reported chosen =>
    simpa [mainPath, Happening.isStart] using start_setsMain completed chosen
  | @activated environment happening handled reported saved primary =>
    let first := session.focus.activateDocument (some document)
      (environment.editor.documents session.trace)
    have move : focusMove environment session.options.primary session
        (.activeChanged (some document)) = (first.1, some first.2) := by
      simp [focusMove, FocusState.activeChanged, first, saved, primary, Option.filter]
    simpa [mainPath, saved] using handled.setsMain rfl move rfl
  | @opened environment happening handled reported unsaved primary active =>
    let first := session.focus.activatePath (some document)
      (some (FocusState.untitledPath document)) (environment.editor.documents session.trace)
    have move : focusMove environment session.options.primary session (.opened document) =
        (first.1, some first.2) := by
      simp [focusMove, FocusState.documentOpened, first, unsaved, primary, active]
    have later : taking.isStart = false := by
      cases handled <;> rfl
    simpa [mainPath, unsaved, later] using handled.setsMain (opening_unannounced primary) move rfl

/-- Two routes take the same path from a document unless it was never saved and one of them is a
start and the other is not. -/
theorem mainPath_eq_iff {document snapshot : Document} (same : snapshot.uri = document.uri)
    (taking retaking : Happening) :
    mainPath snapshot retaking = mainPath document taking ↔
      document.isUntitled = false ∨ retaking.isStart = taking.isStart := by
  have path := Document.path_congr same
  have untitledPath : FocusState.untitledPath snapshot = FocusState.untitledPath document := by
    rw [FocusState.untitledPath, path, FocusState.untitledPath]
  have different := FocusState.untitledPath_ne_path document
  rw [mainPath, mainPath, Document.isUntitled_congr same, path, untitledPath]
  cases document.isUntitled <;> cases retaking.isStart <;> cases taking.isStart <;>
    simp [different, different.symm]

/-- A route takes the plain path from a document unless the document was never saved and the route
is no start. -/
theorem path_eq_mainPath_iff (document : Document) (taking : Happening) :
    document.path = mainPath document taking ↔
      document.isUntitled = false ∨ taking.isStart = true := by
  have different := FocusState.untitledPath_ne_path document
  rw [mainPath]
  cases document.isUntitled <;> cases taking.isStart <;> simp [different.symm]

end Taking

/-- An operation is a command for the active document: it sends its path, and more arguments after
it. -/
inductive SendsPath : Operation → String → List Json → Prop where
  | exported (format : ExportFormat) (extra : Option Json) :
      SendsPath (.exportActive format extra) format.command extra.toList
  | cleared : SendsPath .clearCache "tinymist.doClearCache" []
  | pinned : SendsPath .pinMain "tinymist.pinMain" []

/-- The request of a command with a path. -/
def pathCall (connection : Connection) (command path : String) (others : List Json) : Call :=
  .request ⟨.number connection.nextId, "workspace/executeCommand",
    .ofFields [("command", .string command), ("arguments", .array (.string path :: others))]⟩
    connection.requestTimeout

section Sending

variable {environment : Environment} {session : Session} {document : Document}

/-- A server command is one request, whatever becomes of the answer. -/
theorem execute_sent (command path : String) (others : List Json) :
    ((execute environment command (.string path :: others)).run session).2.trace =
      session.trace ++ [pathCall session.connection command path others] := by
  rw [execute, overConnection_left, Connection.execute, Connection.request_sent]
  rfl

/-- What is done with the path of the active document. -/
theorem run_activePath_bind {α : Type} (next : String → Action α)
    (active : environment.editor.active session.trace = some document) :
    (activePath environment >>= next).run session = (next document.path).run session := by
  have path : (activePath environment).run session = (.ok document.path, session) := by
    rw [activePath, run_get_bind, active]
    rfl
  exact run_bind_ok path

/-- A command for the active document is one request with the path of the document. -/
theorem SendsPath.sent {operation : Operation} {command : String} {others : List Json}
    (sends : SendsPath operation command others)
    (active : environment.editor.active session.trace = some document) :
    (session.happen (.performed environment operation)).trace =
      session.trace ++ [pathCall session.connection command document.path others] := by
  cases sends with
  | exported format extra =>
    rw [happen, perform, exportActive, bind_assoc, run_get_bind, active]
    simp only [bind_assoc, pure_bind, run_bind_pure]
    exact execute_sent _ _ _
  | cleared =>
    rw [happen, perform, plainly, clearCache, bind_assoc, run_activePath_bind _ active]
    simp only [bind_assoc, pure_bind, run_bind_pure]
    exact execute_sent _ _ _
  | pinned =>
    rw [happen, perform, plainly, pinMain, bind_assoc, run_activePath_bind _ active]
    simp only [bind_assoc, pure_bind, run_bind_pure]
    exact execute_sent _ _ _

end Sending

/-- The server knows a document by one path unless the document was never saved. Two takings of the
path from one document, in any sessions and by any routes, each make the path that they take the
main file. It is the same path exactly if the document was saved, or both or neither of them is a
start. The path stays focused until a main file is announced again. If the document is the active
one by then, a command for it is one request with a path, which is the one that was announced
exactly if the document was saved or the taking was a start. -/
theorem document_has_one_path_unless_unsaved {session later : Session}
    {document snapshot : Document} {opened reported : List Document}
    {taking retaking : Happening} (taken : TakesFocus session document opened taking)
    (retaken : TakesFocus later snapshot reported retaking) (same : snapshot.uri = document.uri) :
    SetsMain (mainPath document taking) session (session.happen taking) ∧
    SetsMain (mainPath snapshot retaking) later (later.happen retaking) ∧
    (mainPath snapshot retaking = mainPath document taking ↔
      document.isUntitled = false ∨ retaking.isStart = taking.isStart) ∧
    ∀ between : List Happening,
      let current := between.foldl happen (session.happen taking)
      announced (session.happen taking) current = false →
      current.focus.path = some (mainPath document taking) ∧
      ∀ environment active operation command others,
        environment.editor.active current.trace = some active → active.uri = document.uri →
        SendsPath operation command others →
        (current.happen (.performed environment operation)).trace =
            current.trace ++ [pathCall current.connection command document.path others] ∧
          (document.path = mainPath document taking ↔
            document.isUntitled = false ∨ taking.isStart = true) := by
  have sets := taken.setsMain
  refine ⟨sets, retaken.setsMain, mainPath_eq_iff same taking retaking, fun between => ?_⟩
  intro current unannounced
  have kept : current.focus = (session.happen taking).focus := focus_stays unannounced
  refine ⟨kept ▸ sets.focused, fun environment active operation command others found one sends =>
    ⟨?_, path_eq_mainPath_iff document taking⟩⟩
  rw [← Document.path_congr one]
  exact sends.sent found

/-- A document of the primary language that was never saved. -/
def draft : Document := ⟨⟨"untitled:Untitled-1", by decide +kernel⟩, "typst", 1, ""⟩

/-- Calm surroundings in which the draft is open and active. -/
def drafting : Environment :=
  { reporting [draft] with
    editor := { (reporting [draft]).editor with active := fun _ => some draft } }

/-- A start makes the draft the main file by one path, and its opening by another. Pinned, it is
sent by the first again. -/
theorem draft_has_two_paths :
    let idle := fresh (.inWorkspace (.fixed "tinymist") "/")
    let begun := idle.happen (.performed drafting .start)
    let mirrored := begun.happen (.performed drafting (.handleEvent (.opened draft)))
    SetsMain "Untitled-1" idle begun ∧ SetsMain "/untitled/Untitled-1" begun mirrored ∧
      (mirrored.happen (.performed drafting .pinMain)).trace = mirrored.trace ++
        [pathCall mirrored.connection "tinymist.pinMain" "Untitled-1" []] := by
  intro idle begun mirrored
  have started : TakesFocus idle draft [draft] (.performed drafting .start) :=
    .started (by decide +kernel) rfl (by decide +kernel)
  have opened : TakesFocus begun draft [draft]
      (.performed drafting (.handleEvent (.opened draft))) :=
    .opened (.directly (by decide +kernel)) rfl (by decide +kernel) (by decide +kernel)
      (by decide +kernel)
  obtain ⟨announcedLast, announcedFirst, -, commands⟩ :=
    document_has_one_path_unless_unsaved opened started rfl
  have quiet (session : Session) : announced session session = false := by simp [announced]
  have sends := commands []
  simp only [List.foldl_nil] at sends
  obtain ⟨pinned, -⟩ := (sends (quiet _)).2 drafting draft .pinMain _ _ rfl rfl .pinned
  have plain : draft.path = "Untitled-1" := by decide +kernel
  rw [plain] at pinned
  exact ⟨announcedFirst, announcedLast, pinned⟩

end Session

end LanguageClient
