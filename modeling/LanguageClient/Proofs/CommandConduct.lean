import LanguageClient.Proofs.CommandParts

/-!
# The conduct of commands

Every command of the user consists of a preparation, a contact and a finish, in which one or the
other may be missing. So a command contacts the server at most once, and not after the user has
dismissed a question; when it fails for want of a document, by a cancellation or for an unknown tag,
the server knows nothing of it; and when the transport fails, no task was touched.
-/

namespace LanguageClient.Session

variable {α β : Type} (environment : Environment)

section Contact

/-- A request over the connection. -/
theorem request_contacts (method : String) (params : Json) (decode : Json.Decoder α) :
    Contacts (overConnection (Connection.request environment.peer method params decode)) := by
  intro session
  have asked := Connection.run_request environment.peer method params decode session.connection
  refine ⟨⟨.number session.connection.nextId, method, params⟩, session.connection.requestTimeout,
    ?_, ?_⟩
  · rw [overConnection_left, asked]
    exact .one rfl
  · intro halt failed
    rw [run_overConnection, asked] at failed
    split at failed
    · cases failed
    · exact ⟨_, (Except.error.inj failed).symm⟩

/-- A server command. -/
theorem execute_contacts (command : String) (arguments : List Json) :
    Contacts (execute environment command arguments) :=
  request_contacts environment _ _ _

/-- Starting a preview on the server. An answer that cannot be read is a failure of the
transport. -/
theorem startPreview_contacts (launch : Preview.Launch) :
    Contacts (startPreview environment launch) := by
  intro session
  have asked := run_startPreview environment launch session
  have sent : Proceeds session ((startPreview environment launch).run session).2
      [launchCall session.connection launch] := by
    rw [asked]
    exact .one rfl
  refine ⟨_, _, sent, fun halt failed => ?_⟩
  rw [asked] at failed
  cases answer : startedAnswer environment
      (session.trace ++ [launchCall session.connection launch]) with
  | ok started =>
    rw [answer] at failed
    cases failed
  | error cause =>
    rw [answer] at failed
    exact ⟨cause, (Except.error.inj failed).symm⟩

end Contact

section Preparation

/-- Looking for something to preview. -/
theorem previewPath_prepares : Prepares environment (fun _ => true) (previewPath environment) := by
  intro session
  rw [run_previewPath]
  refine ⟨[], ?_⟩
  cases previewTarget? environment session with
  | some path => exact ⟨.still session, rfl, rfl⟩
  | none => exact ⟨.still session, rfl, _, rfl, rfl⟩

/-- Looking for the active document. -/
theorem activePath_prepares : Prepares environment (fun _ => true) (activePath environment) := by
  intro session
  rw [activePath, run_get_bind]
  refine ⟨[], ?_⟩
  cases environment.editor.active session.trace with
  | some document => exact ⟨.still session, rfl, rfl⟩
  | none => exact ⟨.still session, rfl, _, rfl, rfl⟩

/-- Drawing an identifier. -/
theorem drawTask_prepares : Prepares environment (fun _ => true) (drawTask environment) :=
  fun _ => ⟨[], ⟨(List.append_nil _).symm, rfl, rfl⟩, rfl, rfl⟩

/-- What becomes of a question: it is cancelled without an answer. -/
theorem run_prompt (call : EditorCall) (answer : Trace → Option α) (session : Session) :
    (prompt call answer).run session =
      (match answer (session.trace ++ [.editor call]) with
        | some value => .ok value
        | none => .error (.failed .cancelled),
        { session with connection := session.connection.record (.editor call) }) := by
  let told := { session with connection := session.connection.record (.editor call) }
  have tells : (tell call).run session = (.ok (), told) := rfl
  have recorded : told.trace = session.trace ++ [.editor call] := rfl
  rw [prompt, run_bind_ok tells, run_get_bind, recorded]
  cases answer (session.trace ++ [.editor call]) with
  | some value => rfl
  | none => rfl

/-- A question without which the command cannot go on. -/
theorem prompt_prepares {call : EditorCall} {answer : Trace → Option α}
    (question : ∀ trace,
      environment.editor.dismissed trace (.editor call) = (answer trace).isNone) :
    Prepares environment (fun _ => true) (prompt call answer) := by
  intro session
  have asked := question (session.trace ++ [.editor call])
  rw [run_prompt]
  refine ⟨[.editor call], .one rfl, rfl, ?_⟩
  cases given : answer (session.trace ++ [.editor call]) with
  | some value =>
    rw [given] at asked
    simpa [Editor.dismissedAmong] using asked
  | none => exact ⟨_, rfl, rfl⟩

/-- What becomes of a menu: there is no choice if it is dismissed, and it is cancelled by a choice
that it does not offer. -/
theorem run_choose (title : String) (label : α → String) (choices : List α) (session : Session) :
    let call := EditorCall.pick title (choices.map label)
    (choose environment title label choices).run session =
      (match environment.editor.picked (session.trace ++ [.editor call]) with
        | none => .ok none
        | some index =>
          match choices[index]? with
          | some choice => .ok (some choice)
          | none => .error (.failed .cancelled),
        { session with connection := session.connection.record (.editor call) }) := by
  intro call
  let told := { session with connection := session.connection.record (.editor call) }
  have tells : (tell call).run session = (.ok (), told) := rfl
  have recorded : told.trace = session.trace ++ [.editor call] := rfl
  rw [choose, run_bind_ok tells, run_get_bind, recorded]
  cases environment.editor.picked (session.trace ++ [.editor call]) with
  | none => rfl
  | some index =>
    dsimp only
    cases choices[index]? with
    | some choice => rfl
    | none => rfl

/-- A menu. A command goes on with everything that the menu offers, and not without a choice. -/
theorem choose_prepares (title : String) (label : α → String) {choices : List α}
    {proceeds : Option α → Bool} (offered : ∀ choice ∈ choices, proceeds (some choice) = true)
    (undecided : proceeds none = false) :
    Prepares environment proceeds (choose environment title label choices) := by
  intro session
  let call := EditorCall.pick title (choices.map label)
  have asked : environment.editor.dismissedAmong session.trace [.editor call] =
      (environment.editor.picked (session.trace ++ [.editor call])).isNone := by
    simp [Editor.dismissedAmong, Editor.dismissed, call]
  rw [run_choose]
  refine ⟨[.editor call], .one rfl, rfl, ?_⟩
  rw [asked]
  cases environment.editor.picked (session.trace ++ [.editor call]) with
  | none =>
    dsimp only
    rw [undecided]
    rfl
  | some index =>
    dsimp only
    cases chosen : choices[index]? with
    | some choice =>
      dsimp only
      rw [offered choice (List.mem_of_getElem? chosen)]
      rfl
    | none => exact ⟨_, rfl, rfl⟩

end Preparation

section Commands

/-- A command that needs the active document and yields nothing. -/
theorem onActive_conducts (command : String) (arguments : String → List Json) :
    Conducts environment (do
      let path ← activePath environment
      let _ ← execute environment command (arguments path)
      return : Action Unit) :=
  (activePath_prepares environment).bind_all fun _ =>
    (execute_contacts environment _ _).conducts.bind fun _ => .pure _

theorem exportActive_conducts (format : ExportFormat) (extra : Option Json) :
    Conducts environment (exportActive environment format extra) := by
  intro session tidy
  rw [exportActive, run_get_bind]
  cases active : environment.editor.active session.trace with
  | none => exact Conducts.inactive none tidy active
  | some document =>
    exact ((execute_contacts environment _ _).conducts.bind fun _ => .pure _) session tidy

theorem showExported_conducts (format : ExportFormat) :
    Conducts environment (showExported environment format) := by
  refine (exportActive_conducts environment format none).bind fun exported => ?_
  cases exported with
  | some path => exact (Finishes.ask environment.editor rfl).bind fun _ => .pure _
  | none => exact (Finishes.tell rfl).bind fun _ => .pure _

theorem instantiateTemplate_conducts (mode : TemplateMode) :
    Conducts environment (instantiateTemplate environment mode) := by
  refine (prompt_prepares environment fun _ => rfl).bind_all fun template => ?_
  cases mode with
  | newLocation =>
    refine (prompt_prepares environment fun _ => rfl).bind_all fun folder => ?_
    refine (execute_contacts environment _ _).conducts.bind fun answer => ?_
    dsimp only
    split
    · exact .ask environment.editor rfl
    · exact .ask environment.editor rfl
  | inPlace =>
    refine (execute_contacts environment _ _).conducts.bind fun answer => ?_
    split
    · exact .ask environment.editor rfl
    · exact .tell rfl

theorem killPreview_conducts (task : String) :
    Conducts environment (killPreview environment task) :=
  (execute_contacts environment _ _).conducts.bind fun _ =>
    (Finishes.disposeTask task).bind fun _ => .pure _

theorem launchPreview_conducts (kind : Preview.Kind) :
    Conducts environment (launchPreview environment kind) := by
  refine (previewPath_prepares environment).bind_all fun path => ?_
  refine (drawTask_prepares environment).bind_all fun task => ?_
  intro session
  rw [run_get_bind]
  refine ((startPreview_contacts environment _).conducts.bind fun started => ?_) session
  exact (Finishes.registerPreview task).bind fun _ =>
    (Finishes.ask environment.editor rfl).bind fun _ => .pure _

theorem runCodeLens_conducts {lens : CodeLens} (offered : lens ≠ .more) :
    Conducts environment (runCodeLens environment lens) := by
  cases lens with
  | preview => exact (launchPreview_conducts environment .webview).bind fun _ => .pure _
  | previewInBrowser => exact (launchPreview_conducts environment .browser).bind fun _ => .pure _
  | exportPdf => exact (showExported_conducts environment .pdf).bind fun _ => .pure _
  | exportAs =>
    have menu : Prepares environment Option.isSome
        (choose environment "Export as" ExportFormat.name ExportFormat.all) :=
      choose_prepares environment _ _ (fun _ _ => rfl) rfl
    refine menu.bind ?_ ?_
    · intro chosen proceeds
      cases chosen with
      | none => cases proceeds
      | some format => exact (showExported_conducts environment format).bind fun _ => .pure _
    · intro chosen stops
      cases chosen with
      | none => exact fun _ => rfl
      | some format => cases stops
  | more => exact absurd rfl offered

/-- The menu of further actions does not offer itself, so whatever is chosen leads to the server. -/
theorem runCodeLensTag_conducts (tag : String) :
    Conducts environment (runCodeLensTag environment tag) := by
  unfold runCodeLensTag
  split
  · exact .fail rfl
  · have menu : Prepares environment (fun chosen => chosen.isSome && chosen != some .more)
        (choose environment "More actions" CodeLens.label CodeLens.offered) :=
      choose_prepares environment _ _ (by decide) rfl
    refine menu.bind ?_ ?_
    · intro chosen proceeds
      cases chosen with
      | none => cases proceeds
      | some action =>
        refine runCodeLens_conducts environment ?_
        rintro rfl
        cases proceeds
    · intro chosen stops
      cases chosen with
      | none => exact fun _ => rfl
      | some action =>
        obtain rfl : action = .more := by simpa using stops
        exact fun _ => rfl
  · rename_i action unlike found
    exact runCodeLens_conducts environment fun same => unlike same

end Commands

/-- Whether an operation is a command of the user. -/
def Operation.isCommand : Operation → Bool
  | .exportActive _ _ | .showExported _ | .clearCache | .pinMain | .unpinMain
  | .instantiateTemplate _ | .startPreview _ | .killPreview _ | .scrollPreview _ _
  | .launchPreview _ | .onEnter _ _ | .codeLens _ => true
  | .start | .stop | .run | .handleEvent _ | .handleMessage _ | .activatePath _ _
  | .disposeTask _ => false

/-- Whether the settings switch an operation off, as they can for the enter key. -/
def Operation.isSwitchedOff (session : Session) : Operation → Bool
  | .onEnter _ _ => !session.settings.onEnterEvent
  | _ => false

/-- A command that is switched off does nothing and yields nothing. -/
theorem run_switchedOff {session : Session} {command : Operation}
    (off : command.isSwitchedOff session = true) :
    (perform environment command).run session = (.ok (.edits none), session) := by
  cases command with
  | onEnter uri position =>
    have disabled : session.settings.onEnterEvent = false := by
      simpa [Operation.isSwitchedOff] using off
    have skipped : (onEnter environment uri position).run session = (.ok none, session) := by
      rw [onEnter, run_get_bind, disabled]
      rfl
    exact run_bind_ok skipped
  | _ => cases off

/-- Every command that is not switched off goes like this. -/
theorem command_conduct {session : Session} (tidy : Tidy session) {command : Operation}
    (isCommand : command.isCommand = true) (on : command.isSwitchedOff session = false) :
    ∃ calls, Conduct environment session ((perform environment command).run session) calls := by
  have reading {γ : Type} {action : Action γ} (conducts : Conducts environment action)
      (yields : γ → Yield) : Conducts environment (action >>= fun value => pure (yields value)) :=
    conducts.bind fun _ => .pure _
  cases command with
  | exportActive format extra =>
    exact reading (exportActive_conducts environment format extra) _ session tidy
  | showExported format => exact reading (showExported_conducts environment format) _ session tidy
  | clearCache => exact reading (onActive_conducts environment _ _) _ session tidy
  | pinMain => exact reading (onActive_conducts environment _ _) _ session tidy
  | unpinMain =>
    exact reading ((execute_contacts environment _ _).conducts.bind fun _ => .pure _) _ session tidy
  | instantiateTemplate mode =>
    exact reading (instantiateTemplate_conducts environment mode) _ session tidy
  | startPreview launch =>
    exact reading (startPreview_contacts environment launch).conducts _ session tidy
  | killPreview task => exact reading (killPreview_conducts environment task) _ session tidy
  | scrollPreview task scroll =>
    exact reading ((execute_contacts environment _ _).conducts.bind fun _ => .pure _) _ session tidy
  | launchPreview kind => exact reading (launchPreview_conducts environment kind) _ session tidy
  | onEnter uri position =>
    have enabled : session.settings.onEnterEvent = true := by
      simpa [Operation.isSwitchedOff] using on
    have asks : (onEnter environment uri position).run session =
        (overConnection (Connection.request environment.peer "experimental/onEnter"
          (enterParams uri position) (Json.nullable (Json.list TextEdit.decode)))).run session := by
      rw [onEnter, run_get_bind, enabled]
      rfl
    have read := reading (request_contacts environment "experimental/onEnter"
      (enterParams uri position) (Json.nullable (Json.list TextEdit.decode))).conducts .edits
      session tidy
    rw [run_bind, ← asks, ← run_bind] at read
    exact read
  | codeLens tag => exact reading (runCodeLensTag_conducts environment tag) _ session tidy
  | _ => cases isCommand

/-- Commands contact the server at most once and fail cleanly. In every session that can be reached
and whatever the editor, the user and the server do, a command makes at most one request and sends
no other message. It sends none if it fails for an early cause or if a question is dismissed, and a
command that is switched off does nothing at all. Lifecycle, focus, settings and subscriptions stay
in every outcome, and the live tasks stay if the transport fails. Conversely, a command that sends
nothing has one of these excuses, or there is no active document to export.

Proof: a command prepares, contacts the server and finishes. Questions are put in the preparation
only, tasks are touched in the finish only, and each part has its own causes to fail. -/
theorem command_contacts_server_at_most_once (options : Options) (happenings : List Happening)
    {command : Operation} (isCommand : command.isCommand = true) :
    let session := reached options happenings
    let outcome := (perform environment command).run session
    ∃ calls, Courteous environment session outcome calls ∧
      (command.isSwitchedOff session = true →
        calls = [] ∧ outcome = (.ok (.edits none), session)) ∧
      (Trace.messages calls = [] →
        Excused environment session outcome.1 calls ∨ command.isSwitchedOff session = true) := by
  intro session outcome
  cases switch : command.isSwitchedOff session with
  | false =>
    obtain ⟨calls, conduct⟩ :=
      command_conduct environment (reached_tidy options happenings) isCommand switch
    exact ⟨calls, conduct.toCourteous, nofun, fun silent => .inl (conduct.excused silent)⟩
  | true =>
    have skipped : outcome = (.ok (.edits none), session) := run_switchedOff environment switch
    rw [skipped]
    refine ⟨[], ⟨(List.append_nil _).symm, .inl rfl, nofun, nofun, rfl, nofun⟩, fun _ => ⟨rfl, rfl⟩,
      fun _ => .inr rfl⟩

/-- Calm surroundings in which a letter is active. The user asks for more actions and for an export,
and then answers the second menu. -/
def menus (format : Option Nat) : Environment :=
  { calm with
    editor := { calm.editor with
      active := fun _ => some letter
      picked := fun trace => if trace.length = 1 then some 3 else format } }

/-- Behind two menus there is one request, and none if the second menu is dismissed. -/
theorem menus_lead_to_one_request :
    let session := reached (.inWorkspace (.fixed "tinymist") "/") []
    let outcome (format : Option Nat) :=
      (perform (menus format) (.codeLens "more")).run session
    (∃ calls, Courteous (menus none) session (outcome none) calls ∧
      calls.length = 2 ∧ Trace.messages calls = []) ∧
    ∃ calls, Courteous (menus (some 0)) session (outcome (some 0)) calls ∧
      calls.length = 4 ∧ (Trace.messages calls).length = 1 := by
  intro session outcome
  obtain ⟨asked, gone, -, -⟩ := command_contacts_server_at_most_once (menus none)
    (.inWorkspace (.fixed "tinymist") "/") [] (rfl : Operation.isCommand (.codeLens "more") = true)
  obtain ⟨calls, chosen, -, -⟩ := command_contacts_server_at_most_once (menus (some 0))
    (.inWorkspace (.fixed "tinymist") "/") [] (rfl : Operation.isCommand (.codeLens "more") = true)
  have askedTrace : (outcome none).2.trace = asked := gone.trace
  have chosenTrace : (outcome (some 0)).2.trace = calls := chosen.trace
  refine ⟨⟨asked, gone, ?_, gone.dismissed ?_⟩, calls, chosen, ?_, ?_⟩
  · rw [← askedTrace]
    decide +kernel
  · rw [← askedTrace]
    decide +kernel
  · rw [← chosenTrace]
    decide +kernel
  · rw [← chosenTrace]
    decide +kernel

end LanguageClient.Session
