import LanguageClient.Proofs.Histories
import LanguageClient.Proofs.PreviewAccount
import LanguageClient.Proofs.SessionRuns
import Mathlib.Data.List.Induction

/-!
# Every preview is closed exactly once

A launch draws an identifier, starts the preview on the server, registers a task and opens the
preview in the editor. As long as no identifier is drawn twice, every reached state of every run
accounts for every identifier: one whose launch reached registration is live, or its preview was
closed exactly once; one whose launch did not is neither. Where all tasks are disposed, every
registered preview has been closed exactly once.
-/

namespace LanguageClient

/-- Opening a preview is counted and closes none. -/
theorem Trace.opening_counted (trace : Trace) (task : String) (started : Preview.Started)
    (id : String) :
    closes (trace ++ [.editor (.openPreview task started)]) id = closes trace id ∧
      opens (trace ++ [.editor (.openPreview task started)]) id =
        opens trace id + if task = id then 1 else 0 := by
  constructor
  · simp [closes]
  · simp [opens, opensPreview, List.countP_cons]

namespace Session

/-- Identifiers may be drawn and previews opened. If none was drawn twice, the account stays
balanced, and what was newly opened is live. -/
def Advances (before after : Session) : Prop :=
  (∃ more, after.drawn = before.drawn ++ more) ∧
    (after.drawn.Nodup → Balanced before → Balanced after ∧
      ∀ id, before.trace.opens id ≤ after.trace.opens id ∧
        (after.trace.opens id = before.trace.opens id ∨ id ∈ after.tasks.ids))

/-- What keeps the account advances it. -/
theorem Keeps.advances {before after : Session} (keeps : Keeps before after) :
    Advances before after := by
  refine ⟨⟨[], by rw [keeps.1, List.append_nil]⟩, fun _ balanced => ?_⟩
  obtain ⟨kept, opens⟩ := keeps.2 balanced
  exact ⟨kept, fun id => ⟨Nat.le_of_eq (opens id).symm, .inl (opens id)⟩⟩

/-- What keeps the account may come before what advances it. -/
theorem Keeps.then_advances {before middle after : Session} (keeps : Keeps before middle)
    (advances : Advances middle after) : Advances before after := by
  refine ⟨keeps.1 ▸ advances.1, fun apart balanced => ?_⟩
  obtain ⟨kept, opens⟩ := keeps.2 balanced
  obtain ⟨advanced, grown⟩ := advances.2 apart kept
  exact ⟨advanced, fun id => opens id ▸ grown id⟩

/-- One action keeps the account, and the next advances it. -/
theorem advances_bind {α β : Type} {action : Action α} {next : α → Action β}
    (first : Leads Keeps action) (rest : ∀ value, Leads Advances (next value)) :
    Leads Advances (action >>= next) :=
  .bind_comp first rest Keeps.then_advances Keeps.advances

/-- A task was drawn, and no preview of it was opened yet. -/
structure Reserved (id : String) (session : Session) : Prop where
  balanced : Balanced session
  drawn : id ∈ session.drawn
  unopened : session.trace.opens id = 0

/-- The state after a reserved task was registered and its preview opened. -/
def openedWith (session : Session) (id : String) (started : Preview.Started) : Session :=
  { session with
    tasks := ⟨session.tasks.tasks ++ [(id, .closePreview id)]⟩
    connection := session.connection.record (.editor (.openPreview id started)) }

/-- A reserved task is not live. -/
theorem Reserved.not_live {id : String} {session : Session} (reserved : Reserved id session) :
    id ∉ session.tasks.ids := by
  intro live
  have account := reserved.balanced.balance id
  have counted := List.count_pos_iff.mpr live
  rw [reserved.unopened] at account
  omega

/-- Registering a reserved task and opening its preview keeps the account balanced. -/
theorem Reserved.opened {id : String} {session : Session} (reserved : Reserved id session)
    (started : Preview.Started) : Balanced (session.openedWith id started) := by
  have balanced := reserved.balanced
  have counted (other : String) := Trace.opening_counted session.trace id started other
  have ids : (session.openedWith id started).tasks.ids = session.tasks.ids ++ [id] := by
    simp [openedWith, TaskRegistry.ids]
  have drawn : (session.openedWith id started).drawn = session.drawn := rfl
  have calls : (session.openedWith id started).trace =
      session.trace ++ [.editor (.openPreview id started)] := rfl
  refine ⟨?_, ?_, ?_, ?_, ?_⟩
  · rw [ids, List.nodup_append]
    refine ⟨balanced.apart, by simp, ?_⟩
    rintro live member other last rfl
    exact reserved.not_live (List.mem_singleton.mp last ▸ member)
  · intro entry member
    obtain older | newer := List.mem_append.mp member
    · exact balanced.teardowns entry older
    · rw [List.mem_singleton.mp newer]
  · intro other opened
    rw [calls, (counted other).2] at opened
    by_cases same : id = other
    · exact drawn ▸ same ▸ reserved.drawn
    · rw [if_neg same] at opened
      exact drawn ▸ balanced.drawn other opened
  · intro other
    have once := balanced.once other
    rw [calls, (counted other).2]
    by_cases same : id = other
    · have unopened := reserved.unopened
      rw [same] at unopened
      rw [if_pos same]
      omega
    · rw [if_neg same]
      exact once
  · intro other
    have account := balanced.balance other
    rw [calls, (counted other).1, (counted other).2, ids, List.count_append, List.count_singleton]
    simp only [beq_iff_eq]
    omega

/-- A call to the editor is recorded, and nothing else changes. -/
def Records (call : EditorCall) (before after : Session) : Prop :=
  after = { before with connection := before.connection.record (.editor call) }

/-- Asking the editor records the call, whatever its outcome. -/
theorem ask_records (editor : Editor) (call : EditorCall) :
    Leads (Records call) (ask editor call) := by
  have told : Leads (Records call) (tell call) := .modify fun _ => rfl
  refine told.bind_still fun _ => .bind .get fun session => ?_
  split
  · exact .pure _
  · exact fail_leads _

/-- No identifier is drawn. For a task that was reserved, the account stays balanced, and what was
newly opened is live. -/
def Opens (id : String) (before after : Session) : Prop :=
  after.drawn = before.drawn ∧
    (Reserved id before → Balanced after ∧
      ∀ other, before.trace.opens other ≤ after.trace.opens other ∧
        (after.trace.opens other = before.trace.opens other ∨ other ∈ after.tasks.ids))

/-- What does nothing to previews opens none. -/
theorem Quiet.opens {id : String} {before after : Session} (quiet : Quiet before after) :
    Opens id before after := by
  refine ⟨quiet.drawn, fun reserved => ?_⟩
  obtain ⟨kept, opens⟩ := quiet.keeps.2 reserved.balanced
  exact ⟨kept, fun other => ⟨Nat.le_of_eq (opens other).symm, .inl (opens other)⟩⟩

/-- What does nothing to previews may come before what opens one. -/
theorem Quiet.then_opens {id : String} {before middle after : Session}
    (quiet : Quiet before middle) (opened : Opens id middle after) : Opens id before after := by
  refine ⟨opened.1.trans quiet.drawn, fun reserved => ?_⟩
  obtain ⟨kept, opens⟩ := quiet.keeps.2 reserved.balanced
  have still : Reserved id middle :=
    ⟨kept, quiet.drawn ▸ reserved.drawn, (opens id).trans reserved.unopened⟩
  obtain ⟨balanced, grown⟩ := opened.2 still
  exact ⟨balanced, fun other => opens other ▸ grown other⟩

/-- One action does nothing to previews, and the next opens one. -/
theorem opens_bind {α β : Type} {id : String} {action : Action α} {next : α → Action β}
    (first : Leads Quiet action) (rest : ∀ value, Leads (Opens id) (next value)) :
    Leads (Opens id) (action >>= next) :=
  .bind_comp first rest Quiet.then_opens Quiet.opens

variable (environment : Environment)

/-- Registering a task and opening its preview. -/
theorem register_opens (task : String) (started : Preview.Started) :
    Leads (Opens task) (do
      registerPreview task
      ask environment.editor (.openPreview task started)
      return task : Action String) := by
  intro session
  cases live : session.tasks.contains task with
  | true =>
    have refused : (registerPreview task).run session =
        (.error (.failed (.duplicateTask ⟨task⟩)), session) := by
      rw [registerPreview, run_get_bind, TaskRegistry.register, if_pos live]
      rfl
    rw [run_bind_error refused]
    refine ⟨rfl, fun reserved => ?_⟩
    exact absurd (by simpa [TaskRegistry.contains] using live) reserved.not_live
  | false =>
    let registered := { session with
      tasks := ⟨session.tasks.tasks ++ [(task, EditorCall.closePreview task)]⟩ }
    have admitted : (registerPreview task).run session = (.ok (), registered) := by
      rw [registerPreview, run_get_bind, TaskRegistry.register, if_neg (by simp [live])]
      rfl
    have recorded : ((do
        ask environment.editor (.openPreview task started)
        return task : Action String).run registered).2 = session.openedWith task started :=
      (ask_records environment.editor (.openPreview task started)).bind_pure _ registered
    rw [run_bind_ok admitted, recorded]
    refine ⟨rfl, fun reserved => ⟨reserved.opened started, fun other => ?_⟩⟩
    have counted := (Trace.opening_counted session.trace task started other).2
    change _ ≤ Trace.opens (session.trace ++ _) other ∧
      (Trace.opens (session.trace ++ _) other = _ ∨ _)
    rw [counted]
    refine ⟨Nat.le_add_right _ _, ?_⟩
    by_cases same : task = other
    · exact .inr (by simp [openedWith, TaskRegistry.ids, same])
    · exact .inl (by rw [if_neg same, Nat.add_zero])

/-- A launch advances the account: it draws an identifier, and when that is new, the preview it
opens belongs to a registered task. -/
theorem launchPreview_advances (kind : Preview.Kind) :
    Leads Advances (launchPreview environment kind) := by
  refine advances_bind (keeps_lawful.calls (previewPath_routine environment)) fun path => ?_
  intro session
  let id := environment.draw session.drawn
  let reserving := { session with drawn := session.drawn ++ [id] }
  have rest : Leads (Opens id) (do
      let session ← get
      let started ← startPreview environment
        ⟨id, path, kind, session.settings.preview.refresh, session.settings.colorTheme⟩
      registerPreview id
      ask environment.editor (.openPreview id started)
      return id : Action String) :=
    opens_bind .get fun _ => opens_bind (quiet_of_routine (startPreview_routine environment _))
      fun started => register_opens environment id started
  have opened := rest reserving
  refine ⟨⟨[id], opened.1⟩, fun apart balanced => ?_⟩
  have unopened : session.trace.opens id = 0 := by
    have apart : reserving.drawn.Nodup := by
      rw [← opened.1]
      exact apart
    refine Nat.eq_zero_of_not_pos fun positive => ?_
    exact (List.nodup_append.mp apart).2.2 id (balanced.drawn id positive) id (by simp) rfl
  have reserved : Reserved id reserving := by
    refine ⟨⟨balanced.apart, balanced.teardowns, ?_, balanced.once, balanced.balance⟩, ?_, unopened⟩
    · exact fun other positive => List.mem_append_left _ (balanced.drawn other positive)
    · exact List.mem_append_right _ (List.mem_singleton_self id)
  exact opened.2 reserved

/-- Every operation advances the account. -/
theorem perform_advances (operation : Operation) :
    Leads Advances (perform environment operation) := by
  have unlaunched {action : Action Yield} (keeps : Leads Keeps action) : Leads Advances action :=
    keeps.mono fun _ _ => Keeps.advances
  have lensed (tag : String) : Leads Advances (runCodeLensTag environment tag) :=
    runCodeLensTag_leads environment (fun calls => (Quiet.routine calls).keeps.advances)
      (launchPreview_advances environment)
      (fun calls advances => (Quiet.routine calls).keeps.then_advances advances) tag
  cases operation with
  | launchPreview kind => exact (launchPreview_advances environment kind).bind_pure _
  | codeLens tag => exact (lensed tag).bind_pure _
  | _ => exact unlaunched (keeps_lawful.perform environment _ nofun nofun)

/-- Everything that happens advances the account. -/
theorem happen_advances (session : Session) (happening : Happening) :
    Advances session (session.happen happening) := by
  cases happening with
  | performed environment operation => exact perform_advances environment operation session
  | turned environment => exact (keeps_lawful.turn environment session).advances
  | emitted event => exact Keeps.advances (Quiet.keeps (.frame rfl rfl rfl))
  | arrived event => exact Keeps.advances (Quiet.keeps (.frame rfl rfl rfl))
  | sourceClosed => exact Keeps.advances (Quiet.keeps (.frame rfl rfl rfl))
  | arrivalsClosed => exact Keeps.advances (Quiet.keeps (.frame rfl rfl rfl))

/-- A launch of the task reached registration: something happened that made it live. -/
def Registered (options : Options) (happenings : List Happening) (id : String) : Prop :=
  Occurred (fun before happening => id ∉ (reached options before).tasks.ids ∧
    id ∈ (reached options (before ++ [happening])).tasks.ids) happenings

/-- Nothing was opened before anything happened. -/
theorem fresh_balanced (options : Options) : Balanced (fresh options) where
  apart := List.nodup_nil
  teardowns := fun _ member => absurd member List.not_mem_nil
  drawn := fun _ opened => absurd opened (Nat.lt_irrefl 0)
  once := fun _ => Nat.zero_le 1
  balance := fun _ => rfl

/-- A live task had its preview opened. -/
theorem Balanced.opened_of_live {session : Session} (balanced : Balanced session) {id : String}
    (live : id ∈ session.tasks.ids) : 0 < session.trace.opens id := by
  have counted := List.count_pos_iff.mpr live
  have account := balanced.balance id
  omega

/-- In every reached state the account is balanced, and the tasks that were registered are those
whose previews were opened. -/
theorem reached_account {options : Options} {happenings : List Happening}
    (apart : (reached options happenings).drawn.Nodup) :
    Balanced (reached options happenings) ∧
      ∀ id, Registered options happenings id ↔ 0 < (reached options happenings).trace.opens id := by
  induction happenings using List.reverseRecOn with
  | nil =>
    refine ⟨fresh_balanced options, fun id => ⟨?_, fun opened => absurd opened (Nat.lt_irrefl 0)⟩⟩
    rintro ⟨before, happening, after, split, -⟩
    simp at split
  | append_singleton happenings happening inductionHypothesis =>
    obtain ⟨⟨more, grown⟩, advanced⟩ := happen_advances (reached options happenings) happening
    rw [← reached_snoc] at grown advanced
    have earlier : (reached options happenings).drawn.Nodup :=
      (List.nodup_append.mp (grown ▸ apart)).1
    obtain ⟨balancedBefore, openedBefore⟩ := inductionHypothesis earlier
    obtain ⟨balanced, opens⟩ := advanced apart balancedBefore
    refine ⟨balanced, fun id => occurred_snoc.trans ⟨?_, ?_⟩⟩
    · rintro (older | ⟨-, live⟩)
      · exact Nat.lt_of_lt_of_le ((openedBefore id).mp older) (opens id).1
      · exact balanced.opened_of_live live
    · intro opened
      obtain same | live := (opens id).2
      · exact .inl ((openedBefore id).mpr (same ▸ opened))
      · by_cases before : id ∈ (reached options happenings).tasks.ids
        · exact .inl ((openedBefore id).mpr (balancedBefore.opened_of_live before))
        · exact .inr ⟨before, live⟩

/-- An operation that ends the session's work: a stop that finds it running, a loop that stops it,
and a start that finds it idle and fails. -/
inductive Ends (environment : Environment) (session : Session) : Operation → Prop where
  | stopped (running : session.isRunning = true) : Ends environment session .stop
  | exhausted (running : session.isRunning = true)
      (idled : ((perform environment .run).run session).2.isRunning = false) :
      Ends environment session .run
  | failed (idle : session.lifecycle = .idle) {halt : Halt}
      (failure : ((perform environment .start).run session).1 = .error halt) :
      Ends environment session .start

/-- After an operation that ends the session's work no task is live. -/
theorem Ends.emptied {environment : Environment} {session : Session} {operation : Operation}
    (ends : Ends environment session operation) :
    ((perform environment operation).run session).2.tasks = .empty := by
  cases ends with
  | stopped running =>
    exact (stop_shuts environment).bind_pure (fun _ => Yield.done) session running
  | exhausted running idled =>
    have winds : Leads Winds (perform environment .run) := by
      have looped : Leads Winds (run environment) := fun session =>
        turns_winds environment (session.waiting + 1) session
      refine looped.bind_still fun loopEnd => ?_
      cases loopEnd with
      | stopped => exact .pure _
      | pending => exact .pure _
    exact (winds session running).resolve_left (by simp [idled])
  | failed idle failure =>
    cases outcome : (start environment).run session with
    | mk result after =>
      cases result with
      | ok done =>
        have completed : (perform environment .start).run session = (.ok .done, after) :=
          run_bind_ok outcome
        simp [completed] at failure
      | error cause =>
        have broken : (perform environment .start).run session = (.error cause, after) :=
          run_bind_error outcome
        rw [broken]
        exact start_emptied environment idle outcome

/-- Every preview is closed exactly once, whatever the server, the transport and the editor do, as
long as no identifier is drawn twice. In every reached state, a task whose launch reached
registration is either live or closed once, and a task whose launch did not is neither; the
registered tasks are those whose previews were opened. After an operation that ends the session's
work no task is live, so every registered preview has been closed exactly once.

Proof: the account is balanced before anything happens, and everything that happens advances it.
Ending the work disposes all tasks, and nothing that follows registers one. -/
theorem previews_close_exactly_once (options : Options) (happenings : List Happening)
    (apart : (reached options happenings).drawn.Nodup) :
    (∀ id,
      (Registered options happenings id →
        (reached options happenings).trace.closes id +
          (if (reached options happenings).tasks.contains id then 1 else 0) = 1) ∧
      (¬ Registered options happenings id →
        (reached options happenings).trace.closes id +
          (if (reached options happenings).tasks.contains id then 1 else 0) = 0) ∧
      (Registered options happenings id ↔ 0 < (reached options happenings).trace.opens id)) ∧
    (∀ before environment operation, happenings = before ++ [.performed environment operation] →
      Ends environment (reached options before) operation →
      (reached options happenings).tasks.ids = [] ∧
      ∀ id, Registered options happenings id →
        (reached options happenings).trace.closes id = 1) := by
  obtain ⟨balanced, registered⟩ := reached_account apart
  have account (id : String) : (reached options happenings).trace.closes id +
      (if (reached options happenings).tasks.contains id then 1 else 0) =
        (reached options happenings).trace.opens id := by
    have counted : (reached options happenings).tasks.ids.count id = _ := balanced.apart.count
    have balance := balanced.balance id
    simp only [TaskRegistry.contains, List.contains_iff_mem] at *
    omega
  have once (id : String) (mine : Registered options happenings id) :
      (reached options happenings).trace.opens id = 1 :=
    Nat.le_antisymm (balanced.once id) ((registered id).mp mine)
  refine ⟨fun id => ⟨?_, ?_, registered id⟩, ?_⟩
  · exact fun mine => (account id).trans (once id mine)
  · exact fun none => (account id).trans (Nat.eq_zero_of_not_pos fun opened =>
      none ((registered id).mpr opened))
  · rintro before environment operation rfl ends
    have emptied : (reached options (before ++ [.performed environment operation])).tasks =
        .empty := by
      rw [reached_snoc]
      exact ends.emptied
    refine ⟨by rw [emptied]; rfl, fun id mine => ?_⟩
    have balance := balanced.balance id
    rw [emptied, once id mine] at balance
    exact balance

/-- Calm surroundings, but the server cannot be listened to. -/
def halfDeaf : Environment :=
  { calm with peer := { calm.peer with listen := fun _ => .error .notStarted } }

/-- Two previews are launched before the session is started, one of them is disposed, and then the
start fails. -/
def failedEvening : List Happening :=
  ([.activatePath none (some "/main.typ"), .launchPreview .webview, .launchPreview .browser,
    .disposeTask "preview-0", .start] : List Operation).map (.performed halfDeaf)

/-- Both previews of the failed evening have been closed exactly once. -/
theorem failedEvening_closes_both :
    let options := Options.inWorkspace (.fixed "tinymist") "/"
    (reached options failedEvening).drawn.Nodup ∧
    Registered options failedEvening "preview-0" ∧ Registered options failedEvening "preview-1" ∧
    (reached options failedEvening).tasks.ids = [] ∧
    (reached options failedEvening).trace.closes "preview-0" = 1 ∧
    (reached options failedEvening).trace.closes "preview-1" = 1 := by
  intro options
  have apart : (reached options failedEvening).drawn.Nodup := by decide +kernel
  obtain ⟨accounts, ending⟩ := previews_close_exactly_once options failedEvening apart
  have first : Registered options failedEvening "preview-0" :=
    (accounts "preview-0").2.2.mpr (by decide +kernel)
  have second : Registered options failedEvening "preview-1" :=
    (accounts "preview-1").2.2.mpr (by decide +kernel)
  have idle : (reached options (failedEvening.take 4)).lifecycle = .idle := by decide +kernel
  have failure : ((perform halfDeaf .start).run (reached options (failedEvening.take 4))).1 =
      .error (.failed (.transport .notStarted)) := by decide +kernel
  obtain ⟨emptied, closed⟩ := ending (failedEvening.take 4) halfDeaf .start rfl
    (.failed idle failure)
  exact ⟨apart, first, second, emptied, closed _ first, closed _ second⟩

end Session

end LanguageClient
