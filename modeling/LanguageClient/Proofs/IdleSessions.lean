import LanguageClient.Proofs.PreviewLaunch
import LanguageClient.Proofs.SessionLifecycle

/-!
# Sessions that were not started

A session can be used before it is started: the focus moves, previews are launched and closed, the
editor and the transport report events. As long as it is idle it reads none of these events and has
no live subscription to them. And in every session, started or not, the teardown of a live task is
to close its preview.
-/

namespace LanguageClient.Session

/-- Nothing but a start brings an idle session further. -/
theorem Step.idle {session after : Session} {happening : Happening}
    (step : Step session happening after) (idle : session.lifecycle = .idle)
    (unstarted : ∀ environment, happening ≠ .performed environment .start) :
    after.lifecycle = .idle := by
  cases step with
  | ordinary uneventful => exact uneventful.lifecycle.trans idle
  | started found outcome => exact absurd rfl (unstarted _)
  | stopped finds =>
    have running := finds.running
    rw [isRunning, finds.uneventful.lifecycle, idle] at running
    cases running

/-- A session that nobody started is idle. -/
theorem reached_idle {options : Options} {happenings : List Happening}
    (unstarted : ∀ environment, .performed environment .start ∉ happenings) :
    (reached options happenings).lifecycle = .idle := by
  induction happenings using List.reverseRecOn with
  | nil => rfl
  | append_singleton happenings happening inductionHypothesis =>
    have idle := inductionHypothesis fun environment inside =>
      unstarted environment (List.mem_append_left _ inside)
    rw [reached_snoc]
    refine (happen_step _ happening).idle idle fun environment same => ?_
    exact unstarted environment (List.mem_append_right _ (same ▸ List.mem_cons_self))

/-- Every live task is torn down by closing its preview. -/
def Tidy (session : Session) : Prop :=
  ∀ entry ∈ session.tasks.tasks, entry.2 = .closePreview entry.1

/-- What is tidy stays tidy. -/
def StaysTidy (before after : Session) : Prop := Tidy before → Tidy after

instance : IsPreorder Session StaysTidy where
  refl := fun _ => id
  trans := fun _ _ _ first second => second ∘ first

/-- Tasks that were live before are torn down as before. -/
theorem StaysTidy.of_subset {before after : Session}
    (kept : after.tasks.tasks ⊆ before.tasks.tasks) : StaysTidy before after :=
  fun tidy entry live => tidy entry (kept live)

/-- Where the tasks stay, their teardowns do. -/
theorem StaysTidy.of_tasks {before after : Session} (same : after.tasks = before.tasks) :
    StaysTidy before after :=
  .of_subset (by rw [same]; exact List.Subset.refl _)

/-- Whatever a session does apart from launching a preview, its teardowns are those of before. -/
theorem staysTidy_lawful : Lawful StaysTidy where
  routine := fun _ _ made => .of_tasks (by rw [made.1])
  focus := fun environment effect focus session =>
    .of_tasks (by rw [(applyFocus_routine environment effect { session with focus := focus }).1])
  dispose := by
    intro id session
    rw [run_disposeTask]
    exact .of_subset List.filter_sublist.subset
  fetches := fun _ _ fetched => .of_tasks (by rw [fetched])
  arranges := fun _ _ arranged => .of_tasks arranged.tasks
  traffic := fun _ _ made => .of_tasks (by rw [made.1])
  disposeAll := by
    intro session
    rw [run_disposeTasks]
    exact .of_subset (List.nil_subset _)

/-- A registered preview is torn down by closing it. -/
theorem registerPreview_staysTidy (task : String) : Leads StaysTidy (registerPreview task) := by
  intro session tidy
  have registration := run_registerPreview task session
  by_cases live : session.tasks.contains task = true
  · rw [TaskRegistry.register, if_pos live] at registration
    rw [registration]
    exact tidy
  · rw [TaskRegistry.register, if_neg live] at registration
    rw [registration]
    intro entry inside
    obtain old | new := List.mem_append.mp inside
    · exact tidy entry old
    · rw [List.mem_singleton.mp new]

/-- Launching a preview leaves the session tidy. -/
theorem launchPreview_staysTidy (environment : Environment) (kind : Preview.Kind) :
    Leads StaysTidy (launchPreview environment kind) := by
  refine staysTidy_lawful.launchPreview environment (fun _ _ => .of_tasks rfl)
    registerPreview_staysTidy ?_ kind
  intro task started session
  rw [run_ask]
  exact .of_tasks rfl

/-- Every reached session is tidy. -/
theorem reached_tidy (options : Options) (happenings : List Happening) :
    Tidy (reached options happenings) :=
  happenings_obey (staysTidy_lawful.happen launchPreview_staysTidy) (fresh options) happenings nofun

/-- Nothing happens to the events of the editor. -/
def SameSource (before after : Session) : Prop := after.source = before.source

instance : IsPreorder Session SameSource where
  refl := fun _ => rfl
  trans := fun _ _ _ first second => second.trans first

/-- Handling something that happened takes no event from its queue. -/
theorem sameSource_handling : Handling SameSource where
  routine := fun _ _ made => by rw [SameSource, made.1]
  focus := fun environment effect focus session => by
    rw [SameSource, (applyFocus_routine environment effect { session with focus := focus }).1]
  dispose := fun id session => by rw [SameSource, run_disposeTask]

/-- Neither does launching a preview. -/
theorem launchPreview_sameSource (environment : Environment) (kind : Preview.Kind) :
    Leads SameSource (launchPreview environment kind) := by
  refine sameSource_handling.launchPreview environment (fun _ _ => rfl) ?_ ?_ kind
  · intro task session
    rw [SameSource, run_registerPreview]
    split
    · rfl
    · rfl
  · intro task started session
    rw [SameSource, run_ask]

/-- The session reads no events, and no subscription to them is live. -/
structure Unheard (session : Session) : Prop where
  receiver : session.receiver = none
  live : session.source.live = []

/-- A start does not leave the session idle. -/
theorem Started.not_idle {environment : Environment} {session after : Session}
    {result : Except Halt Unit} (started : Started environment session result after) :
    after.lifecycle ≠ .idle := by
  cases started with
  | completed launched running subscriptions receiver => simp [running]
  | failed stopped receiver calls => simp [stopped]

/-- An operation that leaves an idle session idle leaves it unheard.

Proof: a stop does nothing to an idle session, the loop does not run without a receiver, and a start
leaves no session idle. All other operations concern neither the receiver nor the events. -/
theorem Unheard.performed {session : Session} (unheard : Unheard session)
    (idle : session.lifecycle = .idle) (environment : Environment) (operation : Operation)
    (still : (session.happen (.performed environment operation)).lifecycle = .idle) :
    Unheard (session.happen (.performed environment operation)) := by
  have plain (other : Operation) (unstarted : other ≠ .start) (unstopped : other ≠ .stop)
      (unrun : other ≠ .run) : Unheard (session.happen (.performed environment other)) := by
    have kept := perform_uneventful environment other unstarted unstopped unrun session
    have source : (session.happen (.performed environment other)).source = session.source :=
      sameSource_handling.performs environment (launchPreview_sameSource environment) unstarted
        unstopped unrun session
    exact ⟨kept.receiver.trans unheard.receiver, by rw [source, unheard.live]⟩
  cases operation with
  | start =>
    rw [happen_start] at still
    exact absurd still (start_started environment idle).not_idle
  | stop =>
    have unstarted : session.isRunning = false := by
      rw [isRunning, idle]
      rfl
    rw [happen_stop, run_stop_still environment unstarted]
    exact unheard
  | run =>
    rw [happen_run, run_unreceived environment unheard.receiver]
    exact unheard
  | _ => exact plain _ (by simp) (by simp) (by simp)

/-- As long as a session stays idle it is unheard. -/
theorem Unheard.happen {session : Session} (unheard : Unheard session)
    (idle : session.lifecycle = .idle) (happening : Happening)
    (still : (session.happen happening).lifecycle = .idle) : Unheard (session.happen happening) := by
  cases happening with
  | performed environment operation => exact unheard.performed idle environment operation still
  | turned environment =>
    have turned := turn_unreceived environment unheard.receiver
    rw [Session.happen, turned]
    exact unheard
  | emitted event =>
    refine ⟨unheard.receiver, ?_⟩
    simp [Session.happen, emit, EventHub.emit, unheard.live]
  | arrived event => exact ⟨unheard.receiver, unheard.live⟩
  | sourceClosed => exact ⟨unheard.receiver, rfl⟩
  | arrivalsClosed => exact ⟨unheard.receiver, unheard.live⟩

/-- Every idle session that is reached is unheard. -/
theorem reached_unheard {options : Options} {happenings : List Happening}
    (idle : (reached options happenings).lifecycle = .idle) :
    Unheard (reached options happenings) := by
  induction happenings using List.reverseRecOn with
  | nil => exact ⟨rfl, rfl⟩
  | append_singleton happenings happening inductionHypothesis =>
    rw [reached_snoc] at idle ⊢
    have before := (happen_step (reached options happenings) happening).forward.1 idle
    exact (inductionHypothesis before).happen before happening idle

end LanguageClient.Session
