import LanguageClient.Proofs.Histories
import LanguageClient.Proofs.StartAndStop
import Mathlib.Data.List.Induction

/-!
# The one way through a session's life

A session is idle, then it may be running, and at last it is stopped. Everything that happens to it
is a start that finds it idle, a stop that finds it running, or of no consequence for the
conversation. So in every reached state the milestones that were passed are known from how far the
session got: none is passed twice, and none is passed out of turn.
-/

namespace LanguageClient.Session

/-- The loop comes to its end: after turns that go on, one finds that it is over. -/
inductive LoopReaches (environment : Environment) : Session → Session → Prop where
  | finish {session found : Session}
      (turned : (turn environment).run session = (.ok .finish, found)) :
      LoopReaches environment session found
  | proceed {session next found : Session}
      (turned : (turn environment).run session = (.ok .proceed, next))
      (rest : LoopReaches environment next found) : LoopReaches environment session found

/-- What the loop does up to its end is uneventful. -/
theorem LoopReaches.uneventful {environment : Environment} {session found : Session}
    (reaches : LoopReaches environment session found) : Uneventful session found := by
  induction reaches with
  | @finish session found turned =>
    have moved := uneventful_ordinary.turn environment session
    rwa [turned] at moved
  | @proceed session next found turned rest inductionHypothesis =>
    have moved := uneventful_ordinary.turn environment session
    rw [turned] at moved
    exact trans_of Uneventful moved inductionHypothesis

/-- Any number of turns are uneventful, or they come to the end of the loop, and the session is
stopped there. -/
theorem turns_cases (environment : Environment) (count : Nat) (session : Session) :
    Uneventful session ((turns environment count).run session).2 ∨
      ∃ found, LoopReaches environment session found ∧
        ((turns environment count).run session).2 = ((stop environment).run found).2 := by
  induction count generalizing session with
  | zero => exact .inl (refl_of Uneventful session)
  | succ count inductionHypothesis =>
    have moved := uneventful_ordinary.turn environment session
    cases turned : (turn environment).run session with
    | mk result next =>
      rw [turned] at moved
      cases result with
      | error halt =>
        rw [turns, run_bind_error turned]
        exact .inl moved
      | ok pace =>
        rw [turns, run_bind_ok turned]
        cases pace with
        | wait => exact .inl moved
        | finish => exact .inr ⟨next, .finish turned, run_bind_pure _ _ next⟩
        | proceed =>
          obtain uneventful | ⟨found, reaches, ended⟩ := inductionHypothesis next
          · exact .inl (trans_of Uneventful moved uneventful)
          · exact .inr ⟨found, .proceed turned reaches, ended⟩

/-- A stop finds the session running: one that is asked for, or the one that ends the loop. -/
inductive StopFinds (session : Session) : Happening → Environment → Session → Prop where
  | asked {environment : Environment} (running : session.isRunning = true) :
      StopFinds session (.performed environment .stop) environment session
  | looped {environment : Environment} {found : Session}
      (reaches : LoopReaches environment session found) (running : found.isRunning = true)
      (ended : ((run environment).run session).2 = ((stop environment).run found).2) :
      StopFinds session (.performed environment .run) environment found

section StopFinds

variable {session found : Session} {happening : Happening} {environment : Environment}

/-- What a stop finds is running. -/
theorem StopFinds.running (finds : StopFinds session happening environment found) :
    found.isRunning = true := by
  cases finds with
  | asked running => exact running
  | looped reaches running ended => exact running

/-- Nothing of consequence came before it. -/
theorem StopFinds.uneventful (finds : StopFinds session happening environment found) :
    Uneventful session found := by
  cases finds with
  | asked running => exact refl_of Uneventful session
  | looped reaches running ended => exact reaches.uneventful

/-- A stop that finds the session running leaves it as taking leave does. -/
theorem StopFinds.happen (finds : StopFinds session happening environment found) :
    session.happen happening = ((takeLeave environment).run found.released).2 := by
  rw [← run_stop environment finds.running]
  cases finds with
  | asked running => exact happen_stop environment session
  | looped reaches running ended => exact (happen_run environment session).trans ended

end StopFinds

/-- What can happen to the conversation: nothing of consequence, a start that finds the session
idle, or a stop that finds it running. -/
inductive Step (session : Session) : Happening → Session → Prop where
  | ordinary {happening : Happening} {after : Session} (uneventful : Uneventful session after) :
      Step session happening after
  | started {environment : Environment} {result : Except Halt Unit} {after : Session}
      (idle : session.lifecycle = .idle) (outcome : Started environment session result after) :
      Step session (.performed environment .start) after
  | stopped {happening : Happening} {environment : Environment} {found : Session}
      (finds : StopFinds session happening environment found) :
      Step session happening ((takeLeave environment).run found.released).2

/-- A stop that finds the session running is a step. -/
theorem StopFinds.step {session found : Session} {happening : Happening} {environment : Environment}
    (finds : StopFinds session happening environment found) :
    Step session happening (session.happen happening) := by
  rw [finds.happen]
  exact .stopped finds

/-- A start is a step; it is of no consequence unless it finds the session idle. -/
theorem start_step (environment : Environment) (session : Session) :
    Step session (.performed environment .start)
      (session.happen (.performed environment .start)) := by
  rw [happen_start]
  by_cases idle : session.lifecycle = .idle
  · exact .started idle (start_started environment idle)
  · rw [run_start, if_neg idle]
    exact .ordinary (refl_of Uneventful session)

/-- A stop is a step; it is of no consequence unless it finds the session running. -/
theorem stop_step (environment : Environment) (session : Session) :
    Step session (.performed environment .stop)
      (session.happen (.performed environment .stop)) := by
  cases running : session.isRunning with
  | true => exact (StopFinds.asked running).step
  | false =>
    rw [happen_stop, run_stop_still environment running]
    exact .ordinary (refl_of Uneventful session)

/-- A run of the loop is a step; it is of no consequence unless it ends with a stop that finds the
session running. -/
theorem run_step (environment : Environment) (session : Session) :
    Step session (.performed environment .run) (session.happen (.performed environment .run)) := by
  obtain uneventful | ⟨found, reaches, ended⟩ :=
    turns_cases environment (session.waiting + 1) session
  · rw [happen_run]
    exact .ordinary uneventful
  · cases running : found.isRunning with
    | true => exact (StopFinds.looped reaches running ended).step
    | false =>
      have left : ((run environment).run session).2 = found := by
        rw [run_stop_still environment running] at ended
        exact ended
      rw [happen_run, left]
      exact .ordinary reaches.uneventful

/-- Everything that happens is a step. -/
theorem happen_step (session : Session) (happening : Happening) :
    Step session happening (session.happen happening) := by
  cases happening with
  | performed environment operation =>
    have plain (other : Operation) (unstarted : other ≠ .start) (unstopped : other ≠ .stop)
        (still : other ≠ .run) : Step session (.performed environment other)
          (session.happen (.performed environment other)) :=
      .ordinary (perform_uneventful environment other unstarted unstopped still session)
    cases operation with
    | start => exact start_step environment session
    | stop => exact stop_step environment session
    | run => exact run_step environment session
    | _ => exact plain _ nofun nofun nofun
  | turned environment => exact .ordinary (uneventful_ordinary.turn environment session)
  | _ => exact .ordinary (.frame rfl rfl rfl rfl)

/-- The milestones that a stopped session can have passed. The start failed before the launch, at
the launch or after it; or the session ran, and the server was told to exit or not. -/
def endings : List (List Milestone) :=
  [[], [.launch], [.launch, .introduction, .stop], [.launch, .introduction, .shutdown, .stop],
    [.launch, .introduction, .shutdown, .exit, .stop]]

/-- However a session ends, no milestone is passed twice. -/
theorem endings_nodup : ∀ milestones ∈ endings, milestones.Nodup := by decide

/-- The milestones are those of how far the session got. While it runs it has one subscription, and
once it is stopped it reads no events. -/
structure Sound (session : Session) : Prop where
  idle : session.lifecycle = .idle →
    Trace.milestones session.trace = [] ∧ session.subscriptions = []
  running : session.lifecycle = .running →
    Trace.milestones session.trace = [.launch, .introduction] ∧
      ∃ id, session.subscriptions = [⟨id, true⟩]
  stopped : session.lifecycle = .stopped →
    Trace.milestones session.trace ∈ endings ∧ session.receiver = none

/-- What is of no consequence keeps the session sound. -/
theorem Sound.uneventful {session after : Session} (sound : Sound session)
    (uneventful : Uneventful session after) : Sound after := by
  refine ⟨?_, ?_, ?_⟩
  · rw [uneventful.lifecycle, uneventful.milestones, uneventful.subscriptions]
    exact sound.idle
  · rw [uneventful.lifecycle, uneventful.milestones, uneventful.subscriptions]
    exact sound.running
  · rw [uneventful.lifecycle, uneventful.milestones, uneventful.receiver]
    exact sound.stopped

/-- The milestones of the last calls. -/
theorem milestones_partingCalls (environment : Environment) (ready : Session) :
    Trace.milestones (partingCalls environment ready) =
      .shutdown :: ((if agrees environment ready then [.exit] else []) ++ [.stop]) := by
  unfold partingCalls
  cases agrees environment ready <;> rfl

/-- A start from the beginning leaves the session sound. -/
theorem Started.sound {environment : Environment} {session after : Session}
    {result : Except Halt Unit} (started : Started environment session result after)
    (fresh : Trace.milestones session.trace = []) (unsubscribed : session.subscriptions = []) :
    Sound after := by
  cases started with
  | completed launched running subscriptions receiver =>
    refine ⟨by simp [running], fun _ => ?_, by simp [running]⟩
    rw [launched.passes.milestones, fresh, subscriptions, unsubscribed]
    exact ⟨rfl, _, rfl⟩
  | failed stopped receiver calls =>
    refine ⟨by simp [stopped], by simp [stopped], fun _ => ⟨?_, receiver⟩⟩
    obtain unlaunched | refused | launched := calls
    · rw [unlaunched.milestones, fresh]
      decide
    · rw [refused.milestones, fresh]
      decide
    · rw [launched.passes.milestones, fresh]
      decide

/-- A start neither asks the server to shut down nor tells it to exit. -/
theorem Started.passes {environment : Environment} {session after : Session}
    {result : Except Halt Unit} (started : Started environment session result after) :
    ∃ passed, Trace.Passes passed session.trace after.trace ∧ .shutdown ∉ passed ∧
      .exit ∉ passed := by
  cases started with
  | completed launched running subscriptions receiver =>
    exact ⟨_, launched.passes, by decide, by decide⟩
  | failed stopped receiver calls =>
    obtain unlaunched | refused | launched := calls
    · exact ⟨_, unlaunched, by decide, by decide⟩
    · exact ⟨_, refused, by decide, by decide⟩
    · exact ⟨_, launched.passes, by decide, by decide⟩

/-- Taking leave of the server leaves a session that ran sound. -/
theorem takeLeave_sound (environment : Environment) {found : Session}
    (ran : Trace.milestones found.trace = [.launch, .introduction]) :
    Sound ((takeLeave environment).run found.released).2 := by
  obtain ⟨lifecycle, receiver, trace⟩ := takeLeave_calls environment found.released
  have stopped : ((takeLeave environment).run found.released).2.lifecycle = .stopped := lifecycle
  refine ⟨by simp [stopped], by simp [stopped], fun _ => ⟨?_, receiver⟩⟩
  rw [trace, Trace.milestones_append, (released_passes found).milestones, ran,
    milestones_partingCalls]
  cases agrees environment found.released <;> decide

/-- A stop finds a sound session. -/
theorem Sound.found {session found : Session} {happening : Happening} {environment : Environment}
    (sound : Sound session) (finds : StopFinds session happening environment found) :
    Trace.milestones found.trace = [.launch, .introduction] ∧
      ∃ id, found.subscriptions = [⟨id, true⟩] := by
  have running : found.lifecycle = .running := by simpa [isRunning] using finds.running
  exact (sound.uneventful finds.uneventful).running running

/-- Everything that happens keeps the session sound. -/
theorem Sound.step {session after : Session} {happening : Happening} (sound : Sound session)
    (step : Step session happening after) : Sound after := by
  cases step with
  | ordinary uneventful => exact sound.uneventful uneventful
  | started idle outcome => exact outcome.sound (sound.idle idle).1 (sound.idle idle).2
  | stopped finds => exact takeLeave_sound _ (sound.found finds).1

/-- Every reached session is sound. -/
theorem reached_sound (options : Options) (happenings : List Happening) :
    Sound (reached options happenings) := by
  induction happenings using List.reverseRecOn with
  | nil => exact ⟨fun _ => ⟨rfl, rfl⟩, nofun, nofun⟩
  | append_singleton happenings happening inductionHypothesis =>
    rw [reached_snoc]
    exact inductionHypothesis.step (happen_step _ happening)

/-- A session never gets back: once it is started it is not idle again, and once it is stopped it
stays so. -/
def Forward (before after : Session) : Prop :=
  (after.lifecycle = .idle → before.lifecycle = .idle) ∧
    (before.lifecycle = .stopped → after.lifecycle = .stopped)

instance : IsPreorder Session Forward where
  refl := fun _ => ⟨id, id⟩
  trans := fun _ _ _ first second => ⟨first.1 ∘ second.1, second.2 ∘ first.2⟩

/-- Everything that happens brings the session forward. -/
theorem Step.forward {session after : Session} {happening : Happening}
    (step : Step session happening after) : Forward session after := by
  cases step with
  | ordinary uneventful =>
    rw [Forward, uneventful.lifecycle]
    exact ⟨id, id⟩
  | started idle outcome =>
    exact ⟨fun _ => idle, fun halted => absurd (idle.symm.trans halted) nofun⟩
  | @stopped _ environment found finds =>
    have halted : ((takeLeave environment).run found.released).2.lifecycle = .stopped :=
      (takeLeave_calls environment found.released).1
    exact ⟨fun idle => absurd (halted.symm.trans idle) nofun, fun _ => halted⟩

/-- Whatever happens then, the session does not get back. -/
theorem reached_forward (options : Options) (before after : List Happening) :
    Forward (reached options before) (reached options (before ++ after)) := by
  have onward := happenings_obey (fun session happening => (happen_step session happening).forward)
    (reached options before) after
  rwa [reached, ← List.foldl_append] at onward

/-- A start succeeds, given what happened before. -/
def StartSucceeds (options : Options) (before : List Happening) (happening : Happening) : Prop :=
  ∃ environment, happening = .performed environment .start ∧
    ((start environment).run (reached options before)).1 = .ok ()

/-- A start of an idle session fails, given what happened before. -/
def StartFails (options : Options) (before : List Happening) (happening : Happening) : Prop :=
  ∃ environment halt, happening = .performed environment .start ∧
    (reached options before).lifecycle = .idle ∧
    ((start environment).run (reached options before)).1 = .error halt

/-- A start launches the server, and the launch succeeds. -/
def LaunchSucceeds (options : Options) (before : List Happening) (happening : Happening) : Prop :=
  ∃ environment config, happening = .performed environment .start ∧
    environment.peer.start ((reached options before).trace ++ [.start config]) = .ok () ∧
    (reached options before).trace ++ [.start config] <+:
      (reached options (before ++ [happening])).trace

/-- A milestone is passed by what happens, and was not passed before. -/
def PassedBy (options : Options) (before : List Happening) (happening : Happening)
    (milestone : Milestone) : Prop :=
  milestone ∉ Trace.milestones (reached options before).trace ∧
    milestone ∈ Trace.milestones (reached options (before ++ [happening])).trace

section Reached

variable {options : Options}

/-- A session runs, and the transport is stopped, only after a launch that succeeded. -/
theorem reached_launched {happenings : List Happening}
    (after : (reached options happenings).lifecycle = .running ∨
      .stop ∈ Trace.milestones (reached options happenings).trace) :
    Occurred (LaunchSucceeds options) happenings := by
  induction happenings using List.reverseRecOn with
  | nil => simp [reached, fresh, trace, Connection.fresh, Trace.milestones] at after
  | append_singleton happenings happening inductionHypothesis =>
    rw [occurred_snoc]
    have step := happen_step (reached options happenings) happening
    rw [← reached_snoc] at step
    -- The next state gets a name, so that the step can be taken apart.
    generalize left : reached options (happenings ++ [happening]) = next at step after
    cases step with
    | ordinary uneventful =>
      rw [uneventful.lifecycle, uneventful.milestones] at after
      exact .inl (inductionHypothesis after)
    | @started environment result _ idle outcome =>
      have untouched := ((reached_sound options happenings).idle idle).1
      refine .inr ?_
      cases outcome with
      | completed launched running subscriptions receiver =>
        obtain ⟨config, succeeded, calls⟩ := launched
        exact ⟨environment, config, rfl, succeeded, left ▸ calls.isPrefix⟩
      | failed stopped receiver calls =>
        have halted := after.resolve_left (by simp [stopped])
        obtain unlaunched | refused | ⟨config, succeeded, calls⟩ := calls
        · simp [unlaunched.milestones, untouched] at halted
        · simp [refused.milestones, untouched] at halted
        · exact ⟨environment, config, rfl, succeeded, left ▸ calls.isPrefix⟩
    | @stopped _ environment found finds =>
      refine .inl (inductionHypothesis (.inl ?_))
      rw [← finds.uneventful.lifecycle]
      simpa [isRunning] using finds.running

/-- After a start that succeeds no other does. -/
theorem start_succeeds_once {before between : List Happening} {first second : Happening}
    (one : StartSucceeds options before first) :
    ¬ StartSucceeds options (before ++ first :: between) second := by
  rintro ⟨environment, rfl, again⟩
  obtain ⟨earlier, rfl, succeeded⟩ := one
  have idle : (reached options (before ++ .performed earlier .start :: between)).lifecycle =
      .idle := by
    by_contra started
    rw [run_start, if_neg started] at again
    cases again
  rw [← List.singleton_append, ← List.append_assoc] at idle
  -- What is idle later was idle all along, but the first start left the session running.
  have stillIdle := (reached_forward options (before ++ [.performed earlier .start]) between).1 idle
  have idleBefore := (reached_forward options before [.performed earlier .start]).1 stillIdle
  have outcome := start_started earlier idleBefore
  rw [succeeded] at outcome
  rw [reached_snoc, happen_start] at stillIdle
  generalize ((start earlier).run (reached options before)).2 = after at outcome stillIdle
  cases outcome with
  | completed _ running _ _ => exact absurd (running.symm.trans stillIdle) nofun

/-- A start that fails and a stop that finds the session running leave it stopped. -/
theorem stopped_for_good {before : List Happening} {happening : Happening}
    (ended : StartFails options before happening ∨
      ∃ environment found, StopFinds (reached options before) happening environment found)
    (after : List Happening) :
    (reached options (before ++ happening :: after)).lifecycle = .stopped := by
  have halted : (reached options (before ++ [happening])).lifecycle = .stopped := by
    rw [reached_snoc]
    obtain ⟨environment, halt, rfl, idle, failure⟩ | ⟨environment, found, finds⟩ := ended
    · have outcome := start_started environment idle
      rw [failure] at outcome
      rw [happen_start]
      cases outcome with
      | failed stopped _ _ => exact stopped
    · rw [finds.happen]
      exact (takeLeave_calls environment found.released).1
  have onward := (reached_forward options (before ++ [happening]) after).2 halted
  rwa [List.append_assoc, List.singleton_append] at onward

/-- Only a stop that finds the session running asks the server to shut down or tells it to exit. -/
theorem parted_by_stop {before : List Happening} {happening : Happening}
    (parted : PassedBy options before happening .shutdown ∨
      PassedBy options before happening .exit) :
    ∃ environment found, StopFinds (reached options before) happening environment found := by
  have step := happen_step (reached options before) happening
  rw [← reached_snoc] at step
  unfold PassedBy at parted
  generalize reached options (before ++ [happening]) = after at step parted
  cases step with
  | ordinary uneventful => simp [uneventful.milestones] at parted
  | started idle outcome =>
    obtain ⟨passed, calls, unasked, untold⟩ := outcome.passes
    have milestones := calls.milestones
    simp [milestones, unasked, untold] at parted
  | stopped finds => exact ⟨_, _, finds⟩

end Reached

/-- A session that reads no events takes no turn of the loop. -/
theorem turn_unreceived (environment : Environment) {session : Session}
    (unreceived : session.receiver = none) :
    (turn environment).run session = (.error (.failed .notRunning), session) := by
  have nothing : next.run session = (.error (.failed .notRunning), session) := by
    rw [next, run_get_bind, unreceived]
    rfl
  exact run_bind_error nothing

/-- A session that reads no events is not run. -/
theorem run_unreceived (environment : Environment) {session : Session}
    (unreceived : session.receiver = none) :
    (run environment).run session = (.error (.failed .notRunning), session) := by
  rw [run, run_get_bind, turns]
  exact run_bind_error (turn_unreceived environment unreceived)

/-- The life of a session is one way, and its effects happen at most once, whatever the server, the
transport and the editor do. At most one start succeeds. The launch, the introduction, the request
to shut down, the notification to exit and the stop of the transport are each attempted at most
once. The server is asked to shut down or told to exit only by a stop that found the session
running. By then the work is ended: no task is live, and the one subscription is cancelled; what
follows is the request to shut down, the notification to exit exactly if the server agreed, and the
stop of the transport. The transport is stopped only if a launch succeeded. Once a start failed or a
stop found the session running, the session stays stopped. A start of a session that is not idle
is refused, a stop of a stopped session does nothing and a run of it is refused, and none of these
changes anything.

Proof: everything that happens is a start that finds the session idle, a stop that finds it running,
or uneventful. So the milestones of every reached state are those of how far the session got. -/
theorem lifecycle_is_one_way (options : Options) (happenings : List Happening) :
    (∀ before first between second after,
      happenings = before ++ first :: (between ++ second :: after) →
      StartSucceeds options before first →
      ¬ StartSucceeds options (before ++ first :: between) second) ∧
    (Trace.milestones (reached options happenings).trace).Nodup ∧
    (∀ before happening after, happenings = before ++ happening :: after →
      (PassedBy options before happening .shutdown ∨ PassedBy options before happening .exit) →
      ∃ environment found id,
        StopFinds (reached options before) happening environment found ∧
        found.released.tasks = .empty ∧
        found.subscriptions = [⟨id, true⟩] ∧ id ∉ found.released.source.live ∧
        (stop environment).run found = (takeLeave environment).run found.released ∧
        (reached options (before ++ [happening])).trace =
          found.released.trace ++ partingCalls environment found.released) ∧
    (.stop ∈ Trace.milestones (reached options happenings).trace →
      Occurred (LaunchSucceeds options) happenings) ∧
    (∀ before happening after, happenings = before ++ happening :: after →
      (StartFails options before happening ∨
        ∃ environment found, StopFinds (reached options before) happening environment found) →
      (reached options happenings).lifecycle = .stopped) ∧
    ((reached options happenings).lifecycle ≠ .idle → ∀ environment,
      (start environment).run (reached options happenings) =
        (.error (.failed .alreadyStarted), reached options happenings)) ∧
    ((reached options happenings).lifecycle = .stopped → ∀ environment,
      (stop environment).run (reached options happenings) = (.ok (), reached options happenings) ∧
      (run environment).run (reached options happenings) =
        (.error (.failed .notRunning), reached options happenings)) := by
  have sound := reached_sound options happenings
  refine ⟨fun _ _ _ _ _ _ => start_succeeds_once, ?_, ?_,
    fun passed => reached_launched (.inr passed), ?_, ?_, ?_⟩
  · cases stage : (reached options happenings).lifecycle with
    | idle => simp [(sound.idle stage).1]
    | running => simp [(sound.running stage).1]
    | stopped => exact endings_nodup _ (sound.stopped stage).1
  · rintro before happening after rfl parted
    obtain ⟨environment, found, finds⟩ := parted_by_stop parted
    obtain ⟨-, id, only⟩ := (reached_sound options before).found finds
    refine ⟨environment, found, id, finds, rfl, only, released_live only,
      run_stop environment finds.running, ?_⟩
    rw [reached_snoc, finds.happen]
    exact (takeLeave_calls environment found.released).2.2
  · rintro before happening after rfl ended
    exact stopped_for_good ended after
  · intro started environment
    rw [run_start, if_neg started]
  · intro halted environment
    have still : (reached options happenings).isRunning = false := by
      rw [isRunning, halted]
      rfl
    exact ⟨run_stop_still environment still, run_unreceived environment (sound.stopped halted).2⟩

/-- Calm surroundings with a server that introduces itself and agrees to shut down. -/
def hospitable : Environment :=
  { calm with peer := { calm.peer with
      request := fun trace =>
        match trace.getLast? with
        | some (.request ⟨_, "initialize", _⟩ _) =>
          .ok ⟨.number 0, some (.ofFields [("capabilities", .object [])]), none⟩
        | _ => .ok ⟨.number 0, none, none⟩ } }

/-- A session is started, a preview is launched, the session is stopped, and someone tries to start
it again. -/
def quietEvening : List Happening :=
  ([.start, .activatePath none (some "/main.typ"), .launchPreview .webview, .stop, .start] :
    List Operation).map (.performed hospitable)

/-- On a quiet evening every milestone is passed once. The server is asked to shut down when the
preview is closed and the subscription cancelled, and the session stays stopped. -/
theorem quietEvening_ends_once :
    let options := Options.inWorkspace (.fixed "tinymist") "/"
    Trace.milestones (reached options quietEvening).trace =
      [.launch, .introduction, .shutdown, .exit, .stop] ∧
    (Trace.milestones (reached options quietEvening).trace).Nodup ∧
    StartSucceeds options [] (.performed hospitable .start) ∧
    ¬ StartSucceeds options (quietEvening.take 4) (.performed hospitable .start) ∧
    (∃ environment found id,
      StopFinds (reached options (quietEvening.take 3)) (.performed hospitable .stop) environment
        found ∧ id ∉ found.released.source.live) ∧
    Occurred (LaunchSucceeds options) quietEvening ∧
    (reached options quietEvening).lifecycle = .stopped ∧
    ((run hospitable).run (reached options quietEvening)).1 = .error (.failed .notRunning) := by
  intro options
  obtain ⟨once, nodup, parting, launched, stays, refused, spent⟩ :=
    lifecycle_is_one_way options quietEvening
  have milestones : Trace.milestones (reached options quietEvening).trace =
      [.launch, .introduction, .shutdown, .exit, .stop] := by decide +kernel
  have started : StartSucceeds options [] (.performed hospitable .start) :=
    ⟨hospitable, rfl, by decide +kernel⟩
  have asked : PassedBy options (quietEvening.take 3) (.performed hospitable .stop) .shutdown := by
    constructor
    · decide +kernel
    · decide +kernel
  obtain ⟨environment, found, id, finds, -, -, cancelled, -⟩ := parting (quietEvening.take 3)
    (.performed hospitable .stop) [.performed hospitable .start] rfl (.inl asked)
  have halted : (reached options quietEvening).lifecycle = .stopped :=
    stays _ _ [.performed hospitable .start] rfl (.inr ⟨environment, found, finds⟩)
  have unstarted := once [] (.performed hospitable .start) ((quietEvening.take 4).drop 1)
    (.performed hospitable .start) [] rfl started
  exact ⟨milestones, nodup, started, unstarted, ⟨environment, found, id, finds, cancelled⟩,
    launched (by simp [milestones]), halted, congrArg Prod.fst (spent halted hospitable).2⟩

end LanguageClient.Session
