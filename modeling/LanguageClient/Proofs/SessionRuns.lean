import LanguageClient.Proofs.SessionLaws

/-!
# Runs of a session

A run is what happens to a session, one thing after another: operations are performed, each in
surroundings of its own, the loop takes single turns, events of the editor and of the transport are
reported, and either source of events ends. What relates the session before and after every
happening relates them across any number of happenings.
-/

namespace LanguageClient.Session

/-- Something that happens to a session. -/
inductive Happening where
  | performed (environment : Environment) (operation : Operation)
  /-- The event loop takes one turn. -/
  | turned (environment : Environment)
  | emitted (event : EditorEvent)
  | arrived (event : TransportEvent)
  /-- The editor reports no more events. -/
  | sourceClosed
  /-- The transport reports no more events. -/
  | arrivalsClosed

/-- What a happening makes of a session. -/
def happen (session : Session) : Happening → Session
  | .performed environment operation => ((perform environment operation).run session).2
  | .turned environment => ((turn environment).run session).2
  | .emitted event => session.emit event
  | .arrived event => session.arrive event
  | .sourceClosed => { session with source := session.source.close }
  | .arrivalsClosed => { session with arrivals := session.arrivals.close }

/-- A law of a session that also holds of launching a preview holds of everything that happens. -/
theorem Lawful.happen {relation : Session → Session → Prop} [IsPreorder Session relation]
    (lawful : Lawful relation)
    (launched : ∀ environment kind, Leads relation (launchPreview environment kind))
    (session : Session) (happening : Happening) :
    relation session (session.happen happening) := by
  have lensed (environment : Environment) (tag : String) :
      Leads relation (runCodeLensTag environment tag) :=
    runCodeLensTag_leads environment (lawful.routine _ _) (launched environment)
      (fun calls => trans_of relation (lawful.routine _ _ calls)) tag
  have performs (environment : Environment) (operation : Operation) :
      Leads relation (Session.perform environment operation) := by
    cases operation with
    | launchPreview kind => exact (launched environment kind).bind_pure _
    | codeLens tag => exact (lensed environment tag).bind_pure _
    | _ => exact lawful.perform environment _ nofun nofun
  cases happening with
  | performed environment operation => exact performs environment operation session
  | turned environment => exact lawful.turn environment session
  | _ => exact lawful.arranges _ _ ⟨rfl, rfl, rfl, rfl⟩

/-- What an action yields may be read in another way without a change of what it leaves. -/
theorem run_bind_pure {α β : Type} (action : Action α) (reading : α → β) (session : Session) :
    ((action >>= fun value => pure (reading value)).run session).2 = (action.run session).2 := by
  have same : Leads (fun before after => after = (action.run before).2) action := fun _ => rfl
  exact same.bind_pure reading session

section Left

variable (environment : Environment) (session : Session)

/-- What a start leaves. -/
theorem happen_start :
    session.happen (.performed environment .start) = ((start environment).run session).2 :=
  run_bind_pure _ _ session

/-- What a stop leaves. -/
theorem happen_stop :
    session.happen (.performed environment .stop) = ((stop environment).run session).2 :=
  run_bind_pure _ _ session

/-- What a run of the loop leaves, however it is reported. -/
theorem happen_run :
    session.happen (.performed environment .run) = ((run environment).run session).2 := by
  have same : Leads (fun before after => after = ((run environment).run before).2)
    (run environment) := fun _ => rfl
  refine same.bind_still (fun loopEnd => ?_) session
  cases loopEnd with
  | stopped => exact .pure _
  | pending => exact .pure _

end Left

/-- A law of single happenings holds across all of them. -/
theorem happenings_obey {relation : Session → Session → Prop} [IsPreorder Session relation]
    (obeyed : ∀ session happening, relation session (happen session happening))
    (session : Session) (happenings : List Happening) :
    relation session (happenings.foldl happen session) := by
  induction happenings generalizing session with
  | nil => exact refl_of relation session
  | cons happening happenings inductionHypothesis =>
    exact trans_of relation (obeyed session happening) (inductionHypothesis _)

/-- The state that a session reaches. -/
def reached (options : Options) (happenings : List Happening) : Session :=
  happenings.foldl happen (fresh options)

/-- One happening more. -/
theorem reached_snoc (options : Options) (happenings : List Happening) (happening : Happening) :
    reached options (happenings ++ [happening]) =
      (reached options happenings).happen happening := by
  simp [reached]

/-- Surroundings in which every call succeeds, the server answers with nothing, and no document is
open. -/
def calm : Environment where
  peer := {
    listen := fun _ => .ok ()
    start := fun _ => .ok ()
    request := fun _ => .ok ⟨.number 0, none, none⟩
    notify := fun _ => .ok ()
    reply := fun _ => .ok ()
    stop := fun _ => .ok () }
  editor := {
    active := fun _ => none
    visible := fun _ => []
    documents := fun _ => []
    theme := fun _ => .light
    configuration := fun _ _ => none
    bindings := fun _ => .empty
    outcome := fun _ => .ok ()
    template := fun _ => none
    folder := fun _ => none
    picked := fun _ => none }
  files := ⟨[], [], []⟩
  processId := .null
  draw := fun drawn => "preview-" ++ toString drawn.length

end LanguageClient.Session
