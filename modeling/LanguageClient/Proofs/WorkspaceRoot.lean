import LanguageClient.Proofs.FileUris
import LanguageClient.Proofs.Members
import LanguageClient.Proofs.StartUpTraffic

/-!
# The workspace root that the server is told

The server learns of the workspace from the introduction of the client alone. It is told the root
and one folder if the root has a file URI, and otherwise no root at all: nothing fails then, and the
server is launched in the root all the same. An absolute root has a file URI unless it holds one of
the four unwritable characters, so this is the exact extent to which a workspace stays unknown to
its server.
-/

namespace LanguageClient

namespace Connection

/-- The folder that a workspace consists of. -/
def folder (uri : Uri) : Json :=
  .ofFields [("name", .string (folderName uri)), ("uri", uri.encode)]

/-- An introduction with a root: the root is named, and it is the one folder of the workspace. -/
structure TellsRoot (said : Json) (uri : Uri) : Prop where
  root : said.member? "rootUri" = some uri.encode
  folders : said.member? "workspaceFolders" = some (.array [folder uri])

/-- An introduction without a root: `null` stands in its place, and no folders are mentioned. -/
structure TellsNoRoot (said : Json) : Prop where
  root : said.member? "rootUri" = some .null
  folders : said.member? "workspaceFolders" = none

variable (processId : Json) (options : Option Json)

/-- The root is told as it is given, and the folders follow it. -/
theorem member?_introduction (root : Option Uri) :
    (introduction processId root options).member? "rootUri" =
        some (Json.orNull (root.map Uri.encode)) ∧
      (introduction processId root options).member? "workspaceFolders" =
        root.map fun uri => .array [folder uri] := by
  simp only [introduction, Json.ofFields, Json.member?]
  constructor
  · rw [Json.find?_sortMembers]
    · rfl
    · cases root <;> cases options <;> simp
  · rw [Json.find?_sortMembers]
    · cases root <;> cases options <;> rfl
    · cases root <;> cases options <;> simp

/-- An introduction that is given a root tells it. -/
theorem tellsRoot_introduction (uri : Uri) :
    TellsRoot (introduction processId (some uri) options) uri :=
  ⟨(member?_introduction processId options (some uri)).1,
    (member?_introduction processId options (some uri)).2⟩

/-- An introduction that is given no root tells none. -/
theorem tellsNoRoot_introduction : TellsNoRoot (introduction processId none options) :=
  ⟨(member?_introduction processId options none).1, (member?_introduction processId options none).2⟩

end Connection

/-- What the client says in a call that introduces it. -/
def Call.introduction? : Call → Option Json
  | .request sent _ => if sent.method = "initialize" then some sent.params else none
  | .start _ | .stop | .notification _ | .reply _ _ | .editor _ => none

/-- What the client said when it was introduced, each time. -/
def Trace.introductions (trace : Trace) : List Json := trace.filterMap Call.introduction?

namespace Session

variable (environment : Environment)

/-- The client is introduced once in the conversation that follows a launch. -/
theorem introductions_preliminaries (settled : Session) (launched : Trace) :
    Trace.introductions (preliminaries environment settled launched) =
      [startupIntroduction environment settled] := by
  have unsaid (opened : List Document) :
      (opened.map DocumentSync.openingCall).filterMap Call.introduction? = [] := by
    refine List.filterMap_eq_nil_iff.mpr fun call inside => ?_
    obtain ⟨document, -, rfl⟩ := List.mem_map.mp inside
    rfl
  simp only [Trace.introductions, preliminaries, List.filterMap_append, unsaid, List.append_nil]
  rfl

/-- A start that breaks off has introduced the client at most once. -/
theorem BreaksOff.introductions {environment : Environment} {session : Session} {calls : List Call}
    {running : Bool} (breaks : BreaksOff environment session calls running) :
    Trace.introductions calls <+:
      [startupIntroduction environment (session.settle environment)] := by
  cases breaks with
  | unlaunched => exact List.nil_prefix
  | refused refused => exact List.nil_prefix
  | @interrupted config made chosen succeeded part =>
    have said := part.filterMap Call.introduction?
    rwa [← Trace.introductions, ← Trace.introductions, introductions_preliminaries] at said

/-- Undoing a start introduces nobody. -/
theorem introductions_undoingCalls (left : Session) (error : ClientError) :
    Trace.introductions (left.undoingCalls error) = [] := by
  have closing : ((left.tasks.tasks.map Prod.snd).map Call.editor).filterMap Call.introduction? =
      [] := by
    refine List.filterMap_eq_nil_iff.mpr fun call inside => ?_
    obtain ⟨teardown, -, rfl⟩ := List.mem_map.mp inside
    rfl
  simp only [Trace.introductions, undoingCalls, List.filterMap_append, closing]
  cases left.isRunning <;> rfl

/-- A start that completes has introduced the client once. -/
theorem introductions_completeCalls (session : Session) (indicator : Bool) :
    Trace.introductions (completeCalls environment session indicator) =
      [startupIntroduction environment (session.settle environment)] := by
  have unsaid :
      Trace.introductions (launchCalls environment (session.settle environment)) = [] := by
    refine List.filterMap_eq_nil_iff.mpr fun call inside => ?_
    obtain ⟨binary, -, rfl⟩ := List.mem_map.mp inside
    rfl
  have said := introductions_preliminaries environment (session.settle environment)
  simp only [Trace.introductions] at unsaid said
  simp only [Trace.introductions, completeCalls, List.filterMap_append, unsaid, said]
  rfl

/-- A start introduces the client at most once, and once if it succeeds, with the root of the
workspace. -/
theorem start_introduces (session : Session) :
    let outcome := (start environment).run session
    ∃ calls, outcome.2.trace = session.trace ++ calls ∧
      Trace.introductions calls <+:
        [startupIntroduction environment (session.settle environment)] ∧
      (outcome.1 = .ok () → Trace.introductions calls =
        [startupIntroduction environment (session.settle environment)]) := by
  intro outcome
  by_cases idle : session.lifecycle = .idle
  · obtain ⟨error, left, begun, running, broke, breaks, trace, -, -⟩ |
        ⟨after, indicator, completed, trace⟩ := bringUp_cases environment session
    · have failed : outcome = (.error (.failed error), left.undone error) :=
        start_undone environment idle broke
      refine ⟨begun ++ left.undoingCalls error, ?_, ?_, ?_⟩
      · rw [failed, undone_trace, trace, List.append_assoc]
      · have said := breaks.introductions
        have silent := introductions_undoingCalls left error
        simp only [Trace.introductions] at said silent ⊢
        rwa [List.filterMap_append, silent, List.append_nil]
      · rw [failed]
        intro completed
        cases completed
    · have succeeded : outcome = (.ok (), after) := start_completed environment idle completed
      have said := introductions_completeCalls environment session indicator
      refine ⟨completeCalls environment session indicator, ?_, ?_, fun _ => said⟩
      · rw [succeeded, trace]
      · exact said ▸ List.prefix_rfl
  · have refused : outcome = (.error (.failed .alreadyStarted), session) :=
      (run_start environment session).trans (if_neg idle)
    refine ⟨[], ?_, List.nil_prefix, ?_⟩
    · rw [refused, List.append_nil]
    · rw [refused]
      intro completed
      cases completed

/-- The server is told an absolute workspace root exactly if the root holds no unwritable
character. Without one the root has a file URI, and the introduction of every start names it and has
it as the one folder; with one the root has no file URI, and every introduction is without a root. A
start that succeeds introduces the client once, so in the second case a session runs whose server
was never told its workspace.

Proof: the names of an absolute path are encoded, and what is encoded is allowed in a URI; the
unwritable characters are the ones that are neither. The introduction repeats the URI or its
absence. -/
theorem root_is_told_iff_writable {session : Session}
    (absolute : Path.isAbsolute session.options.root.toList = true) :
    let root := session.options.root.toList
    let outcome := (start environment).run session
    ((Uri.ofFilePath? root).isSome = true ↔
      ∀ character ∈ root, Uri.isUnwritable character = false) ∧
    ∃ calls, outcome.2.trace = session.trace ++ calls ∧
      (Trace.introductions calls).length ≤ 1 ∧
      (outcome.1 = .ok () → (Trace.introductions calls).length = 1) ∧
      ∀ said ∈ Trace.introductions calls,
        ((∀ character ∈ root, Uri.isUnwritable character = false) →
          ∃ uri, Uri.ofFilePath? root = some uri ∧ Connection.TellsRoot said uri) ∧
        ((∃ character ∈ root, Uri.isUnwritable character = true) →
          Connection.TellsNoRoot said) := by
  intro root outcome
  have writable := Uri.ofFilePath?_isSome_iff absolute
  obtain ⟨calls, trace, part, whole⟩ := start_introduces environment session
  refine ⟨writable, calls, trace, part.length_le, fun succeeded => ?_, fun said inside => ?_⟩
  · rw [whole succeeded]
    rfl
  · have introduced : said = Connection.introduction environment.processId (Uri.ofFilePath? root)
        (some (session.settle environment).resolved.toJson) :=
      List.mem_singleton.mp (part.subset inside)
    subst introduced
    constructor
    · intro allWritable
      obtain ⟨uri, named⟩ := Option.isSome_iff_exists.mp (writable.mpr allWritable)
      rw [named]
      exact ⟨uri, rfl, Connection.tellsRoot_introduction _ _ uri⟩
    · rintro ⟨character, inside, unwritable⟩
      have nameless : Uri.ofFilePath? root = none := by
        rw [← Option.not_isSome_iff_eq_none, writable]
        intro allWritable
        rw [allWritable character inside] at unwritable
        cases unwritable
      rw [nameless]
      exact Connection.tellsNoRoot_introduction _ _

/-- A session in a directory that is named with brackets. -/
def bracketed : Session := fresh (.inWorkspace (.fixed "tinymist") "/work/[draft]")

/-- A session in a directory with brackets is started, and the server is told no root. -/
theorem bracketed_root_is_not_told :
    ((start (reporting [])).run bracketed).1 = .ok () ∧
      ∃ said, Trace.introductions ((start (reporting [])).run bracketed).2.trace = [said] ∧
        Connection.TellsNoRoot said := by
  have succeeds : ((start (reporting [])).run bracketed).1 = .ok () := by decide +kernel
  obtain ⟨-, calls, trace, -, once, told⟩ :=
    @root_is_told_iff_writable (reporting []) bracketed (by decide +kernel)
  obtain ⟨said, same⟩ := List.length_eq_one_iff.mp (once succeeds)
  have fromStart : ((start (reporting [])).run bracketed).2.trace = calls := trace
  refine ⟨succeeds, said, fromStart ▸ same, (told said ?_).2 ⟨'[', ?_, ?_⟩⟩
  · rw [same]
    exact List.mem_cons_self
  · decide +kernel
  · decide +kernel

end Session

end LanguageClient
