import LanguageClient.Proofs.EventAnnouncements
import LanguageClient.Proofs.PreviewAccount

/-!
# Messages and word totals

Handling a message of the server never fails, whatever the message says and whatever the transport
and the editor make of the calls for it, with one exception. A report on a compilation may count
words and characters whose sum exceeds a word of 32 bits. Such a report has no display, and handling
it ends with an overflow, before the editor is called and whichever phase is reported. Every other
report is displayed, and the total on display is the exact sum.
-/

namespace LanguageClient

namespace WordCount

/-- The exact total of words and of characters of scripts without spaces. -/
def sum (count : WordCount) : Nat := count.words.toNat + count.cjkCharacters.toNat

/-- A sum that fits its word is displayed as it is. -/
theorem total?_eq_some {count : WordCount} (fits : count.sum < UInt32.size) :
    ∃ total, count.total? = some total ∧ total.toNat = count.sum := by
  refine ⟨UInt32.ofNat count.sum, if_pos fits, ?_⟩
  exact UInt32.toNat_ofNat_of_lt' fits

/-- A sum that does not fit has no total. -/
theorem total?_eq_none {count : WordCount} (exceeds : UInt32.size ≤ count.sum) :
    count.total? = none :=
  if_neg (Nat.not_lt.mpr exceeds)

end WordCount

namespace CompileStatus

/-- The total of a report, if it has word statistics. -/
def sum? (status : CompileStatus) : Option Nat := status.wordCount.map WordCount.sum

/-- The total of a report exceeds its word. -/
def Overflows (status : CompileStatus) : Prop := ∃ sum ∈ status.sum?, UInt32.size ≤ sum

/-- What a report should show: after a success the exact total, if there are statistics. -/
def summary (status : CompileStatus) : String :=
  match status.phase, status.sum? with
  | .compiling, _ => "Compiling"
  | .success, some sum => toString sum ++ " words"
  | .success, none => "Compiled"
  | .failure, _ => "Compile error"

/-- Only a report whose total exceeds its word has no display. -/
theorem display?_eq_none {status : CompileStatus} (overflows : status.Overflows) :
    status.display? = none := by
  obtain ⟨sum, reported, exceeds⟩ := overflows
  obtain ⟨count, counted, rfl⟩ := Option.map_eq_some_iff.mp reported
  rw [display?, counted]
  exact congrArg (Option.map _) (WordCount.total?_eq_none exceeds)

/-- Any other report is displayed with its summary. -/
theorem display?_eq_some {status : CompileStatus} (fits : ¬ status.Overflows) :
    status.display? = some ⟨level status.phase, status.summary, status.tooltip⟩ := by
  cases counted : status.wordCount with
  | none =>
    simp only [display?, displayWith, label, summary, sum?, counted]
    cases status.phase <;> rfl
  | some count =>
    have bounded : count.sum < UInt32.size := by
      refine Nat.lt_of_not_le fun exceeds => fits ⟨count.sum, ?_, exceeds⟩
      simp [sum?, counted]
    obtain ⟨total, totalled, exact⟩ := WordCount.total?_eq_some bounded
    simp only [display?, displayWith, label, summary, sum?, counted, totalled, ← exact,
      Option.map_some]
    cases status.phase <;> rfl

end CompileStatus

/-- The report on a compilation that a message carries, if it carries a readable one. -/
def Rpc.Message.compileStatus? : Rpc.Message → Option CompileStatus
  | .notification notice =>
    if notice.method = "tinymist/compileStatus" then (CompileStatus.decode notice.params).toOption
    else none
  | _ => none

/-- Only notifications carry reports. -/
theorem Rpc.Message.notification_of_compileStatus? {message : Rpc.Message} {status : CompileStatus}
    (reported : message.compileStatus? = some status) :
    ∃ notice, message = .notification notice := by
  cases message with
  | notification notice => exact ⟨notice, rfl⟩
  | request call => cases reported
  | response answer => cases reported

/-- A notification is decoded to a report exactly if it carries one. -/
theorem ServerNotification.decode_eq_compileStatus {notice : Rpc.Notification}
    {status : CompileStatus} :
    decode notice = .ok (.compileStatus status) ↔
      Rpc.Message.compileStatus? (.notification notice) = some status := by
  unfold decode
  split
  case h_1 named =>
    simp only [Rpc.Message.compileStatus?, named, if_true]
    cases CompileStatus.decode notice.params with
    | ok report => simp [Except.map, Except.toOption]
    | error error => simp [Except.map, Except.toOption]
  case h_2 named =>
    cases ScrollSource.decode notice.params <;> simp [Rpc.Message.compileStatus?, named, Except.map]
  case h_3 named => simp [Rpc.Message.compileStatus?, named]
  case h_4 named =>
    cases PreviewDispose.decode notice.params <;>
      simp [Rpc.Message.compileStatus?, named, Except.map]
  case h_5 unnamed _ _ _ =>
    simp [Rpc.Message.compileStatus?, if_neg unnamed]

namespace Session

variable (environment : Environment)

/-- Asking the editor does not overflow. -/
theorem ask_avoids (call : EditorCall) : Avoids .overflow (ask environment.editor call) := by
  intro session
  rw [run_ask]
  cases environment.editor.outcome (session.trace ++ [.editor call]) with
  | ok done => nofun
  | error reason => nofun

/-- What does not overflow succeeds once its failure is ignored. -/
theorem ignoring_succeeds {α : Type} {action : Action α} (avoids : Avoids .overflow action)
    (session : Session) : ((ignoring action).run session).1 = .ok () := by
  have avoided := avoids session
  have attempted := run_attempt action session
  cases outcome : action.run session with
  | mk result after =>
    rw [outcome] at avoided attempted
    cases result with
    | ok value => rw [ignoring, run_bind_ok attempted]; rfl
    | error halt =>
      cases halt with
      | failed error => rw [ignoring, run_bind_ok attempted]; rfl
      | overflow => exact absurd rfl avoided

/-- A report is displayed with its summary, or its total exceeds its word and nothing is done. -/
theorem run_compileStatus (status : CompileStatus) (session : Session) :
    (status.Overflows ∧
      (handleDecoded environment (.compileStatus status)).run session =
        (.error .overflow, session)) ∨
    (¬ status.Overflows ∧
      (handleDecoded environment (.compileStatus status)).run session =
        (.ok (), session.logging [.editor (.setStatus
          ⟨CompileStatus.level status.phase, status.summary, status.tooltip⟩)])) := by
  by_cases overflows : status.Overflows
  · refine .inl ⟨overflows, ?_⟩
    rw [handleDecoded, CompileStatus.display?_eq_none overflows]
    rfl
  · refine .inr ⟨overflows, ?_⟩
    rw [handleDecoded, CompileStatus.display?_eq_some overflows]
    rfl

/-- A message that carries no report is handled to the end. -/
theorem handleMessage_succeeds {message : Rpc.Message} (unreported : message.compileStatus? = none)
    (session : Session) : ((handleMessage environment message).run session).1 = .ok () := by
  cases message with
  | request call =>
    rw [handleMessage, handleRequest, run_get_bind, run_ignoring_overConnection]
  | response answer => rfl
  | notification notice =>
    rw [handleMessage, handleNotification]
    cases decoded : ServerNotification.decode notice with
    | error error => rfl
    | ok notification =>
      cases notification with
      | compileStatus status =>
        rw [ServerNotification.decode_eq_compileStatus.mp decoded] at unreported
        cases unreported
      | scrollSource scroll =>
        dsimp only [handleDecoded]
        cases scroll.range? with
        | some range => exact ignoring_succeeds (ask_avoids environment _) session
        | none => rfl
      | documentOutline outline => rfl
      | previewDispose dispose =>
        dsimp only [handleDecoded]
        rw [run_bind_ok (disposeTask_run dispose.taskId session)]
        rfl
      | other method => rfl

/-- Handling a message comes to its end unless the message is a report on a compilation whose total
exceeds a word of 32 bits. Such a report, of whatever phase, ends it with an overflow, and nothing
was done. Any other report is displayed: this is the one call, and after a success it shows the
exact sum of words and of characters of scripts without spaces. -/
theorem messages_complete_unless_total_overflows (session : Session) (message : Rpc.Message) :
    let outcome := (handleMessage environment message).run session
    (outcome.1 = .ok () ↔ ∀ status ∈ message.compileStatus?, ¬ status.Overflows) ∧
    ∀ status ∈ message.compileStatus?,
      (status.Overflows → outcome = (.error .overflow, session)) ∧
      (¬ status.Overflows → outcome = (.ok (), session.logging [.editor (.setStatus
        ⟨CompileStatus.level status.phase, status.summary, status.tooltip⟩)])) := by
  intro outcome
  cases reported : message.compileStatus? with
  | none =>
    have completed := handleMessage_succeeds environment reported session
    exact ⟨⟨fun _ => by simp, fun _ => completed⟩, by simp⟩
  | some status =>
    obtain ⟨notice, rfl⟩ := Rpc.Message.notification_of_compileStatus? reported
    have handled : outcome = (handleDecoded environment (.compileStatus status)).run session := by
      simp only [outcome, handleMessage, handleNotification,
        ServerNotification.decode_eq_compileStatus.mpr reported]
    simp only [Option.mem_some_iff, forall_eq']
    rw [handled]
    obtain ⟨overflows, halts⟩ | ⟨fits, displays⟩ := run_compileStatus environment status session
    · rw [halts]
      refine ⟨⟨fun completed => ?_, absurd overflows⟩, fun _ => rfl, absurd overflows⟩
      cases completed
    · rw [displays]
      exact ⟨⟨fun _ => fits, fun _ => rfl⟩, fun overflows => absurd overflows fits, fun _ => rfl⟩

/-- A report on a success with these counts. -/
def successOf (words cjkCharacters : Nat) : Rpc.Message :=
  .notification ⟨"tinymist/compileStatus", .ofFields
    [("status", .string "CompileSuccess"), ("path", .string "/main.typ"), ("wordsCount", .ofFields
      [("words", .ofNat words), ("chars", .ofNat 0), ("spaces", .ofNat 0),
        ("cjkChars", .ofNat cjkCharacters)])]⟩

/-- The largest total that fits its word is displayed in full; one character more, and the message
is not handled. -/
theorem one_character_too_many_overflows :
    let session := fresh (.inWorkspace (.fixed "tinymist") "/")
    (handleMessage calm (successOf 4294967294 1)).run session =
      (.ok (), session.logging [.editor (.setStatus ⟨.success, "4294967295 words",
        "/main.typ (0 pages)" ++ CompileStatus.countLine ⟨4294967294, 0, 0, 1⟩⟩)]) ∧
    (handleMessage calm (successOf 4294967294 2)).run session = (.error .overflow, session) := by
  intro session
  let status (cjkCharacters : UInt32) : CompileStatus :=
    ⟨.success, "/main.typ", 0, some ⟨4294967294, 0, 0, cjkCharacters⟩⟩
  have fitting : (successOf 4294967294 1).compileStatus? = some (status 1) := by decide +kernel
  have exceeding : (successOf 4294967294 2).compileStatus? = some (status 2) := by decide +kernel
  have fits : ¬ (status 1).Overflows := by
    rintro ⟨sum, reported, exceeds⟩
    obtain rfl : 4294967295 = sum := Option.some.inj reported
    exact absurd exceeds (by decide)
  have overflows : (status 2).Overflows := ⟨4294967296, rfl, Nat.le_refl _⟩
  obtain ⟨-, shown⟩ := messages_complete_unless_total_overflows calm session (successOf 4294967294 1)
  obtain ⟨-, halted⟩ :=
    messages_complete_unless_total_overflows calm session (successOf 4294967294 2)
  have text : (status 1).summary = "4294967295 words" := by decide +kernel
  have tooltip : (status 1).tooltip =
      "/main.typ (0 pages)" ++ CompileStatus.countLine ⟨4294967294, 0, 0, 1⟩ := by decide +kernel
  have displayed := (shown (status 1) fitting).2 fits
  rw [text, tooltip] at displayed
  exact ⟨displayed, (halted (status 2) exceeding).1 overflows⟩

end Session

end LanguageClient
