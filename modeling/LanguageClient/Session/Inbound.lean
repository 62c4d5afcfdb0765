import LanguageClient.ServerNotification
import LanguageClient.Session.Lifecycle
import LanguageClient.Settings.Pull

/-!
# Messages of the server

Every request of the server is answered exactly once. Notifications that the client knows are
shown in the editor; one that does not decode is dropped. Answers that match no request are
dropped as well.
-/

namespace LanguageClient.Session

/-- Answer a pull of the configuration. -/
def answerPull (environment : Environment) (trace : Trace) (params : Json) : Reply :=
  match Settings.Pull.decode params with
  | .error error => .error (.plain Rpc.ResponseError.invalidParams error.message)
  | .ok pull =>
    .result (.array (pull.answers (environment.editor.configuration trace)
      (bindings environment.editor trace)))

/-- The reply to a request of the server. -/
def replyTo (environment : Environment) (trace : Trace) (request : Rpc.Request) : Reply :=
  match request.method with
  | "workspace/configuration" => answerPull environment trace request.params
  | "window/workDoneProgress/create" => .result .null
  | method => .error (.plain Rpc.ResponseError.methodNotFound ("method not found: " ++ method))

/-- Handle a request of the server. A reply that cannot be sent is given up. -/
def handleRequest (environment : Environment) (request : Rpc.Request) : Action Unit := do
  let session ← get
  ignoring (overConnection (Connection.reply environment.peer request.id
    (replyTo environment session.trace request)))

/-- Handle a decoded notification. -/
def handleDecoded (environment : Environment) : ServerNotification → Action Unit
  | .compileStatus status =>
    match status.display? with
    | some display => tell (.setStatus display)
    | none => throw .overflow
  | .scrollSource scroll =>
    match scroll.range? with
    | some range => ignoring (ask environment.editor (.showRange scroll.path range))
    | none => return
  | .documentOutline outline => tell (.updateOutline outline)
  | .previewDispose dispose => do
    let _ ← disposeTask dispose.taskId
    return
  | .other _ => return

/-- Handle a notification of the server. -/
def handleNotification (environment : Environment) (notification : Rpc.Notification) :
    Action Unit :=
  match ServerNotification.decode notification with
  | .ok decoded => handleDecoded environment decoded
  | .error _ => return

/-- Handle one message of the server. -/
def handleMessage (environment : Environment) : Rpc.Message → Action Unit
  | .request call => handleRequest environment call
  | .notification notice => handleNotification environment notice
  | .response _ => return

end LanguageClient.Session
