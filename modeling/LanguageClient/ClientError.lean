import LanguageClient.Rpc.Error
import LanguageClient.Server.Binary
import LanguageClient.TaskRegistry

/-!
# Why a session fails

The causes that starting a session, running it and its commands can report, and their wording.
-/

namespace LanguageClient

/-- Why an operation of a session failed. -/
inductive ClientError where
  /-- A request was rejected or the connection failed. -/
  | transport (cause : Rpc.TransportError)
  /-- A task under the same identifier is live. -/
  | duplicateTask (duplicate : DuplicateTask)
  /-- No server binary passed its probe. -/
  | serverBinary (notFound : Server.NotFound)
  /-- A code lens carries a tag without an action. -/
  | unknownCodeLens (tag : String)
  /-- The session was started before. -/
  | alreadyStarted
  /-- The session is not running. -/
  | notRunning
  /-- The command needs an active document. -/
  | noActiveDocument
  /-- The user dismissed a prompt that the command depends on. -/
  | cancelled
  /-- The editor failed to do what it was asked. -/
  | editor (reason : String)
deriving DecidableEq, Repr

/-- Wording of a cause. -/
def ClientError.message : ClientError → String
  | .transport cause => "language server: " ++ cause.message
  | .duplicateTask duplicate => duplicate.message
  | .serverBinary notFound => notFound.message
  | .unknownCodeLens tag => "unknown code lens action: " ++ tag
  | .alreadyStarted => "session already started"
  | .notRunning => "session not running"
  | .noActiveDocument => "no active document"
  | .cancelled => "cancelled"
  | .editor reason => "host: " ++ reason

end LanguageClient
