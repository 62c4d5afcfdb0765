import LanguageClient.Rpc.Message

/-!
# Why the connection to the server fails

The causes that a transport or a request can report, and their wording.
-/

namespace LanguageClient.Rpc

/-- Why a call over the transport failed. -/
inductive TransportError where
  /-- The connection ended. -/
  | serviceStopped
  /-- The server was never started. -/
  | notStarted
  /-- A body is not JSON at all. -/
  | malformed
  /-- A payload has the wrong shape. -/
  | deserialize (reason : String)
  /-- A payload cannot be written. -/
  | serialize (reason : String)
  /-- The server answered with an error. -/
  | response (error : ResponseError)
  /-- No answer arrived in time. -/
  | requestTimeout (method : String)
  /-- The server broke the rules of the conversation. -/
  | protocol (reason : String)
  /-- Reading or writing failed. -/
  | io (reason : String)
  /-- The input ended inside a frame. -/
  | eof
  /-- The server could not be started. -/
  | serverSpawn (server reason : String)
deriving DecidableEq, Repr

namespace TransportError

/-- The cause for a payload that does not decode. -/
def ofDecode (error : Json.DecodeError) : TransportError := .deserialize error.message

/-- Wording of a cause. -/
def message : TransportError → String
  | .serviceStopped => "service stopped"
  | .notStarted => "transport not started"
  | .malformed => "deserialization failed: malformed JSON"
  | .deserialize reason => "deserialization failed: " ++ reason
  | .serialize reason => "serialization failed: " ++ reason
  | .response error => error.display
  | .requestTimeout method => "request timed out: " ++ method
  | .protocol reason => "protocol error: " ++ reason
  | .io reason => reason
  | .eof => "the underlying channel reached EOF"
  | .serverSpawn server reason => "failed to spawn LSP server '" ++ server ++ "': " ++ reason

/-- Whether the cause concerns one payload only, so that the stream can be read on. -/
def isPayloadOnly : TransportError → Bool
  | .malformed | .deserialize _ => true
  | _ => false

end TransportError

end LanguageClient.Rpc
