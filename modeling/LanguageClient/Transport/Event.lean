import LanguageClient.Rpc.Message

/-!
# Events of the transport

What a transport reports without being asked: messages of the server that are not answers,
changes of the server process, and the end of the conversation.
-/

namespace LanguageClient

/-- A change of the server process. -/
inductive TransportStatus where
  | starting
  | running
  /-- The server ended its output. -/
  | stopped
  /-- Reading or writing failed. -/
  | crashed
deriving DecidableEq, Repr

/-- Something that the transport reports. -/
inductive TransportEvent where
  | message (message : Rpc.Message)
  | status (status : TransportStatus)
  /-- The conversation ended. -/
  | disconnected
deriving DecidableEq, Repr

/-- Events that wait to be read, and whether more can follow. -/
structure Arrivals where
  queue : List TransportEvent
  ended : Bool
deriving DecidableEq, Repr

namespace Arrivals

/-- Nothing waits and more can follow. -/
def empty : Arrivals := ⟨[], false⟩

/-- Another event arrives. After the end nothing arrives. -/
def push (arrivals : Arrivals) (event : TransportEvent) : Arrivals :=
  if arrivals.ended then arrivals else { arrivals with queue := arrivals.queue ++ [event] }

/-- Nothing follows any more. -/
def close (arrivals : Arrivals) : Arrivals := { arrivals with ended := true }

end Arrivals

end LanguageClient
