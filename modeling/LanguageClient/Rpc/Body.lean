import LanguageClient.Rpc.Error

/-!
# Bodies of messages

Classification of a JSON body by the members it has, and the body of a message. The members that
decide the kind are looked at first; then the identifier, the method name and the error object
are decoded. A `null` identifier, result or error object counts as absent.
-/

namespace LanguageClient.Rpc

namespace Message

/-- A method name must be a text. -/
def methodName : Json → Except TransportError String
  | .string name => .ok name
  | other => .error (.protocol ("method is not a string: " ++ other.render))

/-- Decode with the transport's cause for a payload of the wrong shape. -/
def decodeWith {α : Type} (decode : Json.Decoder α) (value : Json) : Except TransportError α :=
  (decode value).mapError .ofDecode

/-- Classify a decoded body. -/
def ofJson : Json → Except TransportError Message
  | .object members =>
    let id := Json.nonNull? (Json.find? "id" members)
    let method := Json.find? "method" members
    let params := Json.orNull (Json.find? "params" members)
    match id, method with
    | some id, some method => do
      let id ← decodeWith RequestId.decode id
      let name ← methodName method
      .ok (.request ⟨id, name, params⟩)
    | none, some method => do
      let name ← methodName method
      .ok (.notification ⟨name, params⟩)
    | some id, none => do
      let error ← decodeWith (Json.nullable ResponseError.decode)
        (Json.orNull (Json.find? "error" members))
      let id ← decodeWith RequestId.decode id
      .ok (.response ⟨id, Json.nonNull? (Json.find? "result" members), error⟩)
    | none, none => .error (.protocol "message has neither id nor method")
  | _ => .error (.protocol "message is not a JSON object")

/-- The member that names the version of the message format. -/
def version : String × Json := ("jsonrpc", .string "2.0")

/-- The body of a message. -/
def toJson : Message → Json
  | .request call =>
    .ofFields [version, ("id", call.id.encode), ("method", .string call.method),
      ("params", call.params)]
  | .notification notice =>
    .ofFields [version, ("method", .string notice.method), ("params", notice.params)]
  | .response answer =>
    match answer.error with
    | some error => .ofFields [version, ("id", answer.id.encode), ("error", error.encode)]
    | none => .ofFields [version, ("id", answer.id.encode), ("result", Json.orNull answer.result)]

end Message

end LanguageClient.Rpc
