import LanguageClient.Json.Decode

/-!
# Messages

The three kinds of message that travel between client and server, with their identifiers and
error objects, and their JSON forms. A message body is an object; which members it has decides
its kind:

* a request has an `id` that is not `null` and a `method`;
* a notification has a `method` and no `id`, or a `null` one;
* a response has an `id` that is not `null` and no `method`.

A response that carries an error is written without its result.
-/

namespace LanguageClient.Rpc

/-- The identifier of a request. -/
inductive RequestId where
  | number (value : Int64)
  | text (value : String)
deriving DecidableEq, Repr

namespace RequestId

/-- The JSON form of an identifier. -/
def encode : RequestId → Json
  | .number value => .ofInt value.toInt
  | .text value => .string value

/-- Read an identifier: an integer of 64 bits or a text. -/
def decode : Json.Decoder RequestId
  | .number (.integer value) =>
    if -9223372036854775808 ≤ value ∧ value ≤ 9223372036854775807 then
      .ok (.number (Int64.ofInt value))
    else .error (.noVariant "RequestId")
  | .string value => .ok (.text value)
  | _ => .error (.noVariant "RequestId")

/-- An identifier as shown to a person. -/
def display : RequestId → String
  | .number value => String.ofList (Json.Number.writeInteger value.toInt)
  | .text value => Text.quoted value

end RequestId

/-- The error object of a failed response. -/
structure ResponseError where
  code : Int32
  message : String
  data : Option Json
deriving DecidableEq, Repr

namespace ResponseError

/-- An error without further data. -/
def plain (code : Int32) (message : String) : ResponseError := ⟨code, message, none⟩

/-- The code for parameters that do not decode. -/
def invalidParams : Int32 := -32602

/-- The code for a method that is not handled. -/
def methodNotFound : Int32 := -32601

/-- An error as shown to a person. -/
def display (error : ResponseError) : String :=
  error.message ++ " (" ++ String.ofList (Json.Number.writeInteger error.code.toInt) ++ ")"

/-- The JSON form of an error; absent data is left out. -/
def encode (error : ResponseError) : Json :=
  .ofFields ([("code", .ofInt error.code.toInt), ("message", .string error.message)] ++
    error.data.toList.map (("data", ·)))

/-- Members of an error object. -/
def layout : Json.Layout ResponseError :=
  (Json.Layout.nothing ResponseError.mk).and (.required "code" Json.signed32)
    |>.and (.required "message" Json.text)
    |>.and (.defaulted "data" (Json.nullable Json.anyValue) none)

/-- Read an error object. -/
def decode : Json.Decoder ResponseError := Json.record "ResponseError" layout

end ResponseError

/-- A call that expects an answer. -/
structure Request where
  id : RequestId
  method : String
  params : Json
deriving DecidableEq, Repr

namespace Request

/-- The JSON form of the parts of a request. -/
def encode (request : Request) : Json :=
  .ofFields [("id", request.id.encode), ("method", .string request.method),
    ("params", request.params)]

/-- Members of a request. -/
def layout : Json.Layout Request :=
  (Json.Layout.nothing Request.mk).and (.required "id" RequestId.decode)
    |>.and (.required "method" Json.text)
    |>.and (.defaulted "params" Json.anyValue .null)

/-- Read the parts of a request. -/
def decode : Json.Decoder Request := Json.record "AnyRequest" layout

end Request

/-- A call without an answer. -/
structure Notification where
  method : String
  params : Json
deriving DecidableEq, Repr

namespace Notification

/-- The JSON form of the parts of a notification. -/
def encode (notification : Notification) : Json :=
  .ofFields [("method", .string notification.method), ("params", notification.params)]

/-- Members of a notification. -/
def layout : Json.Layout Notification :=
  (Json.Layout.nothing Notification.mk).and (.required "method" Json.text)
    |>.and (.defaulted "params" Json.anyValue .null)

/-- Read the parts of a notification. -/
def decode : Json.Decoder Notification := Json.record "AnyNotification" layout

end Notification

/-- An answer to a request. A missing result stands for `null`. -/
structure Response where
  id : RequestId
  result : Option Json
  error : Option ResponseError
deriving DecidableEq, Repr

namespace Response

/-- The JSON form of the parts of a response; absent parts are left out. -/
def encode (response : Response) : Json :=
  .ofFields ([("id", response.id.encode)] ++ response.result.toList.map (("result", ·)) ++
    response.error.toList.map fun error => ("error", error.encode))

/-- Members of a response. -/
def layout : Json.Layout Response :=
  (Json.Layout.nothing Response.mk).and (.required "id" RequestId.decode)
    |>.and (.defaulted "result" (Json.nullable Json.anyValue) none)
    |>.and (.defaulted "error" (Json.nullable ResponseError.decode) none)

/-- Read the parts of a response. -/
def decode : Json.Decoder Response := Json.record "AnyResponse" layout

end Response

/-- A classified message. -/
inductive Message where
  | request (value : Request)
  | response (value : Response)
  | notification (value : Notification)
deriving DecidableEq, Repr

end LanguageClient.Rpc
