import LanguageClient.Proofs.Members
import LanguageClient.Rpc.Body

/-!
# A body is classified as the message it was made of

The body of a message has the members that decide its kind, and its identifier and error object
decode to those of the message. What a body cannot tell apart is dropped: the result of a response
that carries an error, and a result or error data that is `null`.
-/

namespace LanguageClient.Rpc

/-- An identifier decodes from its own JSON form. -/
theorem RequestId.decode_encode (id : RequestId) : decode id.encode = .ok id := by
  cases id with
  | text value => rfl
  | number value =>
    have least : -9223372036854775808 ≤ value.toInt := value.le_toInt
    have greatest : value.toInt ≤ 9223372036854775807 := Int.le_of_lt_add_one value.toInt_lt
    simp [encode, Json.ofInt, decode, least, greatest]

/-- The JSON form of an identifier is never `null`. -/
theorem RequestId.nonNull_encode (id : RequestId) :
    Json.nonNull? (some id.encode) = some id.encode := by
  cases id <;> rfl

/-- An error object as it arrives: data that is `null` is none. -/
def ResponseError.normal (error : ResponseError) : ResponseError :=
  { error with data := Json.nonNull? error.data }

/-- A code decodes from its own JSON form. -/
theorem decode_code (code : Int32) : Json.signed32 (.ofInt code.toInt) = .ok code := by
  have least : -2147483648 ≤ code.toInt := code.le_toInt
  have greatest : code.toInt ≤ 2147483647 := Int.le_of_lt_add_one code.toInt_lt
  simp [Json.signed32, Json.ofInt, Json.boundedInteger, least, greatest, Except.map]

/-- Any value decodes as itself, and `null` as none. -/
theorem decode_nullable (value : Json) :
    Json.nullable Json.anyValue value = .ok (Json.nonNull? (some value)) := by
  cases value <;> rfl

/-- An error object decodes from its own JSON form. -/
theorem ResponseError.decode_encode (error : ResponseError) :
    decode error.encode = .ok error.normal := by
  obtain ⟨code, message, data⟩ := error
  cases data with
  | none =>
    have members : encode ⟨code, message, none⟩ =
        .object [("code", .ofInt code.toInt), ("message", .string message)] := rfl
    rw [members]
    simp [decode, Json.record, Json.Layout.fromMembers, layout, Json.Layout.and,
      Json.Layout.nothing, Json.Member.required, Json.Member.defaulted, decode_code, Json.text,
      Json.Layout.memberOfObject, Json.find?, normal, Json.nonNull?, bind, Except.bind, Except.map,
      pure, Except.pure]
  | some value =>
    have members : encode ⟨code, message, some value⟩ = .object [("code", .ofInt code.toInt),
        ("data", value), ("message", .string message)] := rfl
    rw [members]
    simp [decode, Json.record, Json.Layout.fromMembers, layout, Json.Layout.and,
      Json.Layout.nothing, Json.Member.required, Json.Member.defaulted, decode_code, Json.text,
      decode_nullable, Json.Layout.memberOfObject, Json.find?, normal, bind, Except.bind,
      Except.map, pure, Except.pure]

/-- A message as it arrives. A response that carries an error has no result, and `null` as result
or error data is none. -/
def Message.normal : Message → Message
  | .response answer =>
    match answer.error with
    | some error => .response ⟨answer.id, none, some error.normal⟩
    | none => .response ⟨answer.id, Json.nonNull? answer.result, none⟩
  | message => message

namespace Message

/-- Decoding with the transport's cause succeeds where decoding does. -/
theorem decodeWith_ok {α : Type} {decode : Json.Decoder α} {value : Json} {result : α}
    (decoded : decode value = .ok result) : decodeWith decode value = .ok result := by
  rw [decodeWith, decoded]
  rfl

/-- A missing value and `null` are both none. -/
theorem nonNull_orNull (value : Option Json) :
    Json.nonNull? (some (Json.orNull value)) = Json.nonNull? value := by
  cases value <;> rfl

/-- An error object in a response decodes from its own JSON form, which is not `null`. -/
theorem decode_error (error : ResponseError) :
    Json.nullable ResponseError.decode error.encode = .ok (some error.normal) := by
  change (ResponseError.decode error.encode).map some = _
  rw [ResponseError.decode_encode]
  rfl

/-- The body of a message is classified as that message. -/
theorem ofJson_toJson (message : Message) : ofJson message.toJson = .ok message.normal := by
  cases message with
  | request call =>
    simp [toJson, Json.ofFields, ofJson, Json.sortMembers, Json.find?_insertMember, version,
      RequestId.nonNull_encode, decodeWith_ok (RequestId.decode_encode call.id), methodName, normal,
      Json.orNull, bind, Except.bind]
  | notification notice =>
    simp [toJson, Json.ofFields, ofJson, Json.sortMembers, Json.find?_insertMember, version,
      methodName, normal, Json.orNull, Json.nonNull?, Json.find?, bind, Except.bind]
  | response answer =>
    obtain ⟨id, result, error⟩ := answer
    have identified := decodeWith_ok (RequestId.decode_encode id)
    cases error with
    | none =>
      have missing : decodeWith (Json.nullable ResponseError.decode) (Json.orNull none) =
          .ok none := rfl
      simp [toJson, Json.ofFields, ofJson, Json.sortMembers, Json.find?_insertMember, version,
        RequestId.nonNull_encode, identified, missing, nonNull_orNull, normal, Json.find?, bind,
        Except.bind]
    | some error =>
      have present : decodeWith (Json.nullable ResponseError.decode)
          (Json.orNull (some error.encode)) = .ok (some error.normal) :=
        decodeWith_ok (decode_error error)
      have dropped : Json.nonNull? none = none := rfl
      simp [toJson, Json.ofFields, ofJson, Json.sortMembers, Json.find?_insertMember, version,
        RequestId.nonNull_encode, identified, present, dropped, normal, Json.find?, bind,
        Except.bind]

end Message

end LanguageClient.Rpc
