import LanguageClient.Proofs.MessageBody

/-!
# Classification is stable

The members `id` and `method` of a body decide what kind of message it is, and a body that is
accepted is of the kind that they say. What was accepted is already as it arrives: a `null` among
its result and error data was dropped when it was read, whether the error object was given with
names or as a list. So writing an accepted message and reading it again gives the same message. One
part alone is lost, the result of a response that carries an error as well, and it is lost in the
writing, so that the second body is the first one.
-/

namespace LanguageClient

namespace Json

/-- A computation in two steps succeeds only if both do. -/
theorem of_bind_ok {ε α β : Type} {first : Except ε α} {next : α → Except ε β} {result : β}
    (done : first >>= next = .ok result) :
    ∃ value, first = .ok value ∧ next value = .ok result := by
  cases first with
  | error error => cases done
  | ok value => exact ⟨value, rfl, done⟩

/-- Every value that a member of a record can have, read or by default, has a property. -/
structure Member.Ensures {α : Type} (member : Member α) (held : α → Prop) : Prop where
  read : ∀ {json : Json} {value : α}, member.decode json = .ok value → held value
  missing : ∀ value ∈ member.whenMissing, held value
  short : ∀ value ∈ member.whenShort, held value

/-- A member of which nothing is asked. -/
theorem Member.ensures_true {α : Type} (member : Member α) : member.Ensures fun _ => True where
  read := fun _ => trivial
  missing := fun _ _ => trivial
  short := fun _ _ => trivial

/-- Everything that a layout builds, from an object or from an array, has a property. -/
structure Layout.Ensures {α : Type} (layout : Layout α) (property : α → Prop) : Prop where
  object : ∀ {members : List (String × Json)} {value : α},
    layout.ofObject members = .ok value → property value
  array : ∀ {expected : Expectation} {items rest : List Json} {value : α},
    layout.ofArray expected items = .ok (value, rest) → property value

namespace Layout

/-- A layout without members builds one value. -/
theorem ensures_nothing {α : Type} {property : α → Prop} {value : α} (holds : property value) :
    (Layout.nothing value).Ensures property where
  object := by
    intro members built same
    exact Except.ok.inj same ▸ holds
  array := by
    intro expected items rest built same
    exact (Prod.mk.inj (Except.ok.inj same)).1 ▸ holds

/-- The value of a member in an object has the property that the member ensures. -/
theorem memberOfObject_ensured {α : Type} {member : Member α} {held : α → Prop}
    (ensures : member.Ensures held) {members : List (String × Json)} {value : α}
    (done : memberOfObject member members = .ok value) : held value := by
  unfold memberOfObject at done
  split at done
  · exact ensures.read done
  · rename_i default _ missing
    exact Except.ok.inj done ▸ ensures.missing default missing
  · cases done

/-- The value of a member in an array has the property that the member ensures. -/
theorem memberOfArray_ensured {α : Type} {member : Member α} {held : α → Prop}
    (ensures : member.Ensures held) {index : Nat} {expected : Expectation}
    {items rest : List Json} {value : α}
    (done : memberOfArray member index expected items = .ok (value, rest)) : held value := by
  cases items with
  | cons item items =>
    rw [memberOfArray] at done
    cases read : member.decode item with
    | error error => simp [read, Except.map] at done
    | ok found =>
      simp only [read, Except.map, Except.ok.injEq, Prod.mk.injEq] at done
      exact done.1 ▸ ensures.read read
  | nil =>
    rw [memberOfArray] at done
    split at done
    · rename_i default short
      exact (Prod.mk.inj (Except.ok.inj done)).1 ▸ ensures.short default short
    · cases done

/-- One more member: what was built so far and the value of the member together ensure the property
of what is built from both. -/
theorem Ensures.and {α β : Type} {layout : Layout (α → β)} {member : Member α}
    {built : (α → β) → Prop} {held : α → Prop} {property : β → Prop}
    (before : layout.Ensures built) (last : member.Ensures held)
    (together : ∀ build value, built build → held value → property (build value)) :
    (layout.and member).Ensures property where
  object := by
    intro members result done
    obtain ⟨build, first, done⟩ := of_bind_ok done
    obtain ⟨value, second, done⟩ := of_bind_ok done
    obtain rfl := Except.ok.inj done
    exact together build value (before.object first) (memberOfObject_ensured last second)
  array := by
    intro expected items rest result done
    obtain ⟨⟨build, left⟩, first, done⟩ := of_bind_ok done
    obtain ⟨⟨value, left⟩, second, done⟩ := of_bind_ok done
    obtain ⟨rfl, rfl⟩ := Prod.mk.inj (Except.ok.inj done)
    exact together build value (before.array first) (memberOfArray_ensured last second)

end Layout

/-- What is read as a record has the property that its layout ensures. -/
theorem record_ensured {α : Type} {name : String} {layout : Layout α} {property : α → Prop}
    (ensures : layout.Ensures property) {json : Json} {value : α}
    (done : record name layout json = .ok value) : property value := by
  cases json with
  | object members =>
    obtain ⟨_, _, built⟩ := of_bind_ok done
    exact ensures.object built
  | array items =>
    obtain ⟨⟨built, rest⟩, first, done⟩ := of_bind_ok done
    dsimp only at done
    split at done
    · exact Except.ok.inj done ▸ ensures.array first
    · cases done
  | _ => cases done

/-- What is not dropped was there and is not `null`. -/
theorem of_nonNull?_eq_some {found : Option Json} {value : Json}
    (kept : nonNull? found = some value) : found = some value ∧ value ≠ .null := by
  unfold nonNull? at kept
  split at kept
  · cases kept
  · rename_i other
    subst kept
    refine ⟨rfl, ?_⟩
    rintro rfl
    exact other rfl

/-- What is dropped was not there or is `null`. -/
theorem of_nonNull?_eq_none {found : Option Json} (dropped : nonNull? found = none) {value : Json}
    (there : found = some value) : value = .null := by
  subst there
  cases value with
  | null => rfl
  | _ => cases dropped

/-- What was kept once is kept again. -/
theorem nonNull?_nonNull? (found : Option Json) :
    nonNull? (nonNull? found) = nonNull? found := by
  cases kept : nonNull? found with
  | none => rfl
  | some value =>
    obtain ⟨rfl, -⟩ := of_nonNull?_eq_some kept
    exact kept

/-- A payload that is not `null` is read by its own decoder. -/
theorem of_nullable_some {α : Type} {decode : Decoder α} {json : Json} {value : α}
    (read : nullable decode json = .ok (some value)) : decode json = .ok value := by
  unfold nullable at read
  split at read
  · cases read
  · cases decoded : decode json with
    | error error => simp [decoded, Except.map] at read
    | ok found => simpa [decoded, Except.map] using read

end Json

namespace Rpc

namespace ResponseError

/-- The data of an error object is not `null` when it was read. -/
theorem data_ensures :
    (Json.Member.defaulted "data" (Json.nullable Json.anyValue) none).Ensures
      fun data => Json.nonNull? data = data where
  read := by
    intro json data read
    have same := (decode_nullable json).symm.trans read
    rw [← Except.ok.inj same, Json.nonNull?_nonNull?]
  missing := by
    rintro data ⟨⟩
    rfl
  short := by
    rintro data ⟨⟩
    rfl

/-- The data of an error object that is built is what was read as its last member. -/
theorem layout_ensures : layout.Ensures fun error => Json.nonNull? error.data = error.data := by
  -- What is built so far takes the data as it comes, whatever code and message it was given.
  have start : (Json.Layout.nothing ResponseError.mk).Ensures
      fun build => ∀ code message data, (build code message data).data = data :=
    Json.Layout.ensures_nothing fun _ _ _ => rfl
  have coded : ((Json.Layout.nothing ResponseError.mk).and
      (.required "code" Json.signed32)).Ensures
      fun build => ∀ message data, (build message data).data = data :=
    start.and (Json.Member.ensures_true _) fun build code built _ => built code
  have worded : (((Json.Layout.nothing ResponseError.mk).and
      (.required "code" Json.signed32)).and (.required "message" Json.text)).Ensures
      fun build => ∀ data, (build data).data = data :=
    coded.and (Json.Member.ensures_true _) fun build message built _ => built message
  apply worded.and data_ensures
  intro build data built kept
  rw [built, kept]

/-- An error object that was read is as it arrives. -/
theorem normal_of_decode {json : Json} {error : ResponseError}
    (read : decode json = .ok error) : error.normal = error := by
  have kept := Json.record_ensured layout_ensures read
  rw [normal, kept]

end ResponseError

/-- A body has an identifier that is not `null`. -/
def HasId (body : Json) : Prop := ∃ id, body.member? "id" = some id ∧ id ≠ .null

/-- A body has a method. -/
def HasMethod (body : Json) : Prop := ∃ method, body.member? "method" = some method

namespace Message

/-- How the members of a body make up a message. -/
inductive Classified (members : List (String × Json)) : Message → Prop where
  | request {id : Json} {identifier : RequestId} {name : String}
      (identified : Json.nonNull? (Json.find? "id" members) = some id)
      (decoded : RequestId.decode id = .ok identifier)
      (named : Json.find? "method" members = some (.string name)) :
      Classified members
        (.request ⟨identifier, name, Json.orNull (Json.find? "params" members)⟩)
  | notification {name : String} (anonymous : Json.nonNull? (Json.find? "id" members) = none)
      (named : Json.find? "method" members = some (.string name)) :
      Classified members (.notification ⟨name, Json.orNull (Json.find? "params" members)⟩)
  | response {id : Json} {identifier : RequestId} {error : Option ResponseError}
      (identified : Json.nonNull? (Json.find? "id" members) = some id)
      (decoded : RequestId.decode id = .ok identifier)
      (unnamed : Json.find? "method" members = none)
      (read : Json.nullable ResponseError.decode (Json.orNull (Json.find? "error" members)) =
        .ok error) :
      Classified members
        (.response ⟨identifier, Json.nonNull? (Json.find? "result" members), error⟩)

/-- What decodes with the transport's cause decodes. -/
theorem of_decodeWith_ok {α : Type} {decode : Json.Decoder α} {value : Json} {result : α}
    (done : decodeWith decode value = .ok result) : decode value = .ok result := by
  rw [decodeWith] at done
  cases decoded : decode value with
  | error error =>
    rw [decoded] at done
    cases done
  | ok found =>
    rw [decoded] at done
    exact congrArg Except.ok (Except.ok.inj done)

/-- A method name that is accepted is a text. -/
theorem of_methodName_ok {method : Json} {name : String} (done : methodName method = .ok name) :
    method = .string name := by
  cases method with
  | string text => rw [Except.ok.inj done]
  | _ => cases done

/-- An accepted body is an object whose members make up the message. -/
theorem classified_of_ofJson {body : Json} {message : Message}
    (accepted : ofJson body = .ok message) :
    ∃ members, body = .object members ∧ Classified members message := by
  cases body with
  | object members =>
    refine ⟨members, rfl, ?_⟩
    rw [ofJson] at accepted
    split at accepted
    · rename_i id method identified named
      obtain ⟨identifier, decoded, accepted⟩ := Json.of_bind_ok accepted
      obtain ⟨name, text, accepted⟩ := Json.of_bind_ok accepted
      obtain rfl := Except.ok.inj accepted
      rw [of_methodName_ok text] at named
      exact .request identified (of_decodeWith_ok decoded) named
    · rename_i method anonymous named
      obtain ⟨name, text, accepted⟩ := Json.of_bind_ok accepted
      obtain rfl := Except.ok.inj accepted
      rw [of_methodName_ok text] at named
      exact .notification anonymous named
    · rename_i id identified unnamed
      obtain ⟨error, read, accepted⟩ := Json.of_bind_ok accepted
      obtain ⟨identifier, decoded, accepted⟩ := Json.of_bind_ok accepted
      obtain rfl := Except.ok.inj accepted
      exact .response identified (of_decodeWith_ok decoded) unnamed (of_decodeWith_ok read)
    · cases accepted
  | _ => cases accepted

/-- The identifier and the method that a body of this kind of message has and has not. -/
def Fits (body : Json) : Message → Prop
  | .request _ => HasId body ∧ HasMethod body
  | .notification _ => HasMethod body ∧ ¬ HasId body
  | .response _ => HasId body ∧ ¬ HasMethod body

/-- A body fits one kind of message. -/
theorem Fits.kinds {body : Json} {message : Message} (fits : message.Fits body) :
    ((∃ call, message = .request call) ↔ HasId body ∧ HasMethod body) ∧
    ((∃ notice, message = .notification notice) ↔ HasMethod body ∧ ¬ HasId body) ∧
    ((∃ answer, message = .response answer) ↔ HasId body ∧ ¬ HasMethod body) := by
  cases message with
  | request call =>
    obtain ⟨identified, named⟩ := fits
    simp [identified, named]
  | notification notice =>
    obtain ⟨named, anonymous⟩ := fits
    simp [named, anonymous]
  | response answer =>
    obtain ⟨identified, unnamed⟩ := fits
    simp [identified, unnamed]

namespace Classified

variable {members : List (String × Json)}

/-- A message is of the kind that the body fits. -/
theorem fits {message : Message} (classified : Classified members message) :
    message.Fits (.object members) := by
  cases classified with
  | request identified _ named => exact ⟨⟨_, Json.of_nonNull?_eq_some identified⟩, _, named⟩
  | notification anonymous named =>
    refine ⟨⟨_, named⟩, ?_⟩
    rintro ⟨id, there, notNull⟩
    exact notNull (Json.of_nonNull?_eq_none anonymous there)
  | response identified _ unnamed _ =>
    refine ⟨⟨_, Json.of_nonNull?_eq_some identified⟩, ?_⟩
    rintro ⟨method, there⟩
    exact absurd (unnamed.symm.trans there) (by simp)

/-- An accepted message is as it arrives, unless it is a response with a result and an error; of
such a response the error arrives. -/
theorem normal_cases {message : Message} (classified : Classified members message) :
    message.normal = message ∨ ∃ id result error,
      message = .response ⟨id, some result, some error⟩ ∧
        message.normal = .response ⟨id, none, some error⟩ := by
  cases classified with
  | request _ _ _ => exact .inl rfl
  | notification _ _ => exact .inl rfl
  | @response _ id error _ _ _ read =>
    cases error with
    | none =>
      apply Or.inl
      rw [normal, Json.nonNull?_nonNull?]
    | some error =>
      have arrived : error.normal = error :=
        ResponseError.normal_of_decode (Json.of_nullable_some read)
      -- Only a result next to the error is lost, since `null` was dropped before.
      cases kept : Json.nonNull? (Json.find? "result" members) with
      | none =>
        apply Or.inl
        simp only [normal, arrived]
      | some result =>
        apply Or.inr
        refine ⟨id, result, error, rfl, ?_⟩
        simp only [normal, arrived]

end Classified

/-- The body of a response has a result exactly if it has no error. -/
theorem toJson_response_members (answer : Response) :
    (toJson (.response answer)).member? "result" ≠ none ↔
      (toJson (.response answer)).member? "error" = none := by
  obtain ⟨id, result, error⟩ := answer
  cases error <;>
    simp [toJson, Json.ofFields, Json.sortMembers, Json.member?, Json.find?_insertMember, version,
      Json.find?]

/-- Classification is stable, for every body and every message as which it is accepted. The message
is a request exactly if the body has an identifier that is not `null` and a method, a notification
exactly if it has a method and no such identifier, and a response exactly if it has such an
identifier and no method. The body of a response has either a result or an error. Read again, the
body of the message gives the message, except that a response with a result and an error comes back
without the result; and what is read again has the same body.

Proof: an accepted message is as it arrives up to such a result, since what is read as an error
object has no `null` as its data, and the body of a message is classified as the message arrives. -/
theorem classification_is_stable {body : Json} {message : Message}
    (accepted : ofJson body = .ok message) :
    ((∃ call, message = .request call) ↔ HasId body ∧ HasMethod body) ∧
    ((∃ notice, message = .notification notice) ↔ HasMethod body ∧ ¬ HasId body) ∧
    ((∃ answer, message = .response answer) ↔ HasId body ∧ ¬ HasMethod body) ∧
    (∀ answer, message = .response answer →
      (message.toJson.member? "result" ≠ none ↔ message.toJson.member? "error" = none)) ∧
    (∀ id result error, message = .response ⟨id, some result, some error⟩ →
      ofJson message.toJson = .ok (.response ⟨id, none, some error⟩)) ∧
    ((∀ id result error, message ≠ .response ⟨id, some result, some error⟩) →
      ofJson message.toJson = .ok message) ∧
    ∃ again, ofJson message.toJson = .ok again ∧ again.toJson = message.toJson := by
  obtain ⟨members, rfl, classified⟩ := classified_of_ofJson accepted
  obtain ⟨requests, notifications, responses⟩ := classified.fits.kinds
  have arrives := classified.normal_cases
  rw [ofJson_toJson]
  refine ⟨requests, notifications, responses, ?_, ?_, ?_, message.normal, rfl, ?_⟩
  · rintro answer rfl
    exact toJson_response_members answer
  · rintro id result error rfl
    rcases arrives with same | ⟨_, _, _, same, arrived⟩
    · cases same
    · cases same
      rw [arrived]
  · intro single
    rcases arrives with same | ⟨id, result, error, both, -⟩
    · rw [same]
    · exact absurd both (single id result error)
  · rcases arrives with same | ⟨id, result, error, both, arrived⟩
    · rw [same]
    · rw [arrived, both]
      rfl

/-- A response that carries too much: an error as a list with `null` as its data, a result, and
parameters. -/
def crowdedBody : Json :=
  .object [("error", .array [.ofInt 1, .string "no", .null]), ("id", .string "a"),
    ("params", .bool true), ("result", .ofInt 7)]

/-- The response that is read off it. -/
def crowdedAnswer : Response := ⟨.text "a", some (.ofInt 7), some (.plain 1 "no")⟩

/-- The crowded body is read as a response, which comes back without its result and whose body is
the same when it is written again. -/
theorem crowdedAnswer_comes_back_without_result :
    ofJson crowdedBody = .ok (.response crowdedAnswer) ∧
    (HasId crowdedBody ∧ ¬ HasMethod crowdedBody) ∧
    ofJson (toJson (.response crowdedAnswer)) =
      .ok (.response ⟨.text "a", none, some (.plain 1 "no")⟩) ∧
    ∃ again, ofJson (toJson (.response crowdedAnswer)) = .ok again ∧
      again.toJson = toJson (.response crowdedAnswer) := by
  have accepted : ofJson crowdedBody = .ok (.response crowdedAnswer) := rfl
  obtain ⟨-, -, responses, -, both, -, same⟩ := classification_is_stable accepted
  exact ⟨accepted, responses.mp ⟨_, rfl⟩, both _ _ _ rfl, same⟩

end Message

end Rpc

end LanguageClient
