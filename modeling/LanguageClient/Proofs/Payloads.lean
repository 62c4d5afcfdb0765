import LanguageClient.Preview
import LanguageClient.Proofs.MessageBody
import LanguageClient.Proofs.RecordReading
import LanguageClient.Rpc.Frame
import LanguageClient.ServerNotification

/-!
# Payloads survive the wire

Every payload that client and server exchange is decoded from its own JSON form. The two directions
are written down apart, one as a list of fields and the other as a layout, so that this is a fact
about every single field: its name, its type, and whether it may be left out. Payloads without raw
JSON also survive as texts, since their JSON form has few levels and small numbers.

What does not survive is a raw `null` where raw JSON is optional: it comes back as nothing.
-/

namespace LanguageClient

namespace Json

variable {α : Type}

/-- A text is decoded. -/
theorem text_string (value : String) : text (.string value) = .ok value := rfl

/-- An integer within its bounds is decoded. -/
theorem boundedInteger_ofNat {value greatest : Nat} (small : value ≤ greatest)
    (expected : Expectation) :
    boundedInteger 0 greatest expected (.ofNat value) = .ok (value : Int) := by
  refine if_pos ⟨?_, ?_⟩
  · exact Int.natCast_nonneg value
  · exact Int.ofNat_le.mpr small

/-- A number of sixteen bits is decoded. -/
theorem word16_ofNat (word : UInt16) : word16 (.ofNat word.toNat) = .ok word := by
  have small : word.toNat ≤ 65535 := Nat.le_of_lt_succ word.toNat_lt
  have decoded : boundedInteger 0 65535 (.unsigned 16) (.ofNat word.toNat) = .ok word.toNat :=
    boundedInteger_ofNat small _
  simp [word16, decoded, Except.map]

/-- A number of thirty-two bits is decoded. -/
theorem word32_ofNat (word : UInt32) : word32 (.ofNat word.toNat) = .ok word := by
  have small : word.toNat ≤ 4294967295 := Nat.le_of_lt_succ word.toNat_lt
  have decoded : boundedInteger 0 4294967295 (.unsigned 32) (.ofNat word.toNat) =
      .ok word.toNat := boundedInteger_ofNat small _
  simp [word32, decoded, Except.map]

/-- What may be missing is decoded if what is there has a JSON form that is not `null`. -/
theorem nullable_orNull {decode : Decoder α} {encode : α → Json}
    (decoded : ∀ value, decode (encode value) = .ok value)
    (solid : ∀ value, (encode value).isNull = false) (value : Option α) :
    nullable decode (orNull (value.map encode)) = .ok value := by
  cases value with
  | none => rfl
  | some value =>
    have opened : nullable decode (encode value) = (decode (encode value)).map some := by
      have there := solid value
      cases form : encode value with
      | null =>
        rw [form] at there
        cases there
      | _ => rfl
    change nullable decode (encode value) = _
    rw [opened, decoded]
    rfl

/-- A text that may be missing is decoded. -/
theorem nullable_ofText? (value : Option String) : nullable text (.ofText? value) = .ok value := by
  cases value <;> rfl

/-- A list of texts is decoded. -/
theorem list_ofTexts (texts : List String) : list text (.ofTexts texts) = .ok texts := by
  change (texts.map Json.string).mapM text = .ok texts
  induction texts with
  | nil => rfl
  | cons first texts inductionHypothesis =>
    rw [List.map_cons, List.mapM_cons, inductionHypothesis]
    rfl

section Readable

variable {levels : Nat}

/-- Texts, flags and `null` are readable. -/
@[simp] theorem readable_string (value : String) : Readable levels (.string value) :=
  ⟨Nat.zero_le _, rfl, rfl⟩

@[simp] theorem readable_bool (value : Bool) : Readable levels (.bool value) :=
  ⟨Nat.zero_le _, rfl, rfl⟩

@[simp] theorem readable_null : Readable levels .null := ⟨Nat.zero_le _, rfl, rfl⟩

/-- Small numbers are readable. -/
theorem readable_ofNat {value : Nat} (small : value < UInt64.size) :
    Readable levels (.ofNat value) where
  depth := Nat.zero_le _
  canonical := rfl
  words := by
    unfold UInt64.size at small
    simp only [ofNat, hasWords, Number.isWord, Bool.and_eq_true, decide_eq_true_eq]
    omega

@[simp] theorem readable_word16 (word : UInt16) : Readable levels (.ofNat word.toNat) :=
  readable_ofNat (Nat.lt_trans word.toNat_lt (by decide))

@[simp] theorem readable_word32 (word : UInt32) : Readable levels (.ofNat word.toNat) :=
  readable_ofNat (Nat.lt_trans word.toNat_lt (by decide))

/-- What may be missing is readable if what is there is. -/
theorem readable_orNull {encode : α → Json} (readable : ∀ value, Readable levels (encode value))
    (value : Option α) : Readable levels (orNull (value.map encode)) := by
  cases value with
  | none => exact readable_null
  | some value => exact readable value

@[simp] theorem readable_ofText? (value : Option String) : Readable levels (.ofText? value) := by
  cases value <;> simp [ofText?]

/-- An array of readable items is readable, with one level more. -/
theorem readable_array {items : List Json} (parts : ∀ item ∈ items, Readable levels item) :
    Readable (levels + 1) (.array items) where
  depth := Nat.succ_le_succ (depthItems_le.mpr fun item inside => (parts item inside).depth)
  canonical := canonicalItems_iff.mpr fun item inside => (parts item inside).canonical
  words := hasWordsItems_iff.mpr fun item inside => (parts item inside).words

/-- What is readable within some levels is readable within more. -/
theorem Readable.mono {more : Nat} {value : Json} (readable : Readable levels value)
    (enough : levels ≤ more) : Readable more value :=
  ⟨Nat.le_trans readable.depth enough, readable.canonical, readable.words⟩

end Readable

end Json

/-- A payload survives: it is decoded from its JSON form, which is also what the text of that form
is parsed as. -/
structure Survives {α : Type} (encode : α → Json) (decode : Json.Decoder α) (payload : α) :
    Prop where
  decoded : decode (encode payload) = .ok payload
  parsed : Json.parse Rpc.Frame.maxDepth (encode payload).write = some (encode payload)

/-- A payload that is decoded survives if its JSON form has at most three levels. -/
theorem Survives.of_readable {α : Type} {encode : α → Json} {decode : Json.Decoder α} {payload : α}
    (decoded : decode (encode payload) = .ok payload)
    (readable : Json.Readable 3 (encode payload)) : Survives encode decode payload :=
  ⟨decoded, Json.parse_write (readable.mono (by decide))⟩

/-- A record survives if its layout reads the fields that it is written as, and each of them has at
most two levels. -/
theorem Survives.of_reads {α : Type} {encode : α → Json} {name : String} {layout : Json.Layout α}
    {places : List (String × Option Json)} {payload : α} {fields : List (String × Json)}
    (reads : layout.Reads places payload) (names : (places.map Prod.fst).Nodup)
    (written : encode payload = .ofFields fields) (same : Json.present places = fields)
    (parts : ∀ field ∈ fields, Json.Readable 2 field.2) :
    Survives encode (Json.record name layout) payload := by
  refine .of_readable ?_ ?_
  · rw [written]
    exact Json.record_ofFields reads names same name
  · rw [written]
    exact Json.readable_ofFields parts

open Json (record_ofFields readable_ofFields text_string word16_ofNat word32_ofNat nullable_orNull
  nullable_ofText? readable_orNull)

section Plain

/-- A phase is decoded from its name. -/
theorem CompilePhase.decode_name (phase : CompilePhase) :
    CompilePhase.decode (.string phase.name) = .ok phase := by
  cases phase <;> rfl

/-- A refresh style is decoded from its name. -/
theorem RefreshStyle.decode_name (style : RefreshStyle) :
    RefreshStyle.decode (.string style.name) = .ok style := by
  cases style <;> rfl

theorem WordCount.decode_encode (count : WordCount) : decode count.encode = .ok count := by
  obtain ⟨words, characters, spaces, cjkCharacters⟩ := count
  have reads : layout.Reads _ ⟨words, characters, spaces, cjkCharacters⟩ :=
    (Json.Layout.Reads.nothing mk).required (word32_ofNat words)
      |>.required (word32_ofNat characters)
      |>.required (word32_ofNat spaces)
      |>.defaulted (word32_ofNat cjkCharacters)
  exact record_ofFields reads (by simp) rfl _

theorem WordCount.readable_encode (count : WordCount) : Json.Readable 1 count.encode :=
  readable_ofFields (by simp)

theorem CompileStatus.survives (status : CompileStatus) : Survives encode decode status := by
  obtain ⟨phase, path, pageCount, wordCount⟩ := status
  have counted : Json.nullable WordCount.decode (Json.orNull (wordCount.map WordCount.encode)) =
      .ok wordCount := nullable_orNull WordCount.decode_encode (fun _ => rfl) wordCount
  have readable : Json.Readable 2 (Json.orNull (wordCount.map WordCount.encode)) :=
    readable_orNull (fun count => count.readable_encode.mono (Nat.le_succ 1)) wordCount
  have reads : layout.Reads _ ⟨phase, path, pageCount, wordCount⟩ :=
    (Json.Layout.Reads.nothing mk).required phase.decode_name
      |>.required (text_string path)
      |>.defaulted (word32_ofNat pageCount)
      |>.defaulted counted
  exact .of_reads reads (by simp) rfl rfl (by simp [readable])

theorem ScrollSource.survives (scroll : ScrollSource) : Survives encode decode scroll := by
  obtain ⟨path, start, stop⟩ := scroll
  have ended (place : Option (UInt32 × UInt32)) :
      Json.nullable (Json.pair Json.word32) (encodeEnd place) = .ok place := by
    refine nullable_orNull (fun (line, character) => ?_) (fun _ => rfl) place
    simp [Json.pair, word32_ofNat, bind, Except.bind]
  have readable (place : Option (UInt32 × UInt32)) : Json.Readable 2 (encodeEnd place) :=
    readable_orNull (fun (line, character) => Json.readable_array (by simp)) place
  have reads : layout.Reads _ ⟨path, start, stop⟩ :=
    (Json.Layout.Reads.nothing mk).required (text_string path)
      |>.optional (ended start)
      |>.optional (ended stop)
  exact .of_reads reads (by simp) rfl rfl (by simp [readable])

theorem PreviewDispose.survives (dispose : PreviewDispose) : Survives encode decode dispose := by
  obtain ⟨taskId⟩ := dispose
  have reads : layout.Reads _ ⟨taskId⟩ :=
    (Json.Layout.Reads.nothing mk).required (text_string taskId)
  exact .of_reads reads (by simp) rfl rfl (by simp)

theorem Preview.Started.survives (started : Preview.Started) : Survives encode decode started := by
  obtain ⟨staticServerPort, staticServerAddress, dataPlanePort, isPrimary⟩ := started
  have port (port : Option UInt16) : Json.nullable Json.word16 (encodePort port) = .ok port :=
    nullable_orNull word16_ofNat (fun _ => rfl) port
  have flag : Json.nullable Json.flag (Json.orNull (isPrimary.map .bool)) = .ok isPrimary := by
    cases isPrimary <;> rfl
  have readablePort (port : Option UInt16) : Json.Readable 2 (encodePort port) :=
    readable_orNull Json.readable_word16 port
  have readableFlag : Json.Readable 2 (Json.orNull (isPrimary.map .bool)) :=
    readable_orNull Json.readable_bool isPrimary
  have reads : layout.Reads _ ⟨staticServerPort, staticServerAddress, dataPlanePort, isPrimary⟩ :=
    (Json.Layout.Reads.nothing mk).defaulted (port staticServerPort)
      |>.defaulted (nullable_ofText? staticServerAddress)
      |>.defaulted (port dataPlanePort)
      |>.defaulted flag
  exact .of_reads reads (by simp) rfl rfl (by simp [readablePort, readableFlag])

theorem Settings.survives (settings : Settings) : Survives encode decode settings := by
  obtain ⟨serverPath, rootPath, fontPaths, colorTheme, onEnterEvent, ⟨refresh⟩⟩ := settings
  have styled : PreviewSettings.layout.Reads _ ⟨refresh⟩ :=
    (Json.Layout.Reads.nothing PreviewSettings.mk).defaulted refresh.decode_name
  have preview : PreviewSettings.decode (PreviewSettings.encode ⟨refresh⟩) = .ok ⟨refresh⟩ :=
    record_ofFields styled (by simp) rfl _
  have readablePreview : Json.Readable 2 (PreviewSettings.encode ⟨refresh⟩) :=
    readable_ofFields (by simp)
  have readableFonts : Json.Readable 2 (.ofTexts fontPaths) := Json.readable_array (by simp)
  have enter : Json.flag (.bool onEnterEvent) = .ok onEnterEvent := rfl
  have reads : layout.Reads _
      ⟨serverPath, rootPath, fontPaths, colorTheme, onEnterEvent, ⟨refresh⟩⟩ :=
    (Json.Layout.Reads.nothing mk).defaulted (nullable_ofText? serverPath)
      |>.defaulted (nullable_ofText? rootPath)
      |>.defaulted (Json.list_ofTexts fontPaths)
      |>.defaulted (nullable_ofText? colorTheme)
      |>.defaulted enter
      |>.defaulted preview
  exact .of_reads reads (by simp) rfl rfl (by simp [readablePreview, readableFonts])

namespace Preview.Scroll

/-- A request to scroll is decoded by its tag from the place that the other members give. -/
theorem decode_object {members : List (String × Json)} {tag : String} {variant : Variant}
    {place : Place} (found : Json.find? tagName members = some (.string tag))
    (known : Json.variant variants tag = .ok variant)
    (placed : layout.fromMembers (members.filter fun (key, _) => key != tagName) = .ok place) :
    decode (.object members) = .ok (variant.build place) := by
  simp only [decode, found, decodeTag, known, placed, bind, Except.bind]

/-- A tag and a place are decoded to the request that the tag stands for. -/
theorem decode_tagged {tag : String} {variant : Variant}
    (known : Json.variant variants tag = .ok variant) (place : Place) :
    decode (.ofFields [(tagName, .string tag), ("filepath", .string place.path),
      ("line", .ofNat place.line.toNat), ("character", .ofNat place.character.toNat)]) =
        .ok (variant.build place) := by
  obtain ⟨path, line, character⟩ := place
  let places : List (String × Option Json) := [("filepath", some (.string path)),
    ("line", some (.ofNat line.toNat)), ("character", some (.ofNat character.toNat))]
  have reads : layout.Reads places ⟨path, line, character⟩ :=
    (Json.Layout.Reads.nothing Place.mk).required (text_string path)
      |>.required (word32_ofNat line)
      |>.required (word32_ofNat character)
  have names : (places.map Prod.fst).Nodup := by simp [places]
  have fresh : tagName ∉ places.map Prod.fst := by simp [places, tagName]
  exact decode_object (Json.find?_tagged names fresh (.string tag)) known
    (reads.untagged names fresh (.string tag))

theorem survives (scroll : Preview.Scroll) : Survives encode decode scroll := by
  cases scroll with
  | panelScrollTo place =>
    have known : Json.variant variants "panelScrollTo" =
        .ok ⟨.panelScrollTo, "PanelScrollTo"⟩ := rfl
    exact .of_readable (decode_tagged known place) (readable_ofFields (by simp))
  | changeCursorPosition place =>
    have known : Json.variant variants "changeCursorPosition" =
        .ok ⟨.changeCursorPosition, "ChangeCursorPosition"⟩ := rfl
    exact .of_readable (decode_tagged known place) (readable_ofFields (by simp))

end Preview.Scroll

end Plain

namespace Rpc

section Raw

theorem Request.decode_encode (request : Request) : decode request.encode = .ok request := by
  obtain ⟨id, method, params⟩ := request
  have raw : Json.anyValue params = .ok params := rfl
  have reads : layout.Reads _ ⟨id, method, params⟩ :=
    (Json.Layout.Reads.nothing mk).required id.decode_encode
      |>.required (text_string method)
      |>.defaulted raw
  exact record_ofFields reads (by simp) rfl _

theorem Notification.decode_encode (notification : Notification) :
    decode notification.encode = .ok notification := by
  obtain ⟨method, params⟩ := notification
  have raw : Json.anyValue params = .ok params := rfl
  have reads : layout.Reads _ ⟨method, params⟩ :=
    (Json.Layout.Reads.nothing mk).required (text_string method)
      |>.defaulted raw
  exact record_ofFields reads (by simp) rfl _

/-- A response as it is decoded: a result or error data that is `null` is none. -/
def Response.normal (response : Response) : Response :=
  { response with
    result := Json.nonNull? response.result
    error := response.error.map ResponseError.normal }

theorem Response.decode_encode (response : Response) :
    decode response.encode = .ok response.normal := by
  obtain ⟨id, result, error⟩ := response
  have resulted : ∀ json ∈ result,
      Json.nullable Json.anyValue json = .ok (Json.nonNull? result) := by
    rintro json rfl
    exact decode_nullable json
  have failed : ∀ json ∈ error.map ResponseError.encode,
      Json.nullable ResponseError.decode json = .ok (error.map ResponseError.normal) := by
    intro json inside
    obtain ⟨object, rfl, rfl⟩ := Option.map_eq_some_iff.mp inside
    exact Message.decode_error object
  have reads : layout.Reads _ ⟨id, Json.nonNull? result, error.map ResponseError.normal⟩ :=
    (Json.Layout.Reads.nothing mk).required id.decode_encode
      |>.sparse resulted (by rintro rfl; rfl)
      |>.sparse failed (by simp)
  refine record_ofFields reads (by simp) ?_ _
  cases result <;> cases error <;> rfl

end Raw

end Rpc

/-- Every payload survives the wire: a report on a compilation with or without word statistics, a
request to reveal, the end of a preview, the answer to a launch, a request to scroll, settings, an
error object, and the parts of a request, a notification and a response. What is decoded from the
JSON form of a payload is the payload, except that optional raw JSON which is `null` comes back as
none: the data of an error object, and the result of a response. Those without raw JSON also survive
as texts.

Proof: each is a record whose fields are written in the order of its layout, under the names and
with the types that the layout has, and a layout reads the object of such fields. -/
theorem payloads_come_back :
    (∀ status : CompileStatus, Survives CompileStatus.encode CompileStatus.decode status) ∧
    (∀ scroll : ScrollSource, Survives ScrollSource.encode ScrollSource.decode scroll) ∧
    (∀ dispose : PreviewDispose, Survives PreviewDispose.encode PreviewDispose.decode dispose) ∧
    (∀ started : Preview.Started,
      Survives Preview.Started.encode Preview.Started.decode started) ∧
    (∀ scroll : Preview.Scroll, Survives Preview.Scroll.encode Preview.Scroll.decode scroll) ∧
    (∀ settings : Settings, Survives Settings.encode Settings.decode settings) ∧
    (∀ error : Rpc.ResponseError, Rpc.ResponseError.decode error.encode =
      .ok { error with data := Json.nonNull? error.data }) ∧
    (∀ request : Rpc.Request, Rpc.Request.decode request.encode = .ok request) ∧
    (∀ notification : Rpc.Notification,
      Rpc.Notification.decode notification.encode = .ok notification) ∧
    ∀ response : Rpc.Response, Rpc.Response.decode response.encode =
      .ok { response with
        result := Json.nonNull? response.result
        error := response.error.map fun error =>
          { error with data := Json.nonNull? error.data } } :=
  ⟨CompileStatus.survives, ScrollSource.survives, PreviewDispose.survives,
    Preview.Started.survives, Preview.Scroll.survives, Settings.survives,
    Rpc.ResponseError.decode_encode, Rpc.Request.decode_encode, Rpc.Notification.decode_encode,
    Rpc.Response.decode_encode⟩

end LanguageClient
