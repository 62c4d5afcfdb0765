import LanguageClient.Proofs.Framing
import LanguageClient.Proofs.HeaderBlocks

/-!
# A bad body does not shift the stream

Where a frame ends is decided by its header block alone: reading takes the announced number of bytes
off the input before it looks at any of them. Whatever the body holds, be it no JSON, a message of
the wrong shape, line feeds or another header, the next read starts right behind it. So a stream of
frames yields the outcomes of their bodies one by one, each as if its frame stood alone, up to the
first that breaks the rules of the conversation.
-/

namespace LanguageClient.Rpc

/-- What can be wrong with a body: it does not decode, or it breaks the rules of the conversation.
-/
def TransportError.IsBodyFault (error : TransportError) : Prop :=
  error.isPayloadOnly = true ∨ ∃ reason, error = .protocol reason

namespace Frame

/-- Nothing but a fault of the body can make the result fail. -/
def FailsByBody {α : Type} (result : Except TransportError α) : Prop :=
  ∀ error, result = .error error → error.IsBodyFault

/-- One step after another fails by the body if each does. -/
theorem FailsByBody.bind {α β : Type} {first : Except TransportError α}
    {next : α → Except TransportError β} (firstFails : FailsByBody first)
    (nextFails : ∀ value, FailsByBody (next value)) : FailsByBody (first >>= next) := by
  intro error failed
  cases first with
  | ok value => exact nextFails value error failed
  | error cause =>
    obtain rfl := Except.error.inj failed
    exact firstFails _ rfl

/-- What succeeds does not fail. -/
theorem failsByBody_ok {α : Type} (value : α) : FailsByBody (.ok value) :=
  nofun

/-- A payload of the wrong shape is a fault of the body. -/
theorem failsByBody_decodeWith {α : Type} (decode : Json.Decoder α) (value : Json) :
    FailsByBody (Message.decodeWith decode value) := by
  intro error failed
  unfold Message.decodeWith at failed
  cases decoded : decode value with
  | ok result => simp [decoded, Except.mapError] at failed
  | error cause =>
    simp only [decoded, Except.mapError, Except.error.injEq] at failed
    exact .inl (failed ▸ rfl)

/-- A method name that is not a text is a fault of the body. -/
theorem failsByBody_methodName (value : Json) : FailsByBody (Message.methodName value) := by
  intro error failed
  unfold Message.methodName at failed
  split at failed
  · cases failed
  · exact .inr ⟨_, (Except.error.inj failed).symm⟩

/-- Classifying a body fails by the body alone. -/
theorem failsByBody_ofJson (value : Json) : FailsByBody (Message.ofJson value) := by
  have broken {reason : String} :
      FailsByBody (.error (.protocol reason) : Except TransportError Message) :=
    fun error failed => .inr ⟨reason, (Except.error.inj failed).symm⟩
  unfold Message.ofJson
  split
  · dsimp only
    split
    · exact (failsByBody_decodeWith _ _).bind fun _ =>
        (failsByBody_methodName _).bind fun _ => failsByBody_ok _
    · exact (failsByBody_methodName _).bind fun _ => failsByBody_ok _
    · exact (failsByBody_decodeWith _ _).bind fun _ =>
        (failsByBody_decodeWith _ _).bind fun _ => failsByBody_ok _
    · exact broken
  · exact broken

/-- Reading a body fails by the body alone. -/
theorem failsByBody_readBody (body : List UInt8) : FailsByBody (readBody body) := by
  unfold readBody
  split
  · exact fun error failed => .inl (Except.error.inj failed ▸ rfl)
  · split
    · exact fun error failed => .inl (Except.error.inj failed ▸ rfl)
    · exact failsByBody_ofJson _

/-- The outcome of a body is a message, a payload that does not decode, or a broken rule of the
conversation. -/
theorem ofBody_cases (body : List UInt8) :
    (∃ message, Outcome.ofBody body = .message message) ∨
      ∃ error, Outcome.ofBody body = .failed error ∧ error.IsBodyFault := by
  unfold Outcome.ofBody
  cases outcome : readBody body with
  | ok message => exact .inl ⟨message, rfl⟩
  | error error => exact .inr ⟨error, rfl, failsByBody_readBody body error outcome⟩

/-- Whether a body breaks the rules of the conversation, so that reading ends with it. -/
def BreaksRules (body : List UInt8) : Prop :=
  ∃ reason, Outcome.ofBody body = .failed (.protocol reason)

/-- Reading goes on after every body that does not break the rules. -/
theorem continues_ofBody {body : List UInt8} (lawful : ¬ BreaksRules body) :
    (Outcome.ofBody body).continues = true := by
  obtain ⟨message, outcome⟩ | ⟨error, outcome, payload | ⟨reason, rfl⟩⟩ := ofBody_cases body
  · rw [outcome]
    rfl
  · rw [outcome]
    exact payload
  · exact absurd ⟨reason, outcome⟩ lawful

/-- A frame as anyone may send it: a header block, and a body of the length that the block
announces. No text is longer than the greatest length for which there can be room. -/
structure Announced where
  body : List UInt8
  header : HeaderBlock body.length
  room : body.length ≤ maxRoom

namespace Announced

/-- The bytes of a frame. -/
def bytes (frame : Announced) : List UInt8 := frame.header.bytes ++ frame.body

/-- What the body of a frame comes to. -/
def outcome (frame : Announced) : Outcome := .ofBody frame.body

/-- A frame has at least one byte. -/
theorem bytes_length (frame : Announced) : 1 ≤ frame.bytes.length := by
  have ends := frame.header.endsLine_bytes
  cases shape : frame.header.bytes with
  | nil => simp [shape, endsLine] at ends
  | cons byte others => simp [bytes, shape]

/-- Reading a frame takes the frame and nothing else, and yields what its body comes to. -/
theorem read_bytes (frame : Announced) (rest : List UInt8) :
    read (frame.bytes ++ rest) = (frame.outcome, rest) := by
  have room : ¬ maxRoom < frame.body.length := Nat.not_lt.mpr frame.room
  have complete : ¬ (frame.body ++ rest).length < frame.body.length := by
    rw [List.length_append]
    omega
  simp only [read, bytes, List.append_assoc, readHeader_block, room, complete, if_false,
    List.take_left, List.drop_left, outcome]

/-- A frame that arrived whole is found without waiting for what follows it. -/
theorem readReady_bytes (frame : Announced) (rest : List UInt8) :
    readReady (frame.bytes ++ rest) = some (frame.outcome, rest) := by
  have room : ¬ maxRoom < frame.body.length := Nat.not_lt.mpr frame.room
  have complete : frame.body.length ≤ (frame.body ++ rest).length := by
    rw [List.length_append]
    omega
  have read : (frame.header.bytes ++ (frame.body ++ rest)).length - (frame.body ++ rest).length =
      frame.header.bytes.length := by
    rw [List.length_append]
    omega
  simp only [readReady, bytes, List.append_assoc, readHeader_block, read, List.take_left,
    frame.header.endsLine_bytes, Bool.not_true, Bool.false_eq_true, room, complete, if_false,
    if_true, List.drop_left, outcome]

end Announced

/-- A header block takes at least one byte of the input. -/
theorem readHeader_shorter {length : Option Nat} {bytes rest : List UInt8} {announced : Nat}
    (found : readHeader length bytes = .body announced rest) : rest.length < bytes.length := by
  fun_induction readHeader length bytes with
  | case1 => cases found
  | case2 => cases found
  | case3 => cases found
  | case4 byte following line left text decoded length blank =>
    obtain ⟨-, rfl⟩ := Header.body.inj found
    exact splitLine_shorter byte following
  | case5 byte following line left text decoded blank inductionHypothesis =>
    exact Nat.lt_trans (inductionHypothesis found) (splitLine_shorter byte following)
  | case6 length byte following line left text decoded value shape inductionHypothesis =>
    exact Nat.lt_trans (inductionHypothesis found) (splitLine_shorter byte following)
  | case7 => cases found
  | case8 byte following line left text decoded length shape inductionHypothesis =>
    exact Nat.lt_trans (inductionHypothesis found) (splitLine_shorter byte following)

/-- A header block that cannot be read concerns more than one payload. -/
theorem readHeader_fatal {length : Option Nat} {bytes rest : List UInt8} {error : TransportError}
    (failed : readHeader length bytes = .failed error rest) : error.isPayloadOnly = false := by
  fun_induction readHeader length bytes with
  | case1 | case3 | case7 =>
    obtain ⟨rfl, -⟩ := Header.failed.inj failed
    rfl
  | case2 | case4 => cases failed
  | case5 | case6 | case8 =>
    rename_i inductionHypothesis
    exact inductionHypothesis failed

/-- A read after which reading goes on took at least one byte. -/
theorem read_shorter {bytes : List UInt8} (continues : (read bytes).1.continues = true) :
    (read bytes).2.length < bytes.length := by
  unfold read at continues ⊢
  cases header : readHeader none bytes with
  | ended => simp [header, Outcome.continues] at continues
  | failed error rest => simp [header, Outcome.continues, readHeader_fatal header] at continues
  | body length rest =>
    have shorter := readHeader_shorter header
    by_cases crowded : maxRoom < length
    · simp [header, crowded, Outcome.continues] at continues
    · by_cases cut : rest.length < length
      · simp [header, crowded, cut, Outcome.continues, TransportError.isPayloadOnly] at continues
      · simp only [crowded, cut, if_false, List.length_drop]
        omega

/-- One read per byte and one more reach the end, so further reads are never made. -/
theorem readFrames_enough (bytes : List UInt8) (extra : Nat) :
    readFrames (bytes.length + 1 + extra) bytes = readAll bytes := by
  -- By induction on the bound: a read after which reading goes on takes a byte.
  have settled (bound : Nat) : ∀ bytes : List UInt8, bytes.length < bound → ∀ extra,
      readFrames (bound + extra) bytes = readFrames bound bytes := by
    induction bound with
    | zero => exact fun bytes short => absurd short (Nat.not_lt_zero _)
    | succ bound inductionHypothesis =>
      intro bytes short extra
      rw [Nat.add_right_comm, readFrames, readFrames]
      cases going : (read bytes).1.continues with
      | false => simp [going]
      | true =>
        have shorter := read_shorter going
        simp only [inductionHypothesis (read bytes).2 (by omega) extra]
  exact settled (bytes.length + 1) bytes (Nat.lt_succ_self _) extra

/-- Frames whose bodies keep to the rules are read one by one, and reading goes on behind them. -/
theorem readAll_lawful {frames : List Announced}
    (lawful : ∀ frame ∈ frames, ¬ BreaksRules frame.body) (rest : List UInt8) :
    readAll (frames.flatMap Announced.bytes ++ rest) =
      (frames.map Announced.outcome ++ (readAll rest).1, (readAll rest).2) := by
  have enough : frames.length ≤ (frames.flatMap Announced.bytes).length := by
    clear lawful
    induction frames with
    | nil => simp
    | cons frame frames inductionHypothesis =>
      have one := frame.bytes_length
      simp only [List.flatMap_cons, List.length_append, List.length_cons]
      omega
  obtain ⟨extra, spare⟩ := Nat.exists_eq_add_of_le enough
  have fuel : (frames.flatMap Announced.bytes ++ rest).length + 1 =
      frames.length + (rest.length + 1 + extra) := by
    rw [List.length_append, spare]
    omega
  have going : ∀ frame ∈ frames, frame.outcome.continues = true :=
    fun frame member => continues_ofBody (lawful frame member)
  rw [readAll, fuel, readFrames_pieces (fun frame _ => frame.read_bytes) going, readFrames_enough]

/-- A body that breaks the rules is the last that is read. -/
theorem readAll_broken {frame : Announced} (broken : BreaksRules frame.body) (rest : List UInt8) :
    readAll (frame.bytes ++ rest) = ([frame.outcome], rest) := by
  obtain ⟨reason, outcome⟩ := broken
  have ends : frame.outcome.continues = false := by
    rw [Announced.outcome, outcome]
    rfl
  rw [readAll, readFrames, frame.read_bytes]
  simp [ends]

/-- A bad body never shifts the stream. Reading any frame leaves exactly what follows the frame,
whatever its header block holds besides the length and whatever its body is; it yields what the body
alone comes to, a message, a payload that does not decode or a broken rule. This holds of an input
that ended as of one that may go on. So frames in a row are read one by one, each as if it stood
alone: as long as no body breaks the rules reading goes on behind the last of them, and otherwise
the first such body is the last outcome, and what follows its frame is left unread.

Proof: the header block is read to its end and announces the length of the body, which is taken off
before it is looked at. Every frame takes at least one byte, so reads suffice for all of them. -/
theorem bad_bodies_never_shift_the_stream :
    (∀ (frame : Announced) (rest : List UInt8),
      read (frame.bytes ++ rest) = (.ofBody frame.body, rest) ∧
      readReady (frame.bytes ++ rest) = some (.ofBody frame.body, rest) ∧
      ((∃ message, Outcome.ofBody frame.body = .message message) ∨
        ∃ error, Outcome.ofBody frame.body = .failed error ∧
          (error = .malformed ∨ (∃ reason, error = .deserialize reason) ∨
            ∃ reason, error = .protocol reason))) ∧
    (∀ (frames : List Announced) (rest : List UInt8),
      (∀ frame ∈ frames, ∀ reason, Outcome.ofBody frame.body ≠ .failed (.protocol reason)) →
      readAll (frames.flatMap Announced.bytes ++ rest) =
        (frames.map (fun frame => (read frame.bytes).1) ++ (readAll rest).1, (readAll rest).2)) ∧
    (∀ (before after : List Announced) (broken : Announced) (rest : List UInt8),
      (∀ frame ∈ before, ∀ reason, Outcome.ofBody frame.body ≠ .failed (.protocol reason)) →
      (∃ reason, Outcome.ofBody broken.body = .failed (.protocol reason)) →
      readAll ((before ++ broken :: after).flatMap Announced.bytes ++ rest) =
        ((before ++ [broken]).map (fun frame => (read frame.bytes).1),
          after.flatMap Announced.bytes ++ rest)) := by
  have alone : (fun frame : Announced => (read frame.bytes).1) = Announced.outcome := by
    funext frame
    have single := frame.read_bytes []
    rw [List.append_nil] at single
    rw [single]
  rw [alone]
  refine ⟨fun frame rest => ⟨frame.read_bytes rest, frame.readReady_bytes rest, ?_⟩, ?_, ?_⟩
  · refine (ofBody_cases frame.body).imp_right ?_
    rintro ⟨error, outcome, fault⟩
    refine ⟨error, outcome, ?_⟩
    obtain payload | broken := fault
    · cases error <;> simp [TransportError.isPayloadOnly] at payload ⊢
    · exact .inr (.inr broken)
  · intro frames rest lawful
    exact readAll_lawful (fun frame member ⟨reason, broken⟩ => lawful frame member reason broken)
      rest
  · intro before after broken rest lawful rule
    have first := readAll_lawful
      (fun frame member ⟨reason, breaks⟩ => lawful frame member reason breaks)
      (broken.bytes ++ (after.flatMap Announced.bytes ++ rest))
    rw [readAll_broken rule] at first
    simpa using first

/-- A frame with an untidy header block: a blank line in front, a foreign header, a length that is
superseded, and a line that is no header at all. -/
def untidy (text : String) (room : (Utf8.encode text.toList).length ≤ maxRoom) : Announced where
  body := Utf8.encode text.toList
  header := {
    opening := ["\r\n".toList, "Content-Type: a:b\n".toList]
    superseded := [" CONTENT-length\t:+0099 \n".toList]
    announcing := "Content-Length: ".toList ++
      Nat.toDigits 10 (Utf8.encode text.toList).length ++ ['\r'] ++ ['\n']
    trailing := ["content-length\n".toList]
    closing := " \n".toList
    complete := by
      have announcing : IsLine ("Content-Length: ".toList ++
          Nat.toDigits 10 (Utf8.encode text.toList).length ++ ['\r'] ++ ['\n']) :=
        ⟨_, lengthLine_unbroken _, rfl⟩
      have others : ∀ line ∈ ["\r\n".toList, "Content-Type: a:b\n".toList,
          " CONTENT-length\t:+0099 \n".toList, "content-length\n".toList, " \n".toList],
          IsLine line := by decide
      intro line member
      simp only [List.mem_append, List.mem_cons, List.not_mem_nil, or_false] at member others
      grind
    opens := by
      intro line member
      simp only [List.mem_cons, List.not_mem_nil, or_false] at member
      obtain rfl | rfl := member
      · exact .inl (shaped_of_readHeaderLine (by decide) nofun)
      · exact .inr (shaped_of_readHeaderLine (by decide) nofun)
    supersedes := by
      intro line member
      rw [List.mem_singleton.mp member]
      exact .inl ⟨99, shaped_of_readHeaderLine (by decide) nofun⟩
    announces := shaped_of_readHeaderLine
      (readHeaderLine_length (Nat.le_trans room (by decide))) nofun
    trails := by
      intro line member
      rw [List.mem_singleton.mp member]
      exact shaped_of_readHeaderLine (by decide) nofun
    closes := shaped_of_readHeaderLine (by decide) nofun }
  room := room

/-- What the body of an untidy frame comes to is decided by its text. -/
theorem untidy_outcome (text : String) (room : (Utf8.encode text.toList).length ≤ maxRoom) :
    (untidy text room).outcome =
      match (Json.parse maxDepth text.toList).elim (.error .malformed) Message.ofJson with
      | .ok message => .message message
      | .error error => .failed error := by
  simp only [untidy, Announced.outcome, Outcome.ofBody, readBody, Utf8.decode_encode]
  cases Json.parse maxDepth text.toList <;> rfl

/-- A body that looks like a header, one whose identifier is none and a good one are read in their
places, up to the body that is no object; the frame behind it is left whole. -/
theorem untidy_stream_stays_aligned :
    let disguised := untidy "Content-Length: 0\r\n\r\n" (by decide)
    let nameless := untidy "\x7b\"id\":[]\x7d" (by decide)
    let notice := untidy "\x7b\"method\":\"ü\"\x7d" (by decide)
    let list := untidy "[]" (by decide)
    readAll (([disguised, nameless, notice] ++ list :: [notice]).flatMap Announced.bytes ++ [67]) =
      ([.failed .malformed,
        .failed (.deserialize "data did not match any variant of untagged enum RequestId"),
        .message (.notification ⟨"ü", .null⟩),
        .failed (.protocol "message is not a JSON object")], notice.bytes ++ [67]) := by
  intro disguised nameless notice list
  have first : disguised.outcome = .failed .malformed := by
    rw [untidy_outcome]
    decide +kernel
  have second : nameless.outcome = .failed
      (.deserialize "data did not match any variant of untagged enum RequestId") := by
    rw [untidy_outcome]
    decide +kernel
  have third : notice.outcome = .message (.notification ⟨"ü", .null⟩) := by
    rw [untidy_outcome]
    decide +kernel
  have fourth : list.outcome = .failed (.protocol "message is not a JSON object") := by
    rw [untidy_outcome]
    decide +kernel
  have lawful : ∀ frame ∈ [disguised, nameless, notice], ∀ reason,
      Outcome.ofBody frame.body ≠ .failed (.protocol reason) := by
    intro frame member reason
    simp only [List.mem_cons, List.not_mem_nil, or_false] at member
    change frame.outcome ≠ _
    obtain rfl | rfl | rfl := member
    · simp [first]
    · simp [second]
    · simp [third]
  have aligned := bad_bodies_never_shift_the_stream.2.2 [disguised, nameless, notice] [notice] list
    [67] lawful ⟨_, fourth⟩
  have alone (frame : Announced) : (read frame.bytes).1 = frame.outcome := by
    have single := (bad_bodies_never_shift_the_stream.1 frame []).1
    rw [List.append_nil] at single
    exact congrArg Prod.fst single
  rw [aligned]
  simp [alone, first, second, third, fourth]

end Frame

end LanguageClient.Rpc
