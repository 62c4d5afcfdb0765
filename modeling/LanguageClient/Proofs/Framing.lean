import LanguageClient.Proofs.HeaderLines
import LanguageClient.Proofs.JsonText
import LanguageClient.Proofs.MessageBody

/-!
# Messages survive a stream

A frame announces its body in bytes, so the reader of a frame takes exactly the frame and leaves
what follows. Frames written one after the other are therefore read one after the other, each as
the message it was made of, and the input after the last frame is left untouched.

A message can be sent when its body can be read: its numbers are integers of 64 bits, its objects
are canonical, it has no more levels than a reader allows, and there is room for it.
-/

namespace LanguageClient.Rpc.Frame

/-- A message whose body can be read by the other side. Objects are canonical by the way they are
built, and no text is longer than the greatest length for which there can be room. -/
structure Sendable (message : Message) : Prop where
  readable : Json.Readable maxDepth message.toJson
  room : (body message).length ≤ maxRoom

/-- Whether a message can be sent can be computed. -/
instance (message : Message) : Decidable (Sendable message) :=
  decidable_of_iff (Json.Readable maxDepth message.toJson ∧ (body message).length ≤ maxRoom)
    ⟨fun ⟨readable, room⟩ => ⟨readable, room⟩, fun sendable => ⟨sendable.readable, sendable.room⟩⟩

/-- The bytes of a body are read as the message they were made of. -/
theorem readBody_body {message : Message} (sendable : Sendable message) :
    readBody (body message) = .ok message.normal := by
  simp only [readBody, body, Utf8.decode_encode, Json.parse_write sendable.readable,
    Message.ofJson_toJson]

/-- The header of a frame announces the length of its body; the body and what follows it are left
to be read. -/
theorem readHeader_frame {body : List UInt8} (fits : body.length ≤ maxLength)
    (rest : List UInt8) :
    readHeader none (frame body ++ rest) = .body body.length (body ++ rest) := by
  have lines : frame body ++ rest =
      Utf8.encode ("Content-Length: ".toList ++ Nat.toDigits 10 body.length ++ ['\r'] ++ ['\n']) ++
        (Utf8.encode (['\r'] ++ ['\n']) ++ (body ++ rest)) := by
    have split : "\r\n\r\n".toList = ['\r'] ++ ['\n'] ++ (['\r'] ++ ['\n']) := by decide
    simp only [frame, split, Utf8.encode_append, List.append_assoc]
  have blank : readHeaderLine (['\r'] ++ ['\n']) = .blank := by decide
  rw [lines, readHeader_line (lengthLine_unbroken _), readHeaderLine_length fits, headerStep,
    readHeader_line (by decide), blank, headerStep]

/-- A written message is read back, and what follows it is left unread. -/
theorem read_write {message : Message} (sendable : Sendable message) (rest : List UInt8) :
    read (write message ++ rest) = (.message message.normal, rest) := by
  have room : ¬ maxRoom < (body message).length := Nat.not_lt.mpr sendable.room
  have fits : (body message).length ≤ maxLength := Nat.le_trans sendable.room (by decide)
  have complete : ¬ (body message ++ rest).length < (body message).length := by
    rw [List.length_append]
    omega
  have outcome : Outcome.ofBody (body message) = .message message.normal := by
    simp only [Outcome.ofBody, readBody_body sendable]
  simp only [read, write, readHeader_frame fits, room, complete, if_false, List.take_left,
    List.drop_left, outcome]

/-- At the end of the input there is nothing to read. -/
theorem read_nil : read [] = (.ended, []) := by
  simp [read, readHeader]

/-- Pieces of a stream, each of which is read as an outcome after which reading goes on, are read
one after the other; what follows the last of them is read next. -/
theorem readFrames_pieces {Piece : Type} {pieces : List Piece} {bytes : Piece → List UInt8}
    {outcome : Piece → Outcome}
    (reads : ∀ piece ∈ pieces, ∀ rest, read (bytes piece ++ rest) = (outcome piece, rest))
    (continues : ∀ piece ∈ pieces, (outcome piece).continues = true) (extra : Nat)
    (rest : List UInt8) :
    readFrames (pieces.length + extra) (pieces.flatMap bytes ++ rest) =
      (pieces.map outcome ++ (readFrames extra rest).1, (readFrames extra rest).2) := by
  induction pieces with
  | nil => simp
  | cons piece pieces inductionHypothesis =>
    have first := reads piece List.mem_cons_self (pieces.flatMap bytes ++ rest)
    have going := continues piece List.mem_cons_self
    have others := inductionHypothesis
      (fun other member => reads other (List.mem_cons_of_mem piece member))
      (fun other member => continues other (List.mem_cons_of_mem piece member))
    have count : (piece :: pieces).length + extra = (pieces.length + extra) + 1 := by
      rw [List.length_cons]
      omega
    rw [count, List.flatMap_cons, List.append_assoc]
    simp [readFrames, first, going, others]

/-- Written messages are read back in order; what follows the last of them is left unread. -/
theorem readFrames_writes {messages : List Message}
    (sendable : ∀ message ∈ messages, Sendable message) (extra : Nat) (rest : List UInt8) :
    readFrames (messages.length + extra) (messages.flatMap write ++ rest) =
      (messages.map (fun message => .message message.normal) ++ (readFrames extra rest).1,
        (readFrames extra rest).2) :=
  readFrames_pieces (fun message member => read_write (sendable message member))
    (fun _ _ => rfl) extra rest

/-- Any messages that can be sent arrive as they were sent, in order, whatever follows them on the
stream, and the stream is left exactly where the last frame ends. When nothing follows, the next
read finds the end. -/
theorem stream_round_trip (messages : List Message)
    (sendable : ∀ message ∈ messages, Sendable message) (rest : List UInt8) :
    readFrames messages.length (messages.flatMap write ++ rest) =
        (messages.map fun message => .message message.normal, rest) ∧
      readFrames (messages.length + 1) (messages.flatMap write) =
        (messages.map (fun message => .message message.normal) ++ [.ended], []) := by
  constructor
  · simpa [readFrames] using readFrames_writes sendable 0 rest
  · have ended : readFrames 1 [] = ([.ended], []) := by
      simp [readFrames, read_nil, Outcome.continues]
    simpa [ended] using readFrames_writes sendable 1 []

/-- Quotes, line feeds, control characters and the extreme integers travel unharmed; the result
beside an error and the `null` data do not travel. -/
theorem extreme_messages_arrive :
    readFrames 2 ([Message.request ⟨.text "a\"\n", "ü", .array [.ofInt (-9223372036854775808),
        .ofFields [("k", .ofNat 18446744073709551615)]]⟩,
      .response ⟨.number 7, some (.bool true), some ⟨-32602, "\x01", some .null⟩⟩].flatMap write ++
        [67, 10]) =
      ([.message (.request ⟨.text "a\"\n", "ü", .array [.ofInt (-9223372036854775808),
          .ofFields [("k", .ofNat 18446744073709551615)]]⟩),
        .message (.response ⟨.number 7, none, some ⟨-32602, "\x01", none⟩⟩)], [67, 10]) :=
  (stream_round_trip [.request ⟨.text "a\"\n", "ü", .array [.ofInt (-9223372036854775808),
      .ofFields [("k", .ofNat 18446744073709551615)]]⟩,
    .response ⟨.number 7, some (.bool true), some ⟨-32602, "\x01", some .null⟩⟩] (by decide)
    [67, 10]).1

end LanguageClient.Rpc.Frame
