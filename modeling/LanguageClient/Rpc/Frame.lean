import LanguageClient.Json.Parser
import LanguageClient.Rpc.Body
import LanguageClient.Text.Blank
import LanguageClient.Text.Split
import LanguageClient.Text.Utf8

/-!
# Framed messages

A frame is a header block and a body. The header block is a sequence of lines, one of which
gives the length of the body in bytes, and ends with a blank line; blank lines before the first
length are skipped and other headers are ignored. The last length given counts.

Reading takes one frame from the front of the input and leaves the rest. The input ends cleanly
when it runs out before any length was given. A body is given room before it is read, so a length
for which there can be none breaks reading off however much input follows.
-/

namespace LanguageClient.Rpc.Frame

/-- Nesting of arrays and objects that a body may have. -/
def maxDepth : Nat := 127

/-- The greatest length that a header may give. -/
def maxLength : Nat := UInt64.size - 1

/-- The greatest length for which there can be room: that of a signed word. Whether memory for a
shorter body can be had is idealized: here it always can, whereas a process that is refused the
memory aborts, even if the body never comes. -/
def maxRoom : Nat := UInt64.size / 2 - 1

/-- The front of the input up to and including the first line feed, and the rest. -/
def splitLine : List UInt8 → List UInt8 × List UInt8
  | [] => ([], [])
  | byte :: rest =>
    if byte = 10 then ([byte], rest)
    else
      let (line, left) := splitLine rest
      (byte :: line, left)

/-- A line and the rest make up the input. -/
theorem splitLine_append (bytes : List UInt8) :
    (splitLine bytes).1 ++ (splitLine bytes).2 = bytes := by
  induction bytes with
  | nil => rfl
  | cons byte rest inductionHypothesis =>
    unfold splitLine
    split
    · rfl
    · simp [inductionHypothesis]

/-- The line at the front of a nonempty input is not empty. -/
theorem splitLine_shorter (byte : UInt8) (rest : List UInt8) :
    (splitLine (byte :: rest)).2.length < (byte :: rest).length := by
  have whole := congrArg List.length (splitLine_append (byte :: rest))
  rw [List.length_append] at whole
  have nonempty : 0 < (splitLine (byte :: rest)).1.length := by
    unfold splitLine
    split <;> simp
  omega

/-- A length: an optional plus sign and digits, within the greatest length. -/
def readLength (text : List Char) : Option Nat :=
  let unsigned :=
    match text with
    | '+' :: rest => rest
    | _ => text
  match Json.Numeral.someDigits unsigned with
  | some (values, []) =>
    let length := Json.Numeral.ofDigits values
    if length ≤ maxLength then some length else none
  | _ => none

/-- What a header line says. -/
inductive HeaderLine where
  | blank
  | length (value : Nat)
  | badLength (text : List Char)
  | other
deriving DecidableEq, Repr

/-- The header that gives the length of the body. -/
def lengthHeader : List Char := "content-length".toList

/-- Interpret a header line. White space around the line, the name and the value is dropped. -/
def readHeaderLine (line : List Char) : HeaderLine :=
  let header := Text.trim line
  if header.isEmpty then .blank
  else
    match Text.cut ':' header with
    | some (name, value) =>
      if Text.sameLetters (Text.trim name) lengthHeader then
        match readLength (Text.trim value) with
        | some length => .length length
        | none => .badLength (Text.trim value)
      else .other
    | none => .other

/-- What a header block says: a body of some length follows, the input ended before any length
was given, or the block cannot be read. The rest of the input comes with it. -/
inductive Header where
  | body (length : Nat) (rest : List UInt8)
  | ended
  | failed (error : TransportError) (rest : List UInt8)
deriving DecidableEq, Repr

/-- Read the lines of a header block, given the length seen so far. -/
def readHeader (length : Option Nat) (bytes : List UInt8) : Header :=
  match bytes with
  | [] => if length.isSome then .failed .eof [] else .ended
  | byte :: following =>
    let line := (splitLine (byte :: following)).1
    let rest := (splitLine (byte :: following)).2
    match Utf8.decode line with
    | .error fault => .failed (.io fault.message) rest
    | .ok text =>
      match readHeaderLine text, length with
      | .blank, some length => .body length rest
      | .blank, none => readHeader none rest
      | .length value, _ => readHeader (some value) rest
      | .badLength value, _ =>
        .failed (.protocol ("invalid Content-Length: " ++ String.ofList value)) rest
      | .other, length => readHeader length rest
termination_by bytes.length
decreasing_by all_goals exact splitLine_shorter byte following

/-- Interpret the bytes of a body. -/
def readBody (bytes : List UInt8) : Except TransportError Message :=
  match Utf8.decode bytes with
  | .error _ => .error .malformed
  | .ok text =>
    match Json.parse maxDepth text with
    | none => .error .malformed
    | some value => Message.ofJson value

/-- What one read finds. Where a body is announced for which there can be no room, reading breaks
off without a result. -/
inductive Outcome where
  | message (value : Message)
  | ended
  | failed (error : TransportError)
  | noRoom
deriving DecidableEq, Repr

/-- The outcome of a complete body. -/
def Outcome.ofBody (bytes : List UInt8) : Outcome :=
  match readBody bytes with
  | .ok value => .message value
  | .error error => .failed error

/-- Whether reading goes on after an outcome. -/
def Outcome.continues : Outcome → Bool
  | .message _ => true
  | .ended | .noRoom => false
  | .failed error => error.isPayloadOnly

/-- Read one frame from the front of the input; the rest is left unread. -/
def read (bytes : List UInt8) : Outcome × List UInt8 :=
  match readHeader none bytes with
  | .ended => (.ended, [])
  | .failed error rest => (.failed error, rest)
  | .body length rest =>
    if maxRoom < length then (.noRoom, rest)
    else if rest.length < length then (.failed .eof, [])
    else (.ofBody (rest.take length), rest.drop length)

/-- Whether a part of the input ends with a complete line. -/
def endsLine (bytes : List UInt8) : Bool := bytes.getLast? == some 10

/-- Read one frame from the front of an input that may go on. Nothing is found while the last
line or the body is incomplete; what is found stays the same however the input goes on. -/
def readReady (bytes : List UInt8) : Option (Outcome × List UInt8) :=
  let isReady (rest : List UInt8) : Bool := endsLine (bytes.take (bytes.length - rest.length))
  match readHeader none bytes with
  | .ended => none
  | .failed error rest =>
    if error != .eof && isReady rest then some (.failed error, rest) else none
  | .body length rest =>
    if !isReady rest then none
    else if maxRoom < length then some (.noRoom, rest)
    else if length ≤ rest.length then some (.ofBody (rest.take length), rest.drop length)
    else none

/-- Read frames while the first argument allows and reading can go on. -/
def readFrames : Nat → List UInt8 → List Outcome × List UInt8
  | 0, bytes => ([], bytes)
  | fuel + 1, bytes =>
    let (outcome, rest) := read bytes
    if outcome.continues then
      let (outcomes, left) := readFrames fuel rest
      (outcome :: outcomes, left)
    else ([outcome], rest)

/-- Read frames up to the end of the input or the first failure that concerns more than one
payload. -/
def readAll (bytes : List UInt8) : List Outcome × List UInt8 := readFrames (bytes.length + 1) bytes

/-- The body of a message as bytes. -/
def body (message : Message) : List UInt8 := Utf8.encode message.toJson.write

/-- The frame of a body. -/
def frame (body : List UInt8) : List UInt8 :=
  Utf8.encode ("Content-Length: ".toList ++ Nat.toDigits 10 body.length ++ "\r\n\r\n".toList) ++
    body

/-- The frame of a message. -/
def write (message : Message) : List UInt8 := frame (body message)

end LanguageClient.Rpc.Frame
