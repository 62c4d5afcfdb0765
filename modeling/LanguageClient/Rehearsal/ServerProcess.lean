import LanguageClient.Rehearsal.Description
import LanguageClient.Rpc.Frame

/-!
# A scripted server process

A process follows a list of actions on its input and output. It acts until it has to wait for
input or for time to pass. After the last action it reads its input to the end and exits.
-/

namespace LanguageClient.Rehearsal

/-- One action of a process. -/
inductive ServerAction where
  /-- Read a number of frames. -/
  | read (frames : Nat)
  /-- Read a frame and send it back inside a notification. -/
  | echo
  | write (bytes : List UInt8)
  | closeInput
  | sleep (milliseconds : Nat)
  | exit
deriving DecidableEq, Repr

/-- A process: what it is going to do, the frames that it has not read, what it has written and
nobody has read, and when it wakes up if it sleeps. Its input is closed by itself or ended by the
other side. -/
structure ServerProcess where
  actions : List ServerAction
  input : List (List UInt8)
  inputClosed : Bool
  inputEnded : Bool
  output : List UInt8
  wakeAt : Option Nat
  exited : Bool
deriving DecidableEq, Repr

namespace ServerProcess

/-- A process at its start. -/
def fresh (actions : List ServerAction) : ServerProcess :=
  ⟨actions, [], false, false, [], none, false⟩

/-- Whether nothing more comes in. -/
def inputOver (process : ServerProcess) : Bool := process.inputClosed || process.inputEnded

/-- The notification that sends a frame back. -/
def echoOf (frame : List UInt8) : List UInt8 :=
  Rpc.Frame.write (.notification ⟨"echo", .string (String.ofList (Utf8.decodeLossy frame))⟩)

/-- Write to the output. -/
def put (process : ServerProcess) (bytes : List UInt8) : ServerProcess :=
  { process with output := process.output ++ bytes }

/-- Perform actions as far as possible at a time. -/
def perform (clock : Nat) (process : ServerProcess) : List ServerAction → ServerProcess
  | [] => { process with actions := [], input := [], exited := process.inputOver }
  | .exit :: _ => { process with actions := [], exited := true }
  | .write bytes :: rest => perform clock (process.put bytes) rest
  | .closeInput :: rest => perform clock { process with inputClosed := true, input := [] } rest
  | .sleep milliseconds :: rest =>
    let due := process.wakeAt.getD (clock + milliseconds)
    if due ≤ clock then perform clock { process with wakeAt := none } rest
    else { process with actions := .sleep milliseconds :: rest, wakeAt := some due }
  | .read frames :: rest =>
    if frames ≤ process.input.length || process.inputOver then
      perform clock { process with input := process.input.drop frames } rest
    else
      { process with actions := .read (frames - process.input.length) :: rest, input := [] }
  | .echo :: rest =>
    match process.input with
    | frame :: left => perform clock ({ process with input := left }.put (echoOf frame)) rest
    | [] =>
      if process.inputOver then perform clock process rest
      else { process with actions := .echo :: rest }

/-- Act as far as possible at a time. -/
def act (clock : Nat) (process : ServerProcess) : ServerProcess :=
  if process.exited then process else process.perform clock process.actions

/-- Whether writing to the process fails. -/
def refusesInput (process : ServerProcess) : Bool := process.inputClosed || process.exited

end ServerProcess

/-- The frame of a JSON value. -/
def frameOf (value : Json) : List UInt8 := Rpc.Frame.frame (Utf8.encode value.write)

/-- Read an action. What goes to the error output is not part of the conversation. -/
def Read.serverAction : Reader ServerAction
  | _, .object [("read", value)] => (Read.nat "read" value).map .read
  | _, .object [("echo", _)] => .ok .echo
  | _, .object [("frame", value)] => .ok (.write (frameOf value))
  | _, .object [("write", .string text)] => .ok (.write (Utf8.encode text.toList))
  | _, .object [("stderr", _)] => .ok (.write [])
  | _, .object [("close_input", _)] => .ok .closeInput
  | _, .object [("sleep_ms", value)] => (Read.nat "sleep_ms" value).map .sleep
  | _, .object [("exit", _)] => .ok .exit
  | name, _ => complain name

end LanguageClient.Rehearsal
