import LanguageClient.Path

/-!
# Programs in the file system

A tree of directories and programs, as far as running a program needs it. A path is followed
name by name from the root or from the working directory. Every name on the way must be a
directory, so two dots after a missing name fail although they would cancel out in the text.
Names and whole paths have a greatest length, counted in bytes.

A program is run by its path. A bare name without a slash is looked up in the directories of the
command path first.
-/

namespace LanguageClient

/-- How a program ends. -/
inductive ProgramEnd where
  | exited (status : UInt8)
  | killed (signal : Nat)
deriving DecidableEq, Repr

namespace ProgramEnd

/-- The names of the signals that have one, from the first on. -/
def signalNames : List String :=
  ["SIGHUP", "SIGINT", "SIGQUIT", "SIGILL", "SIGTRAP", "SIGABRT", "SIGBUS", "SIGFPE", "SIGKILL",
    "SIGUSR1", "SIGSEGV", "SIGUSR2", "SIGPIPE", "SIGALRM", "SIGTERM", "SIGSTKFLT", "SIGCHLD",
    "SIGCONT", "SIGSTOP", "SIGTSTP", "SIGTTIN", "SIGTTOU", "SIGURG", "SIGXCPU", "SIGXFSZ",
    "SIGVTALRM", "SIGPROF", "SIGWINCH", "SIGIO", "SIGPWR", "SIGSYS"]

/-- The name of a signal. -/
def signalName? : Nat → Option String
  | 0 => none
  | signal + 1 => signalNames[signal]?

/-- Signals that have no effect on a program that does not ask for them. -/
def idleSignals : List Nat := [0, 17, 18, 23, 28]

/-- How a program ends that sends itself a signal as its last act. -/
def ofSignal (signal : Nat) : ProgramEnd :=
  if idleSignals.contains signal then .exited 0 else .killed signal

/-- Whether a program succeeded. -/
def isSuccess (outcome : ProgramEnd) : Bool := outcome == .exited 0

/-- Wording of an end. -/
def describe : ProgramEnd → String
  | .exited status => "exit status: " ++ toString status.toNat
  | .killed signal =>
    "signal: " ++ toString signal ++
      match signalName? signal with
      | some name => " (" ++ name ++ ")"
      | none => ""

end ProgramEnd

/-- Why a path cannot be used. -/
inductive FileError where
  | notFound
  | accessDenied
  | notDirectory
  | nameTooLong
  | nulInPath
deriving DecidableEq, Repr

/-- Wording of a file error. -/
def FileError.message : FileError → String
  | .notFound => "No such file or directory (os error 2)"
  | .accessDenied => "Permission denied (os error 13)"
  | .notDirectory => "Not a directory (os error 20)"
  | .nameTooLong => "File name too long (os error 36)"
  | .nulInPath => "nul byte found in provided data"

/-- What stands at a place of the tree. A file tells how it ends when it is run. -/
inductive FileNode where
  | directory
  | file (executable : Bool) (outcome : ProgramEnd)
deriving DecidableEq, Repr

/-- A place in the tree: the names on the way from the root. -/
abbrev FilePlace := List (List Char)

/-- What stands where, the directory in which relative paths start, and the directories in which
bare command names are looked up. The root is always a directory. -/
structure FileSystem where
  nodes : List (FilePlace × FileNode)
  workingDirectory : FilePlace
  commandPath : List (List Char)
deriving DecidableEq, Repr

namespace FileSystem

/-- The greatest length of a name, in bytes. -/
def longestName : Nat := 255

/-- The greatest length of a path, in bytes. -/
def longestPath : Nat := 4095

/-- What stands at a place. -/
def nodeAt? (files : FileSystem) (place : FilePlace) : Option FileNode :=
  if place.isEmpty then some .directory else files.nodes.lookup place

/-- One step from a place. Dots need a directory to stand in as well. -/
def step (files : FileSystem) (place : FilePlace) (name : List Char) : Except FileError FilePlace :=
  match files.nodeAt? place with
  | none => .error .notFound
  | some (.file _ _) => .error .notDirectory
  | some .directory =>
    if Path.isIgnored name then .ok place
    else if name = ['.', '.'] then .ok place.dropLast
    else if longestName < (String.ofList name).utf8ByteSize then .error .nameTooLong
    else
      match files.nodeAt? (place ++ [name]) with
      | some _ => .ok (place ++ [name])
      | none => .error .notFound

/-- Follow a path to its place. -/
def follow (files : FileSystem) (path : List Char) : Except FileError FilePlace :=
  if path.contains '\x00' then .error .nulInPath
  else if path.isEmpty then .error .notFound
  else if longestPath < (String.ofList path).utf8ByteSize then .error .nameTooLong
  else
    (Text.split '/' path).foldlM files.step
      (if Path.isAbsolute path then [] else files.workingDirectory)

/-- What stands at the end of a path. -/
def nodeOf (files : FileSystem) (path : List Char) : Except FileError FileNode := do
  let place ← files.follow path
  match files.nodeAt? place with
  | some node => .ok node
  | none => .error .notFound

/-- Whether a path leads to a directory, or why not. -/
def directoryOf (files : FileSystem) (path : List Char) : Except FileError Unit := do
  match ← files.nodeOf path with
  | .directory => .ok ()
  | .file _ _ => .error .notDirectory

/-- A path as seen from the root. An absolute path stays as it is written; of a relative path
only the components that count are kept. -/
def fromRoot (files : FileSystem) (path : List Char) : List Char :=
  if Path.isAbsolute path then path
  else
    Path.assemble .root
      (files.workingDirectory ++ (Path.segments path).filter (!Path.isIgnored ·))

/-- Whether a path leads to a file that can be run. -/
def isProgram (files : FileSystem) (path : List Char) : Bool :=
  match files.nodeOf path with
  | .ok (.file executable _) => executable
  | _ => false

/-- Run the program at a path. -/
def runAt (files : FileSystem) (path : List Char) : Except FileError ProgramEnd := do
  match ← files.nodeOf path with
  | .file true outcome => .ok outcome
  | .file false _ | .directory => .error .accessDenied

/-- Run the first of several paths that can be run. A name that is too long ends the search. A
denied path is what is reported when there is none; otherwise it is the error of the last path. -/
def runFirst (files : FileSystem) : FileError → List (List Char) → Except FileError ProgramEnd
  | reported, [] => .error reported
  | reported, path :: paths =>
    match files.runAt path with
    | .ok outcome => .ok outcome
    | .error .nameTooLong => .error .nameTooLong
    | .error error =>
      files.runFirst (if reported == .accessDenied then reported else error) paths

/-- Run a command: the program at a path, or the first program of that name. -/
def run (files : FileSystem) (command : List Char) : Except FileError ProgramEnd :=
  if command.contains '/' || command.isEmpty || command.contains '\x00' then files.runAt command
  else
    files.runFirst .notFound
      (files.commandPath.map fun directory => Path.join directory command)

end FileSystem

end LanguageClient
