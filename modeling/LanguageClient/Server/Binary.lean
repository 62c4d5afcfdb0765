import LanguageClient.Server.FileSystem

/-!
# Finding the server

The server can be named by the user, come with the client, or stand in a directory of a search
path. The candidates are tried in this order, and the first that passes a probe is taken: running
it with the argument `probe` must succeed. When none passes, the reasons of all candidates that
were tried are reported together.
-/

namespace LanguageClient.Server

/-- The file name of the server. -/
def binaryName : String := "tinymist"

/-- Where to look for the server. Without a search path no directory is searched. -/
structure Candidates where
  explicit : Option String
  bundled : Option String
  searchPath : Option String
deriving DecidableEq, Repr

/-- No candidate passed; one reason for each that was tried. -/
structure NotFound where
  reasons : List String
deriving DecidableEq, Repr

/-- Wording of a search without a result. -/
def NotFound.message (notFound : NotFound) : String :=
  "could not find a valid tinymist binary.\n" ++ "\n".intercalate notFound.reasons

/-- Run the probe of a binary; tells why it does not pass. -/
def probe (files : FileSystem) (path : String) : Except String Unit :=
  match files.run path.toList with
  | .error error => .error error.message
  | .ok outcome =>
    if outcome.isSuccess then .ok () else .error ("probe exited with " ++ outcome.describe)

/-- The first program with the server's name in the directories of a search path, as seen from
the root. -/
def search (files : FileSystem) (searchPath : String) : Option String :=
  (((Text.split ':' searchPath.toList).map fun directory =>
    files.fromRoot (Path.join directory binaryName.toList)).find? files.isProgram).map
      String.ofList

namespace Candidates

/-- The candidates to try in order: where each comes from, and its path if there is one. -/
def tried (candidates : Candidates) (files : FileSystem) : List (String × Option String) :=
  candidates.explicit.toList.map (("serverPath", some ·)) ++
    candidates.bundled.toList.map (("bundled", some ·)) ++
    candidates.searchPath.toList.map fun directories => ("PATH", search files directories)

/-- Try one candidate: its path, or the reason why it is not taken. -/
def attempt (files : FileSystem) : String × Option String → Except String String
  | (origin, none) => .error (origin ++ ": cannot find binary path")
  | (origin, some path) =>
    match probe files path with
    | .ok () => .ok path
    | .error reason => .error (origin ++ " " ++ path ++ ": " ++ reason)

/-- Try candidates in order, after some were rejected. -/
def firstPassing (files : FileSystem) (rejected : List String) :
    List (String × Option String) → Except NotFound String
  | [] => .error ⟨if rejected.isEmpty then ["no candidate configured"] else rejected⟩
  | candidate :: rest =>
    match attempt files candidate with
    | .ok path => .ok path
    | .error reason => firstPassing files (rejected ++ [reason]) rest

/-- The first candidate that passes the probe. -/
def resolve (candidates : Candidates) (files : FileSystem) : Except NotFound String :=
  firstPassing files [] (candidates.tried files)

end Candidates

end LanguageClient.Server
