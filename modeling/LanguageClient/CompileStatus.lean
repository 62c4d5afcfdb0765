import LanguageClient.Json.Decode

/-!
# Compile status

The server reports the phase of the last compilation with page and word counts. The display for
the status area adds up words and characters of scripts without spaces; the sum is a number of
32 bits, and counts whose sum does not fit have no display.
-/

namespace LanguageClient

/-- The phase of a compilation. -/
inductive CompilePhase where
  | compiling
  | success
  | failure
deriving DecidableEq, Repr

namespace CompilePhase

/-- The name of a phase. -/
def name : CompilePhase → String
  | .compiling => "Compiling"
  | .success => "CompileSuccess"
  | .failure => "CompileError"

/-- Read a phase by its name. -/
def decode : Json.Decoder CompilePhase :=
  Json.enumeration [("Compiling", .compiling), ("CompileSuccess", .success),
    ("CompileError", .failure)]

end CompilePhase

/-- Word statistics of a document. -/
structure WordCount where
  words : UInt32
  characters : UInt32
  spaces : UInt32
  cjkCharacters : UInt32
deriving DecidableEq, Repr

namespace WordCount

/-- The JSON form of word statistics. -/
def encode (count : WordCount) : Json :=
  .ofFields [("words", .ofNat count.words.toNat), ("chars", .ofNat count.characters.toNat),
    ("spaces", .ofNat count.spaces.toNat), ("cjkChars", .ofNat count.cjkCharacters.toNat)]

/-- Members of word statistics. -/
def layout : Json.Layout WordCount :=
  (Json.Layout.nothing WordCount.mk).and (.required "words" Json.word32)
    |>.and (.required "chars" Json.word32)
    |>.and (.required "spaces" Json.word32)
    |>.and (.defaulted "cjkChars" Json.word32 0)

/-- Read word statistics. -/
def decode : Json.Decoder WordCount := Json.record "WordsCount" layout

/-- The displayed total, if it fits 32 bits. -/
def total? (count : WordCount) : Option UInt32 :=
  let sum := count.words.toNat + count.cjkCharacters.toNat
  if sum < UInt32.size then some (UInt32.ofNat sum) else none

end WordCount

/-- A report on the last compilation. -/
structure CompileStatus where
  phase : CompilePhase
  path : String
  pageCount : UInt32
  wordCount : Option WordCount
deriving DecidableEq, Repr

/-- How serious a status is. -/
inductive StatusLevel where
  | progress
  | success
  | error
deriving DecidableEq, Repr

/-- What the editor shows in its status area. -/
structure StatusDisplay where
  level : StatusLevel
  text : String
  tooltip : String
deriving DecidableEq, Repr

namespace CompileStatus

/-- The JSON form of a report. -/
def encode (status : CompileStatus) : Json :=
  .ofFields [("status", .string status.phase.name), ("path", .string status.path),
    ("pageCount", .ofNat status.pageCount.toNat),
    ("wordsCount", Json.orNull (status.wordCount.map WordCount.encode))]

/-- Members of a report. -/
def layout : Json.Layout CompileStatus :=
  (Json.Layout.nothing CompileStatus.mk).and (.required "status" CompilePhase.decode)
    |>.and (.required "path" Json.text)
    |>.and (.defaulted "pageCount" Json.word32 0)
    |>.and (.defaulted "wordsCount" (Json.nullable WordCount.decode) none)

/-- Read a report. -/
def decode : Json.Decoder CompileStatus := Json.record "CompileStatusParams" layout

/-- The seriousness of a phase. -/
def level : CompilePhase → StatusLevel
  | .compiling => .progress
  | .success => .success
  | .failure => .error

/-- The short text of a phase, given the displayed total. -/
def label (total : Option UInt32) : CompilePhase → String
  | .compiling => "Compiling"
  | .success =>
    match total with
    | some words => toString words.toNat ++ " words"
    | none => "Compiled"
  | .failure => "Compile error"

/-- The word statistics as the last line of the long text. -/
def countLine (count : WordCount) : String :=
  "\n" ++ toString count.words.toNat ++ " words, " ++ toString count.characters.toNat ++
    " characters, " ++ toString count.spaces.toNat ++ " spaces, " ++
    toString count.cjkCharacters.toNat ++ " CJK characters"

/-- The long text of a report. -/
def tooltip (status : CompileStatus) : String :=
  status.path ++ " (" ++ toString status.pageCount.toNat ++ " pages)" ++
    match status.wordCount with
    | some count => countLine count
    | none => ""

/-- The display of a report with the given total. -/
def displayWith (status : CompileStatus) (total : Option UInt32) : StatusDisplay :=
  ⟨level status.phase, label total status.phase, tooltip status⟩

/-- The display of a report. Counts whose total does not fit have none, whatever the phase. -/
def display? (status : CompileStatus) : Option StatusDisplay :=
  match status.wordCount with
  | none => some (displayWith status none)
  | some count => count.total?.map fun total => displayWith status (some total)

end CompileStatus

end LanguageClient
