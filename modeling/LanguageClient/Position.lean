import LanguageClient.Json.Decode

/-!
# Positions, ranges and edits

Places in a document as the server counts them: a line and a character in it, both from zero.
-/

namespace LanguageClient

/-- A place in a document. -/
structure Position where
  line : UInt32
  character : UInt32
deriving DecidableEq, Repr

namespace Position

/-- The JSON form of a position. -/
def encode (position : Position) : Json :=
  .ofFields [("line", .ofNat position.line.toNat), ("character", .ofNat position.character.toNat)]

/-- Members of a position. -/
def layout : Json.Layout Position :=
  (Json.Layout.nothing Position.mk).and (.required "line" Json.word32)
    |>.and (.required "character" Json.word32)

/-- Read a position. -/
def decode : Json.Decoder Position := Json.record "Position" layout

end Position

/-- A stretch of a document between two positions. -/
structure Range where
  start : Position
  stop : Position
deriving DecidableEq, Repr

namespace Range

/-- The JSON form of a range. -/
def encode (range : Range) : Json :=
  .ofFields [("start", range.start.encode), ("end", range.stop.encode)]

/-- Members of a range. -/
def layout : Json.Layout Range :=
  (Json.Layout.nothing Range.mk).and (.required "start" Position.decode)
    |>.and (.required "end" Position.decode)

/-- Read a range. -/
def decode : Json.Decoder Range := Json.record "Range" layout

end Range

/-- The replacement of a range by a text. -/
structure TextEdit where
  range : Range
  newText : String
deriving DecidableEq, Repr

namespace TextEdit

/-- The JSON form of an edit. -/
def encode (edit : TextEdit) : Json :=
  .ofFields [("range", edit.range.encode), ("newText", .string edit.newText)]

/-- Members of an edit. -/
def layout : Json.Layout TextEdit :=
  (Json.Layout.nothing TextEdit.mk).and (.required "range" Range.decode)
    |>.and (.required "newText" Json.text)

/-- Read an edit. -/
def decode : Json.Decoder TextEdit := Json.record "TextEdit" layout

end TextEdit

end LanguageClient
