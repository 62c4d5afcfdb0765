import LanguageClient.Proofs.FrameBoundaries

/-!
# Where a stream may end

Reading takes an input for one that ended cleanly when it runs out before any length was given. That
is more than an input of blank lines: whatever the lines of the input hold, as long as none is of
the header that gives the length, the end behind or within them is a clean one. So the name of that
header may be cut short as well, and the very beginning of a frame passes for a regular end.

Once a length is named there is no clean end any more, and nothing but a complete frame is read as a
message: the header block that was read can be put together again from its lines, and the body has
the length that the block announces.
-/

namespace LanguageClient.Text

/-- White space at the end of a text makes no difference to trimming it. -/
theorem trim_append_blank (text : List Char) {after : List Char} (blank : AllBlank after) :
    trim (text ++ after) = trim text := by
  have dropped : after.dropWhile isBlank = [] := List.dropWhile_eq_nil_iff.mpr blank
  rw [trim, trim, List.dropWhile_append]
  split
  · rename_i empty
    rw [dropped, List.isEmpty_iff.mp empty]
  · have behind : ∀ character ∈ after.reverse, isBlank character = true :=
      fun character member => blank character (List.mem_reverse.mp member)
    rw [trimEnd, List.reverse_append, List.dropWhile_append_of_pos behind, trimEnd]

end LanguageClient.Text

namespace LanguageClient.Rpc.Frame

open Text (AllBlank)

/-- A line feed at its end makes no difference to what a line says. -/
theorem readHeaderLine_lineFeed (line : List Char) :
    readHeaderLine (line ++ ['\n']) = readHeaderLine line := by
  have blank : AllBlank ['\n'] := List.all_eq_true.mp rfl
  rw [readHeaderLine, readHeaderLine, Text.trim_append_blank line blank]

/-- A line is read over before the first length exactly if it is not of the length header. -/
theorem unnamed_iff {line : List Char} :
    (∀ value, ¬ NamesLength line value) ↔
      readHeaderLine line = .blank ∨ readHeaderLine line = .other := by
  constructor
  · intro unnamed
    by_cases blank : AllBlank line
    · exact .inl (Shaped.blank blank).readHeaderLine
    · exact .inr (Shaped.other blank unnamed).readHeaderLine
  · intro said value named
    rw [readHeaderLine_named named] at said
    split at said <;> simp at said

/-- The bytes of a line are followed by the bytes of the lines behind it. -/
theorem encode_line (line rest : List Char) :
    Utf8.encode (line ++ '\n' :: rest) = Utf8.encode (line ++ ['\n']) ++ Utf8.encode rest := by
  rw [← Utf8.encode_append, List.append_assoc, List.singleton_append]

/-- The first line of an input ends with its only line feed, or it is the whole input and holds
none. -/
theorem splitLine_cases (bytes : List UInt8) :
    (∃ line, 10 ∉ line ∧ (splitLine bytes).1 = line ++ [10]) ∨
      10 ∉ (splitLine bytes).1 ∧ (splitLine bytes).2 = [] := by
  induction bytes with
  | nil => simp [splitLine]
  | cons byte rest inductionHypothesis =>
    by_cases feed : byte = 10
    · exact .inl ⟨[], by simp [splitLine, feed]⟩
    · obtain ⟨line, absent, ends⟩ | ⟨absent, last⟩ := inductionHypothesis
      · exact .inl ⟨byte :: line, by simp [absent, Ne.symm feed], by simp [splitLine, feed, ends]⟩
      · exact .inr (by simp [splitLine, feed, Ne.symm feed, absent, last])

/-- A text whose bytes end with their only line feed is a line. -/
theorem isLine_of_encode {text : List Char} {line : List UInt8}
    (ends : Utf8.encode text = line ++ [10]) (absent : 10 ∉ line) : IsLine text := by
  have member : '\n' ∈ text := by
    apply Decidable.by_contra
    intro missing
    exact Utf8.lineFeed_not_mem_encode missing (ends ▸ by simp)
  obtain ⟨content, rest, rfl, unbroken⟩ := List.eq_append_cons_of_mem member
  have bytes : Utf8.encode (content ++ '\n' :: rest) =
      Utf8.encode content ++ 10 :: Utf8.encode rest := Utf8.encode_append content ('\n' :: rest)
  have cutLine := splitLine_append_lineFeed (Utf8.lineFeed_not_mem_encode unbroken)
    (Utf8.encode rest)
  rw [← bytes, ends, splitLine_append_lineFeed absent] at cutLine
  have nothing : Utf8.encode rest = Utf8.encode [] := (Prod.mk.inj cutLine).2.symm
  obtain rfl := Utf8.encode_injective nothing
  exact ⟨content, unbroken, rfl⟩

/-- The first line of an input, if it can be decoded: it ends with its only line feed, or it is the
whole input and holds none. -/
theorem splitLine_decoded {bytes : List UInt8} {text : List Char}
    (decoded : Utf8.decode (splitLine bytes).1 = .ok text) :
    bytes = Utf8.encode text ++ (splitLine bytes).2 ∧
      (IsLine text ∨ '\n' ∉ text ∧ (splitLine bytes).2 = []) := by
  have encoded := Utf8.encode_of_decode decoded
  constructor
  · rw [encoded, splitLine_append]
  · obtain ⟨line, absent, ends⟩ | ⟨absent, last⟩ := splitLine_cases bytes
    · exact .inl (isLine_of_encode (encoded.trans ends) absent)
    · rw [← encoded] at absent
      exact .inr ⟨fun member => absent (Utf8.lineFeed_mem_encode member), last⟩

/-- Without a line feed the whole input is one line. -/
theorem splitLine_unbroken {line : List UInt8} (absent : 10 ∉ line) :
    splitLine line = (line, []) := by
  induction line with
  | nil => rfl
  | cons byte line inductionHypothesis =>
    have different : byte ≠ 10 := fun same => absent (same ▸ List.mem_cons_self)
    have later := inductionHypothesis fun member => absent (List.mem_cons_of_mem byte member)
    simp [splitLine, different, later]

/-- The last line of an input may lack its line feed; it is read all the same. -/
theorem readHeader_last {text : List Char} (absent : '\n' ∉ text) (nonempty : text ≠ [])
    (length : Option Nat) :
    readHeader length (Utf8.encode text) = headerStep length (readHeaderLine text) [] := by
  have whole := splitLine_unbroken (Utf8.lineFeed_not_mem_encode absent)
  unfold readHeader
  split
  · rename_i empty
    have nothing : Utf8.encode text = Utf8.encode [] := empty
    exact absurd (Utf8.encode_injective nothing) nonempty
  · rename_i byte following shape
    rw [← shape, whole]
    simp only [Utf8.decode_encode]
    rfl

/-- An input in which no length was given: a text none of whose lines is of the length header. -/
def Unannounced (bytes : List UInt8) : Prop :=
  ∃ text, bytes = Utf8.encode text ∧
    ∀ line ∈ Text.split '\n' text, ∀ value, ¬ NamesLength line value

/-- A line that gives no length may be put before an input in which none was given. -/
theorem Unannounced.line {text : List Char} {rest : List UInt8}
    (shape : IsLine text ∨ '\n' ∉ text ∧ rest = [])
    (said : readHeaderLine text = .blank ∨ readHeaderLine text = .other)
    (unannounced : Unannounced rest) : Unannounced (Utf8.encode text ++ rest) := by
  obtain ⟨content, absent, rfl⟩ | ⟨absent, rfl⟩ := shape
  · obtain ⟨others, rfl, unnamed⟩ := unannounced
    rw [readHeaderLine_lineFeed, ← unnamed_iff] at said
    refine ⟨content ++ '\n' :: others, (encode_line content others).symm, ?_⟩
    rw [Text.split_append absent]
    exact List.forall_mem_cons.mpr ⟨said, unnamed⟩
  · refine ⟨text, List.append_nil _, ?_⟩
    rw [Text.split_of_not_mem absent]
    exact List.forall_mem_singleton.mpr (unnamed_iff.mpr said)

/-- Reading finds a clean end only where no length was given. -/
theorem unannounced_of_readHeader {length : Option Nat} {bytes : List UInt8}
    (ended : readHeader length bytes = .ended) : length = none ∧ Unannounced bytes := by
  -- By the lines that are read; a length, once seen, is never forgotten.
  fun_induction readHeader length bytes with
  | case1 | case3 | case4 | case7 => cases ended
  | case2 length unseen =>
    refine ⟨by simpa using unseen, [], rfl, ?_⟩
    rintro line member value ⟨before, name, after, split, -⟩
    rw [List.mem_singleton.mp member] at split
    simp at split
  | case5 byte following line left text decoded blank inductionHypothesis =>
    obtain ⟨whole, shape⟩ := splitLine_decoded decoded
    refine ⟨rfl, ?_⟩
    rw [whole]
    exact (inductionHypothesis ended).2.line shape (.inl blank)
  | case6 length byte following line left text decoded value shape inductionHypothesis =>
    cases (inductionHypothesis ended).1
  | case8 byte following line left text decoded length other inductionHypothesis =>
    obtain ⟨whole, shape⟩ := splitLine_decoded decoded
    refine ⟨(inductionHypothesis ended).1, ?_⟩
    rw [whole]
    exact (inductionHypothesis ended).2.line shape (.inr other)

/-- Lines that give no length are read over up to a clean end. -/
theorem Unannounced.readHeader {bytes : List UInt8} (unannounced : Unannounced bytes) :
    readHeader none bytes = .ended := by
  obtain ⟨text, rfl, unnamed⟩ := unannounced
  have nothing : Frame.readHeader none [] = .ended := by simp [Frame.readHeader]
  have passed {said : HeaderLine} (unseen : said = .blank ∨ said = .other) (rest : List UInt8) :
      headerStep none said rest = Frame.readHeader none rest := by
    obtain rfl | rfl := unseen <;> rfl
  induction text using Text.pieces_induction '\n' with
  | last line absent =>
    rw [Text.split_of_not_mem absent, List.forall_mem_singleton, unnamed_iff] at unnamed
    by_cases empty : line = []
    · rw [empty]
      exact nothing
    · rw [readHeader_last absent empty, passed unnamed, nothing]
  | further line rest absent inductionHypothesis =>
    rw [Text.split_append absent, List.forall_mem_cons, unnamed_iff] at unnamed
    rw [encode_line, readHeader_line absent, readHeaderLine_lineFeed, passed unnamed.1]
    exact inductionHypothesis unnamed.2

/-- Behind a header block there is no room for the body, or something is wrong with it, or the body
is complete and makes a message. -/
theorem read_announced_cases {bytes rest : List UInt8} {length : Nat}
    (found : readHeader none bytes = .body length rest) :
    (read bytes).1 = .noRoom ∨ (∃ error, (read bytes).1 = .failed error) ∨
      length ≤ maxRoom ∧ length ≤ rest.length ∧
        ∃ message, (read bytes).1 = .message message ∧
          Outcome.ofBody (rest.take length) = .message message := by
  by_cases crowded : maxRoom < length
  · exact .inl (by simp [read, found, crowded])
  · by_cases cut : rest.length < length
    · exact .inr (.inl ⟨.eof, by simp [read, found, crowded, cut]⟩)
    · have whole : (read bytes).1 = .ofBody (rest.take length) := by
        simp [read, found, crowded, cut]
      obtain ⟨message, outcome⟩ | ⟨error, outcome, -⟩ := ofBody_cases (rest.take length)
      · exact .inr (.inr ⟨Nat.not_lt.mp crowded, Nat.not_lt.mp cut, message,
          whole.trans outcome, outcome⟩)
      · exact .inr (.inl ⟨error, whole.trans outcome⟩)

/-- Reading finds a clean end exactly where no length was given. -/
theorem read_ended_iff (bytes : List UInt8) : (read bytes).1 = .ended ↔ Unannounced bytes := by
  constructor
  · intro ended
    cases header : readHeader none bytes with
    | ended => exact (unannounced_of_readHeader header).2
    | failed error rest => simp [read, header] at ended
    | body length rest =>
      obtain outcome | ⟨error, outcome⟩ | ⟨-, -, message, outcome, -⟩ :=
        read_announced_cases header
      all_goals simp [outcome] at ended
  · intro unannounced
    rw [read, unannounced.readHeader]

/-- White space gives no length. -/
theorem unannounced_of_allBlank {text : List Char} (blank : AllBlank text) :
    Unannounced (Utf8.encode text) := by
  refine ⟨text, rfl, ?_⟩
  rintro line isLine value ⟨before, name, after, rfl, -⟩
  have colon : ':' ∈ text := Text.mem_of_mem_split isLine (by simp)
  exact colon_not_mem blank colon

/-- The lines of a header block from its last length on, as far as they were read: the line that
gives the length, and other headers. -/
structure LengthLines (length : Nat) where
  announcing : List Char
  trailing : List (List Char)
  complete : ∀ line ∈ announcing :: trailing, IsLine line
  announces : Shaped announcing (.length length)
  trails : ∀ line ∈ trailing, Shaped line .other

namespace LengthLines

variable {length : Nat}

/-- The bytes of the lines. -/
def bytes (given : LengthLines length) : List UInt8 :=
  (given.announcing :: given.trailing).flatMap Utf8.encode

/-- A line that was just read gives a length. -/
def single {line : List Char} (complete : IsLine line) (announces : Shaped line (.length length)) :
    LengthLines length where
  announcing := line
  trailing := []
  complete := List.forall_mem_singleton.mpr complete
  announces := announces
  trails := List.forall_mem_nil _

/-- Another header follows. -/
def followed (given : LengthLines length) {line : List Char} (complete : IsLine line)
    (trails : Shaped line .other) : LengthLines length :=
  { given with
    trailing := given.trailing ++ [line]
    complete := List.forall_mem_append.mpr
      ⟨given.complete, List.forall_mem_singleton.mpr complete⟩
    trails := List.forall_mem_append.mpr ⟨given.trails, List.forall_mem_singleton.mpr trails⟩ }

/-- A blank line makes a block of the lines. -/
def closed (given : LengthLines length) {line : List Char} (complete : IsLine line)
    (closes : Shaped line .blank) : HeaderBlock length where
  opening := []
  superseded := []
  announcing := given.announcing
  trailing := given.trailing
  closing := line
  complete := List.forall_mem_append.mpr ⟨given.complete, List.forall_mem_singleton.mpr complete⟩
  opens := List.forall_mem_nil _
  supersedes := List.forall_mem_nil _
  announces := given.announces
  trails := given.trails
  closes := closes

@[simp] theorem bytes_single {line : List Char} (complete : IsLine line)
    (announces : Shaped line (.length length)) :
    (single complete announces).bytes = Utf8.encode line := by
  simp [single, bytes]

@[simp] theorem bytes_followed (given : LengthLines length) {line : List Char}
    (complete : IsLine line) (trails : Shaped line .other) :
    (given.followed complete trails).bytes = given.bytes ++ Utf8.encode line := by
  simp [followed, bytes]

@[simp] theorem bytes_closed (given : LengthLines length) {line : List Char}
    (complete : IsLine line) (closes : Shaped line .blank) :
    (given.closed complete closes).bytes = given.bytes ++ Utf8.encode line := by
  simp [closed, bytes, HeaderBlock.bytes, HeaderBlock.lines]

end LengthLines

namespace HeaderBlock

variable {length : Nat}

/-- A block stays one with another line in front that gives no length. -/
def opened (block : HeaderBlock length) {line : List Char} (complete : IsLine line)
    (opens : Shaped line .blank ∨ Shaped line .other) : HeaderBlock length :=
  { block with
    opening := line :: block.opening
    complete := List.forall_mem_cons.mpr ⟨complete, block.complete⟩
    opens := List.forall_mem_cons.mpr ⟨opens, block.opens⟩ }

@[simp] theorem bytes_opened (block : HeaderBlock length) {line : List Char}
    (complete : IsLine line) (opens : Shaped line .blank ∨ Shaped line .other) :
    (block.opened complete opens).bytes = Utf8.encode line ++ block.bytes := by
  simp [opened, bytes, lines]

/-- A block that starts with a length stays one with an earlier length in front, which it
supersedes. -/
def superseding (block : HeaderBlock length) (starts : block.opening = []) {earlier : Nat}
    (given : LengthLines earlier) : HeaderBlock length :=
  { block with
    opening := []
    superseded := given.announcing :: given.trailing ++ block.superseded
    complete := by
      have complete := block.complete
      rw [starts, List.nil_append, List.append_assoc] at complete
      rw [List.nil_append, List.append_assoc, List.append_assoc]
      exact List.forall_mem_append.mpr ⟨given.complete, complete⟩
    opens := List.forall_mem_nil _
    supersedes := by
      intro line member
      obtain isGiven | further := List.mem_append.mp member
      · obtain rfl | trails := List.mem_cons.mp isGiven
        · exact .inl ⟨earlier, given.announces⟩
        · exact .inr (given.trails line trails)
      · exact block.supersedes line further }

@[simp] theorem bytes_superseding (block : HeaderBlock length) (starts : block.opening = [])
    {earlier : Nat} (given : LengthLines earlier) :
    (block.superseding starts given).bytes = given.bytes ++ block.bytes := by
  simp [superseding, bytes, lines, LengthLines.bytes, starts]

end HeaderBlock

/-- A line is complete if anything is left behind it. -/
theorem splitLine_complete {bytes : List UInt8} {text : List Char}
    (decoded : Utf8.decode (splitLine bytes).1 = .ok text) (more : (splitLine bytes).2 ≠ []) :
    bytes = Utf8.encode text ++ (splitLine bytes).2 ∧ IsLine text := by
  obtain ⟨whole, complete | ⟨-, last⟩⟩ := splitLine_decoded decoded
  · exact ⟨whole, complete⟩
  · exact absurd last more

/-- Something is left of an input in which the end of a header block is found. -/
theorem ne_nil_of_body {length : Option Nat} {announced : Nat} {bytes rest : List UInt8}
    (found : readHeader length bytes = .body announced rest) : bytes ≠ [] := by
  rintro rfl
  exact absurd (readHeader_shorter found) (Nat.not_lt_zero _)

/-- The lines from the length that was seen last and what is left of the header block make a block.
-/
theorem block_of_seen {length : Option Nat} {announced : Nat} {bytes rest : List UInt8}
    (found : readHeader length bytes = .body announced rest) (more : rest ≠ []) :
    ∀ seen (given : LengthLines seen), length = some seen →
      ∃ block : HeaderBlock announced, block.opening = [] ∧
        given.bytes ++ bytes = block.bytes ++ rest := by
  -- By the lines that are read: another header joins the lines behind the length, another length
  -- supersedes them all, and a blank line closes the block.
  fun_induction readHeader length bytes with
  | case1 | case2 | case3 | case7 => cases found
  | case4 byte following line left text decoded length blank =>
    intro seen given known
    obtain rfl := Option.some.inj known
    obtain ⟨rfl, rfl⟩ := Header.body.inj found
    obtain ⟨whole, complete⟩ := splitLine_complete decoded more
    refine ⟨given.closed complete (shaped_of_readHeaderLine blank (by simp)), rfl, ?_⟩
    rw [whole, LengthLines.bytes_closed, List.append_assoc]
  | case5 =>
    intro seen given known
    cases known
  | case6 length byte following line left text decoded value said inductionHypothesis =>
    intro seen given known
    obtain ⟨whole, complete⟩ := splitLine_complete decoded (ne_nil_of_body found)
    have announces : Shaped text (.length value) := shaped_of_readHeaderLine said (by simp)
    obtain ⟨block, starts, bytes⟩ := inductionHypothesis found value (.single complete announces) rfl
    rw [LengthLines.bytes_single] at bytes
    refine ⟨block.superseding starts given, rfl, ?_⟩
    rw [whole, bytes, HeaderBlock.bytes_superseding, List.append_assoc]
  | case8 byte following line left text decoded length other inductionHypothesis =>
    intro seen given known
    obtain ⟨whole, complete⟩ := splitLine_complete decoded (ne_nil_of_body found)
    have trails : Shaped text .other := shaped_of_readHeaderLine other (by simp)
    obtain ⟨block, starts, bytes⟩ :=
      inductionHypothesis found seen (given.followed complete trails) known
    rw [LengthLines.bytes_followed, List.append_assoc] at bytes
    refine ⟨block, starts, ?_⟩
    rw [whole]
    exact bytes

/-- What is read as a header block is one, if anything is left behind it. -/
theorem block_of_body {announced : Nat} {bytes rest : List UInt8}
    (found : readHeader none bytes = .body announced rest) (more : rest ≠ []) :
    ∃ block : HeaderBlock announced, bytes = block.bytes ++ rest := by
  generalize unseen : (none : Option Nat) = length at found
  -- By the lines that are read, up to the first length.
  fun_induction readHeader length bytes with
  | case1 | case2 | case3 | case7 => cases found
  | case4 => cases unseen
  | case5 byte following line left text decoded blank inductionHypothesis =>
    obtain ⟨whole, complete⟩ := splitLine_complete decoded (ne_nil_of_body found)
    obtain ⟨block, bytes⟩ := inductionHypothesis rfl found
    refine ⟨block.opened complete (.inl (shaped_of_readHeaderLine blank (by simp))), ?_⟩
    rw [whole, HeaderBlock.bytes_opened, List.append_assoc, ← bytes]
  | case6 length byte following line left text decoded value said inductionHypothesis =>
    obtain ⟨whole, complete⟩ := splitLine_complete decoded (ne_nil_of_body found)
    have announces : Shaped text (.length value) := shaped_of_readHeaderLine said (by simp)
    obtain ⟨block, -, bytes⟩ := block_of_seen found more value (.single complete announces) rfl
    rw [LengthLines.bytes_single] at bytes
    exact ⟨block, whole.trans bytes⟩
  | case8 byte following line left text decoded length other inductionHypothesis =>
    obtain ⟨whole, complete⟩ := splitLine_complete decoded (ne_nil_of_body found)
    obtain ⟨block, bytes⟩ := inductionHypothesis unseen found
    refine ⟨block.opened complete (.inr (shaped_of_readHeaderLine other (by simp))), ?_⟩
    rw [whole, HeaderBlock.bytes_opened, List.append_assoc, ← bytes]

/-- Nothing but a complete frame is read as a message. -/
theorem frame_of_message {bytes : List UInt8} {message : Message}
    (found : (read bytes).1 = .message message) :
    ∃ frame : Announced, frame.bytes <+: bytes := by
  cases header : readHeader none bytes with
  | ended => simp [read, header] at found
  | failed error rest => simp [read, header] at found
  | body length rest =>
    obtain outcome | ⟨error, outcome⟩ | ⟨room, complete, other, -, outcome⟩ :=
      read_announced_cases header
    · rw [outcome] at found
      cases found
    · rw [outcome] at found
      cases found
    · have more : rest ≠ [] := by
        rintro rfl
        have nothing : Outcome.ofBody [] = .failed .malformed := by decide +kernel
        rw [List.take_nil, nothing] at outcome
        cases outcome
      obtain ⟨block, rfl⟩ := block_of_body header more
      obtain ⟨body, after, rfl, rfl⟩ : ∃ body after, rest = body ++ after ∧ body.length = length :=
        ⟨rest.take length, rest.drop length, (List.take_append_drop length rest).symm,
          List.length_take_of_le complete⟩
      exact ⟨⟨body, block, room⟩, after, by simp [Announced.bytes]⟩

/-- A beginning of two parts around a separator ends in the first, or in the second. -/
theorem cases_of_cut {α : Type} {piece left right : List α} {separator : α}
    (starts : piece <+: left ++ separator :: right) :
    piece <+: left ∨ ∃ more, piece = left ++ separator :: more ∧ more <+: right := by
  obtain inside | ⟨tail, rfl⟩ :=
    List.prefix_or_prefix_of_prefix starts (List.prefix_append left (separator :: right))
  · exact .inl inside
  · obtain rfl | ⟨more, rfl, behind⟩ :=
      List.prefix_cons_iff.mp ((List.prefix_append_right_inj left).mp starts)
    · exact .inl (by simp)
    · exact .inr ⟨more, rfl, behind⟩

/-- The line with which a written frame begins, up to its line feed. -/
def announcement (length : Nat) : List Char :=
  "Content-Length: ".toList ++ Nat.toDigits 10 length ++ ['\r']

/-- A written frame is the line that announces the body, a blank line and the body. -/
theorem write_eq (message : Message) :
    write message = Utf8.encode (announcement (body message).length) ++
      10 :: 13 :: 10 :: body message := by
  have ends : Utf8.encode "\r\n\r\n".toList = Utf8.encode ['\r'] ++ [10, 13, 10] := by decide
  unfold write frame announcement
  simp only [Utf8.encode_append, ends, List.append_assoc]
  rfl

/-- The line that announces a body starts with the name of the header and a colon. -/
theorem announcement_eq (length : Nat) :
    announcement length =
      "Content-Length".toList ++ ':' :: (' ' :: Nat.toDigits 10 length ++ ['\r']) := by
  have name : "Content-Length: ".toList = "Content-Length".toList ++ [':', ' '] := by decide
  unfold announcement
  rw [name, List.append_assoc, List.append_assoc]
  rfl

/-- The line that announces a body is made of ASCII characters. -/
theorem announcement_ascii (length : Nat) :
    ∀ character ∈ announcement length, character.toNat < 0x80 := by
  intro character member
  unfold announcement at member
  simp only [List.mem_append, List.mem_singleton] at member
  obtain (inName | inDigits) | rfl := member
  · have named : ("Content-Length: ".toList.all fun letter => decide (letter.toNat < 0x80)) =
        true := by decide
    exact of_decide_eq_true (List.all_eq_true.mp named character inName)
  · have digit := Json.Numeral.isDigit_of_mem inDigits
    simp only [Char.isDigit, Bool.and_eq_true, decide_eq_true_eq] at digit
    have bound : character.toNat ≤ 57 := digit.2
    omega
  · decide

/-- The name of the length header may be cut short anywhere: without its colon it is an input like
any other in which no length was given. -/
theorem read_name_piece {piece : List UInt8}
    (starts : piece <+: Utf8.encode "Content-Length".toList) : (read piece).1 = .ended := by
  have ascii : ∀ character ∈ "Content-Length".toList, character.toNat < 0x80 :=
    fun character member => announcement_ascii 0 character
      (announcement_eq 0 ▸ List.mem_append_left _ member)
  obtain ⟨text, front, rfl⟩ := Utf8.encode_prefix_ascii ascii starts
  rw [read_ended_iff]
  refine ⟨text, rfl, ?_⟩
  have unbroken : '\n' ∉ text := fun member => absurd (front.subset member) (by decide)
  rw [Text.split_of_not_mem unbroken, List.forall_mem_singleton]
  rintro value ⟨before, name, after, rfl, -⟩
  have colon : ':' ∈ "Content-Length".toList := front.subset (by simp)
  exact absurd colon (by decide)

/-- An input that ends in the line that names the length is an error. -/
theorem read_named_piece {text value : List Char} (unbroken : '\n' ∉ text)
    (named : NamesLength text value) : ∃ error, (read (Utf8.encode text)).1 = .failed error := by
  have nonempty : text ≠ [] := by
    obtain ⟨before, name, after, rfl, -⟩ := named
    simp
  have header := readHeader_last unbroken nonempty none
  rw [readHeaderLine_named named] at header
  split at header
  · exact ⟨.eof, by simp [read, header, headerStep, readHeader]⟩
  · exact ⟨_, by rw [read, header]; rfl⟩

/-- An input that ends behind the line that gives the length, but before the end of the body, is an
error. -/
theorem read_cut_piece {body more : List UInt8} (nonempty : body ≠ [])
    (room : body.length ≤ maxRoom) (starts : more <+: 13 :: 10 :: body)
    (cut : more ≠ 13 :: 10 :: body) :
    (read (Utf8.encode (announcement body.length) ++ 10 :: more)).1 = .failed .eof := by
  have first : readHeader none (Utf8.encode (announcement body.length) ++ 10 :: more) =
      readHeader (some body.length) more := by
    have fits : body.length ≤ maxLength := Nat.le_trans room (by decide)
    have line := readHeader_line (lengthLine_unbroken body.length) none more
    rw [readHeaderLine_length fits, Utf8.encode_append, List.append_assoc] at line
    exact line
  have blank : readHeaderLine ['\r'] = .blank := by decide
  obtain rfl | ⟨tail, rfl, tailed⟩ := List.prefix_cons_iff.mp starts
  · simp [read, first, readHeader]
  · have short : ∃ rest, readHeader (some body.length) (13 :: tail) = .body body.length rest ∧
        rest.length < body.length := by
      obtain rfl | ⟨front, rfl, fronted⟩ := List.prefix_cons_iff.mp tailed
      · have last := readHeader_last (by decide : '\n' ∉ ['\r']) (by simp) (some body.length)
        rw [blank, headerStep] at last
        exact ⟨[], last, List.length_pos_of_ne_nil nonempty⟩
      · have line := readHeader_line (by decide : '\n' ∉ ['\r']) (some body.length) front
        rw [readHeaderLine_lineFeed, blank, headerStep] at line
        have shorter : front ≠ body := fun same => cut (by rw [same])
        refine ⟨front, line, Nat.lt_of_le_of_ne fronted.length_le fun same => ?_⟩
        exact shorter (fronted.eq_of_length same)
    obtain ⟨rest, header, incomplete⟩ := short
    have fits : ¬ maxRoom < body.length := Nat.not_lt.mpr room
    simp [read, first, header, fits, incomplete]

/-- The body of a message is not empty. -/
theorem body_ne_nil (message : Message) : body message ≠ [] := by
  intro empty
  have nothing : Utf8.encode message.toJson.write = Utf8.encode [] := empty
  have written := Utf8.encode_injective nothing
  cases message with
  | request call => simp [Message.toJson, Json.ofFields, Json.write] at written
  | notification notice => simp [Message.toJson, Json.ofFields, Json.write] at written
  | response answer =>
    cases fault : answer.error <;>
      simp [Message.toJson, fault, Json.ofFields, Json.write] at written

/-- A written frame that is cut short is an error, unless the cut is in the name of its header. -/
theorem read_write_piece {message : Message} {piece : List UInt8}
    (room : (body message).length ≤ maxRoom) (starts : piece <+: write message)
    (cut : piece ≠ write message) (named : ¬ piece <+: Utf8.encode "Content-Length".toList) :
    ∃ error, (read piece).1 = .failed error := by
  rw [write_eq] at starts cut
  obtain inside | ⟨more, rfl, behind⟩ := cases_of_cut starts
  · obtain ⟨text, front, rfl⟩ := Utf8.encode_prefix_ascii (announcement_ascii _) inside
    have unbroken : '\n' ∉ text := fun member => lengthLine_unbroken _ (front.subset member)
    rw [announcement_eq] at front
    obtain ⟨others, short⟩ | ⟨value, rfl, -⟩ := cases_of_cut front
    · exact absurd ⟨Utf8.encode others, by rw [← Utf8.encode_append, short]⟩ named
    · have nothing : AllBlank [] := List.forall_mem_nil _
      have named : NamesLength ("Content-Length".toList ++ ':' :: value) value :=
        ⟨[], "Content-Length".toList, [], by simp, nothing, nothing, by decide⟩
      exact read_named_piece unbroken named
  · refine ⟨.eof, read_cut_piece (body_ne_nil message) room behind ?_⟩
    rintro rfl
    exact cut rfl

/-- Where reading finds a clean end. It does so exactly in an input in which no length was given: a
text none of whose lines is of the header for the length. Blank lines alone are such a text, but so
is one with other headers, and one that ends in the name of that header. Any other input that holds
no complete frame at its beginning is an error, or announces a body for which there can be no room.
In particular a written frame that is cut short is an error, unless the cut falls into the name with
which it begins: then it reads as a clean end.

Proof: by the lines that are read, which are those of the text. A length that was seen is never
forgotten, and the lines up to a message make a header block. -/
theorem clean_end_iff_no_length_was_given (bytes : List UInt8) :
    ((read bytes).1 = .ended ↔
      ∃ text, bytes = Utf8.encode text ∧
        ∀ line ∈ Text.split '\n' text, ∀ value, ¬ NamesLength line value) ∧
    (∀ text, AllBlank text → bytes = Utf8.encode text → (read bytes).1 = .ended) ∧
    ((read bytes).1 ≠ .ended → (∀ frame : Announced, ¬ frame.bytes <+: bytes) →
      (∃ error, (read bytes).1 = .failed error) ∨ (read bytes).1 = .noRoom) ∧
    ∀ message, (body message).length ≤ maxRoom → bytes <+: write message →
      bytes ≠ write message →
      (bytes <+: Utf8.encode "Content-Length".toList → (read bytes).1 = .ended) ∧
      (¬ bytes <+: Utf8.encode "Content-Length".toList →
        ∃ error, (read bytes).1 = .failed error) := by
  refine ⟨read_ended_iff bytes, ?_, ?_, ?_⟩
  · rintro text blank rfl
    exact (read_ended_iff _).mpr (unannounced_of_allBlank blank)
  · intro unended incomplete
    cases outcome : (read bytes).1 with
    | message value =>
      obtain ⟨frame, starts⟩ := frame_of_message outcome
      exact absurd starts (incomplete frame)
    | ended => exact absurd outcome unended
    | failed error => exact .inl ⟨error, rfl⟩
    | noRoom => exact .inr rfl
  · intro message room starts cut
    exact ⟨read_name_piece, read_write_piece room starts cut⟩

/-- A notice whose frame breaks off in the name of its header reads as a clean end, though more than
white space was read; with the colon or with half the body it is an error, and so is any other
header block whose body breaks off. -/
theorem notice_cut_in_the_name_ends_cleanly :
    let notice := Message.notification ⟨"a", .null⟩
    let other := Utf8.encode "A: b\ncontent-length : 7\n\n\x7b".toList
    (read (Utf8.encode " \n\t".toList)).1 = .ended ∧
    (read (Utf8.encode "Content-Le".toList)).1 = .ended ∧
    (∃ error, (read ((write notice).take 15)).1 = .failed error) ∧
    (∃ error, (read ((write notice).take 30)).1 = .failed error) ∧
    ((∃ error, (read other).1 = .failed error) ∨ (read other).1 = .noRoom) := by
  intro notice other
  have room : (body notice).length ≤ maxRoom := by decide +kernel
  have pieces (bytes : List UInt8) (starts : bytes <+: write notice)
      (cut : bytes ≠ write notice) :=
    (clean_end_iff_no_length_was_given bytes).2.2.2 notice room starts cut
  refine ⟨?_, ?_, ?_, ?_, ?_⟩
  · have blank : AllBlank " \n\t".toList := List.all_eq_true.mp rfl
    exact (clean_end_iff_no_length_was_given _).2.1 _ blank rfl
  · exact (pieces _ (by decide +kernel) (by decide +kernel)).1 (by decide +kernel)
  · exact (pieces _ ( List.take_prefix 15 _) (by decide +kernel)).2 (by decide +kernel)
  · exact (pieces _ ( List.take_prefix 30 _) (by decide +kernel)).2 (by decide +kernel)
  · have outcome : (read other).1 = .failed .eof := by decide +kernel
    apply (clean_end_iff_no_length_was_given other).2.2.1
    · simp [outcome]
    · rintro frame ⟨rest, whole⟩
      rw [← whole, frame.read_bytes] at outcome
      obtain ⟨message, complete⟩ | ⟨error, complete, fault⟩ := ofBody_cases frame.body
      · simp [Announced.outcome, complete] at outcome
      · obtain rfl : error = .eof := by simpa [Announced.outcome, complete] using outcome
        simp [TransportError.IsBodyFault, TransportError.isPayloadOnly] at fault

end LanguageClient.Rpc.Frame
