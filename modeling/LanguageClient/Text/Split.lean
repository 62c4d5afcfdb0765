/-!
# Cutting texts at characters

Cuts on lists of characters: before the first occurrence of a character, at every occurrence,
and after a known beginning. Joining the pieces of a cut with the separator gives the text
back.
-/

namespace LanguageClient.Text

/-- What stands before and after the first occurrence of a character. -/
def cut (separator : Char) : List Char → Option (List Char × List Char)
  | [] => none
  | character :: rest =>
    if character = separator then some ([], rest)
    else (cut separator rest).map fun (before, after) => (character :: before, after)

/-- The pieces between the occurrences of a character. There is always at least one piece. -/
def split (separator : Char) : List Char → List (List Char)
  | [] => [[]]
  | character :: rest =>
    if character = separator then [] :: split separator rest
    else
      match split separator rest with
      | piece :: pieces => (character :: piece) :: pieces
      | [] => [[character]]

/-- Join pieces with a character between any two neighbours. -/
def join (separator : Char) : List (List Char) → List Char
  | [] => []
  | [piece] => piece
  | piece :: pieces => piece ++ separator :: join separator pieces

/-- What follows a known beginning, if the text starts with it. -/
def after : List Char → List Char → Option (List Char)
  | [], text => some text
  | _ :: _, [] => none
  | expected :: beginning, character :: text =>
    if expected = character then after beginning text else none

/-- What follows a cut is shorter than the text. -/
theorem cut_shorter {separator : Char} {text before after : List Char}
    (found : cut separator text = some (before, after)) : after.length < text.length := by
  fun_induction cut separator text generalizing before with
  | case1 => simp at found
  | case2 rest =>
    simp only [Option.some.injEq, Prod.mk.injEq] at found
    simp [found.2]
  | case3 character rest _ inductionHypothesis =>
    simp only [Option.map_eq_some_iff] at found
    obtain ⟨⟨inner, left⟩, cutRest, same⟩ := found
    simp only [Prod.mk.injEq] at same
    have shorter := inductionHypothesis (same.2 ▸ cutRest)
    simp only [List.length_cons]
    omega

/-- A text is cut at the first occurrence of a character. -/
theorem cut_append {separator : Char} {before : List Char} (absent : separator ∉ before)
    (after : List Char) : cut separator (before ++ separator :: after) = some (before, after) := by
  induction before with
  | nil => simp [cut]
  | cons character before inductionHypothesis =>
    have different : character ≠ separator := fun same => absent (same ▸ List.mem_cons_self)
    have later := inductionHypothesis fun member => absent (List.mem_cons_of_mem character member)
    simp [cut, different, later]

/-- A cut takes a text apart around the separator. -/
theorem of_cut_eq_some {separator : Char} {text before after : List Char}
    (found : cut separator text = some (before, after)) : text = before ++ separator :: after := by
  fun_induction cut separator text generalizing before with
  | case1 => simp at found
  | case2 rest =>
    obtain ⟨rfl, rfl⟩ := Prod.mk.inj (Option.some.inj found)
    rfl
  | case3 character rest _ inductionHypothesis =>
    obtain ⟨⟨front, back⟩, inside, same⟩ := Option.map_eq_some_iff.mp found
    obtain ⟨rfl, rfl⟩ := Prod.mk.inj same
    rw [inductionHypothesis inside]
    rfl

/-- A text is cut exactly if the character occurs in it. -/
theorem cut_eq_none_iff {separator : Char} {text : List Char} :
    cut separator text = none ↔ separator ∉ text := by
  induction text with
  | nil => simp [cut]
  | cons character rest inductionHypothesis =>
    by_cases same : character = separator
    · simp [cut, same]
    · simp [cut, same, Ne.symm same, inductionHypothesis]

/-- What stands before a cut does not hold the separator. -/
theorem not_mem_of_cut {separator : Char} {text before after : List Char}
    (found : cut separator text = some (before, after)) : separator ∉ before := by
  fun_induction cut separator text generalizing before with
  | case1 => simp at found
  | case2 rest =>
    obtain ⟨rfl, rfl⟩ := Prod.mk.inj (Option.some.inj found)
    simp
  | case3 character rest different inductionHypothesis =>
    obtain ⟨⟨front, back⟩, inside, same⟩ := Option.map_eq_some_iff.mp found
    obtain ⟨rfl, rfl⟩ := Prod.mk.inj same
    simp [Ne.symm different, inductionHypothesis inside]

/-- A text has at least one piece. -/
theorem split_ne_nil (separator : Char) (text : List Char) : split separator text ≠ [] := by
  cases text with
  | nil => simp [split]
  | cons character rest =>
    unfold split
    split
    · simp
    · split <;> simp

/-- Joining the pieces of a text gives the text back. -/
theorem join_split (separator : Char) (text : List Char) :
    join separator (split separator text) = text := by
  induction text with
  | nil => rfl
  | cons character rest inductionHypothesis =>
    cases pieces : split separator rest with
    | nil => exact absurd pieces (split_ne_nil separator rest)
    | cons piece others =>
      rw [pieces] at inductionHypothesis
      unfold split
      split
      · rename_i same
        simp [join, pieces, same, inductionHypothesis]
      · rw [pieces]
        cases others with
        | nil => simpa [join] using inductionHypothesis
        | cons next others => simpa [join] using inductionHypothesis

/-- A text without the separator is one piece. -/
theorem split_of_not_mem {separator : Char} {text : List Char} (absent : separator ∉ text) :
    split separator text = [text] := by
  induction text with
  | nil => rfl
  | cons character rest inductionHypothesis =>
    have different : character ≠ separator := fun same => absent (same ▸ List.mem_cons_self)
    have later := inductionHypothesis fun member => absent (List.mem_cons_of_mem character member)
    simp [split, different, later]

/-- The first separator ends the first piece. -/
theorem split_append {separator : Char} {piece : List Char} (absent : separator ∉ piece)
    (rest : List Char) :
    split separator (piece ++ separator :: rest) = piece :: split separator rest := by
  induction piece with
  | nil => simp [split]
  | cons character piece inductionHypothesis =>
    have different : character ≠ separator := fun same => absent (same ▸ List.mem_cons_self)
    have later := inductionHypothesis fun member => absent (List.mem_cons_of_mem character member)
    simp [split, different, later]

/-- Texts by their pieces: the last piece, or a piece, a separator and a rest of which the same is
said. -/
@[elab_as_elim]
theorem pieces_induction {motive : List Char → Prop} (separator : Char) (text : List Char)
    (last : ∀ piece, separator ∉ piece → motive piece)
    (further : ∀ piece rest, separator ∉ piece → motive rest →
      motive (piece ++ separator :: rest)) : motive text := by
  induction bound : text.length using Nat.strongRecOn generalizing text with
  | ind length inductionHypothesis =>
    cases found : cut separator text with
    | none => exact last text (cut_eq_none_iff.mp found)
    | some parts =>
      obtain ⟨piece, rest⟩ := parts
      have shorter := cut_shorter found
      have later := inductionHypothesis rest.length (by omega) rest rfl
      rw [of_cut_eq_some found]
      exact further piece rest (not_mem_of_cut found) later

/-- The characters of a piece are characters of the text. -/
theorem mem_of_mem_split {separator character : Char} {text piece : List Char}
    (isPiece : piece ∈ split separator text) (member : character ∈ piece) : character ∈ text := by
  induction text using pieces_induction separator with
  | last text absent =>
    rw [split_of_not_mem absent, List.mem_singleton] at isPiece
    exact isPiece ▸ member
  | further front rest absent inductionHypothesis =>
    rw [split_append absent, List.mem_cons] at isPiece
    obtain rfl | later := isPiece
    · exact List.mem_append_left _ member
    · exact List.mem_append_right _ (List.mem_cons_of_mem _ (inductionHypothesis later))

/-- No piece holds the separator. -/
theorem not_mem_of_mem_split {separator : Char} {text piece : List Char}
    (isPiece : piece ∈ split separator text) : separator ∉ piece := by
  induction text using pieces_induction separator with
  | last text absent =>
    rw [split_of_not_mem absent, List.mem_singleton] at isPiece
    exact isPiece ▸ absent
  | further front rest absent inductionHypothesis =>
    rw [split_append absent, List.mem_cons] at isPiece
    obtain rfl | later := isPiece
    · exact absent
    · exact inductionHypothesis later

/-- Every other character of the text is in a piece. -/
theorem exists_mem_split {separator character : Char} {text : List Char}
    (unlike : character ≠ separator) (inside : character ∈ text) :
    ∃ piece ∈ split separator text, character ∈ piece := by
  induction text using pieces_induction separator with
  | last text absent => exact ⟨text, by simp [split_of_not_mem absent], inside⟩
  | further front rest absent inductionHypothesis =>
    rw [split_append absent]
    obtain early | late := List.mem_append.mp inside
    · exact ⟨front, List.mem_cons_self, early⟩
    · obtain ⟨piece, isPiece, member⟩ :=
        inductionHypothesis ((List.mem_cons.mp late).resolve_left unlike)
      exact ⟨piece, List.mem_cons_of_mem front isPiece, member⟩

/-- Texts with a separator between them have the pieces of the one and then those of the other. -/
theorem split_append_split (separator : Char) (left right : List Char) :
    split separator (left ++ separator :: right) =
      split separator left ++ split separator right := by
  induction left using pieces_induction separator with
  | last left absent =>
    rw [split_append absent, split_of_not_mem absent]
    rfl
  | further front rest absent inductionHypothesis =>
    rw [List.append_assoc, List.cons_append, split_append absent, split_append absent,
      inductionHypothesis, List.cons_append]

/-- A separator at the end opens one more piece. -/
theorem split_snoc (separator : Char) (text : List Char) :
    split separator (text ++ [separator]) = split separator text ++ [[]] :=
  split_append_split separator text []

/-- Splitting what was joined gives the pieces back. -/
theorem split_join {separator : Char} {pieces : List (List Char)} (nonempty : pieces ≠ [])
    (absent : ∀ piece ∈ pieces, separator ∉ piece) :
    split separator (join separator pieces) = pieces := by
  fun_induction join separator pieces with
  | case1 => exact absurd rfl nonempty
  | case2 piece => exact split_of_not_mem (absent piece List.mem_cons_self)
  | case3 piece pieces more inductionHypothesis =>
    rw [split_append (absent piece List.mem_cons_self)]
    rw [inductionHypothesis more fun other inside =>
      absent other (List.mem_cons_of_mem piece inside)]

/-- Pieces in front of others are joined apart from them. -/
theorem join_append {separator : Char} {front back : List (List Char)} (frontMore : front ≠ [])
    (backMore : back ≠ []) :
    join separator (front ++ back) = join separator front ++ separator :: join separator back := by
  induction front with
  | nil => exact absurd rfl frontMore
  | cons piece pieces inductionHypothesis =>
    cases pieces with
    | nil =>
      obtain ⟨next, others, rfl⟩ := List.exists_cons_of_ne_nil backMore
      rfl
    | cons next others =>
      have later := inductionHypothesis (List.cons_ne_nil next others)
      simpa [join] using later

/-- What is joined holds no other characters than the pieces and the separator. -/
theorem not_mem_join {separator character : Char} (unlike : character ≠ separator)
    {pieces : List (List Char)} (absent : ∀ piece ∈ pieces, character ∉ piece) :
    character ∉ join separator pieces := by
  fun_induction join separator pieces with
  | case1 => simp
  | case2 piece => exact absent piece List.mem_cons_self
  | case3 piece pieces more inductionHypothesis =>
    have later := inductionHypothesis fun other inside =>
      absent other (List.mem_cons_of_mem piece inside)
    simp [absent piece List.mem_cons_self, unlike, later]

/-- A separator before each piece is one before what is joined. -/
theorem flatMap_eq_cons_join {separator : Char} {pieces : List (List Char)}
    (nonempty : pieces ≠ []) :
    pieces.flatMap (separator :: ·) = separator :: join separator pieces := by
  fun_induction join separator pieces with
  | case1 => exact absurd rfl nonempty
  | case2 piece => simp
  | case3 piece pieces more inductionHypothesis =>
    rw [List.flatMap_cons, inductionHypothesis more, List.cons_append]

end LanguageClient.Text
