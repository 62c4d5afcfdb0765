import LanguageClient.Proofs.PercentEncoding
import Mathlib.Data.List.TakeWhile

/-!
# Paths and the file URIs that name them

The file URI of an absolute path has the encoded names of the path as its segments. None of them is
taken for a dot segment, dropped as empty or cut at a delimiter when the URI is read, so a path that
never goes to a parent is read back with the same components; only a slash may be added, after an
ending that looks like a drive letter.

Not every absolute path has a file URI. The four characters that are neither encoded nor allowed
keep the text from being one, and nothing else does.
-/

namespace LanguageClient

namespace Path

/-- The segments of a path that count. -/
def names (path : List Char) : List (List Char) := (segments path).filter (!isIgnored ·)

/-- A segment that counts and does not go to the parent. -/
structure IsName (name : List Char) : Prop where
  counts : isIgnored name = false
  stays : name ≠ ['.', '.']
  whole : '/' ∉ name

/-- An absolute path starts with a slash. -/
theorem exists_of_isAbsolute {path : List Char} (absolute : isAbsolute path = true) :
    ∃ rest, path = '/' :: rest := by
  unfold isAbsolute at absolute
  split at absolute
  · exact ⟨_, rfl⟩
  · cases absolute

/-- The components of an absolute path below its root are its segments that count. -/
theorem components_absolute {path : List Char} (absolute : isAbsolute path = true) :
    components path = .root :: (names path).map component := by
  obtain ⟨rest, rfl⟩ := exists_of_isAbsolute absolute
  rfl

/-- An absolute path that never goes to a parent consists of names. -/
theorem isName_of_mem_names {path name : List Char} (absolute : isAbsolute path = true)
    (downward : .parent ∉ components path) (inside : name ∈ names path) : IsName name where
  counts := by simpa using (List.mem_filter.mp inside).2
  stays := by
    rintro rfl
    rw [components_absolute absolute] at downward
    exact downward (List.mem_cons_of_mem _ (List.mem_map_of_mem inside))
  whole := Text.not_mem_of_mem_split (List.mem_filter.mp inside).1

/-- The components of a path that is written with names below the root. A slash at its end does not
matter. -/
theorem components_join {names : List (List Char)} (named : ∀ name ∈ names, IsName name)
    {ending : List Char} (ends : ending = [] ∨ ending = ['/']) :
    components ('/' :: (Text.join '/' names ++ ending)) = .root :: names.map component := by
  have kept : names.filter (!isIgnored ·) = names := by
    refine List.filter_eq_self.mpr fun name inside => ?_
    simp [(named name inside).counts]
  have counted : (Text.split '/' (Text.join '/' names)).filter (!isIgnored ·) = names := by
    by_cases rootOnly : names = []
    · subst rootOnly
      rfl
    · rw [Text.split_join rootOnly fun name inside => (named name inside).whole, kept]
  have written : (segments ('/' :: (Text.join '/' names ++ ending))).filter (!isIgnored ·) =
      names := by
    change (Text.split '/' (Text.join '/' names ++ ending)).filter (!isIgnored ·) = names
    obtain rfl | rfl := ends
    · rw [List.append_nil, counted]
    · rw [Text.split_snoc, List.filter_append, counted]
      exact List.append_nil names
  rw [components, written]
  rfl

end Path

namespace Uri

/-- The text of the file URI with the given segments. -/
def fileTextOf (segments : List (List Char)) : List Char :=
  "file:///".toList ++ Text.join '/' segments

/-- The scheme of a file URI ends at its first colon. -/
theorem cut_fileTextOf (segments : List (List Char)) :
    Text.cut ':' (fileTextOf segments) =
      some ("file".toList, '/' :: '/' :: '/' :: Text.join '/' segments) := by
  have absent : ':' ∉ "file".toList := by decide
  exact Text.cut_append absent _

/-- The segment of a component is what it was written as, encoded. -/
theorem segmentOf_component (segment : List Char) :
    segmentOf (Path.component segment) = [percentEncode segment] := by
  unfold Path.component
  split
  · rename_i parent
    subst parent
    decide
  · rfl

/-- The file URI of an absolute path has its names as segments, encoded. -/
theorem fileText_absolute {path : List Char} (absolute : Path.isAbsolute path = true) :
    fileText path = fileTextOf ((Path.names path).map percentEncode) := by
  have segments : (Path.components path).flatMap segmentOf =
      (Path.names path).map percentEncode := by
    rw [Path.components_absolute absolute, List.flatMap_cons, List.flatMap_map]
    simp only [segmentOf_component]
    exact List.map_eq_flatMap.symm
  unfold fileText fileTextOf
  rw [segments]
  generalize (Path.names path).map percentEncode = encoded
  cases encoded with
  | nil => rfl
  | cons first others =>
    exact congrArg ("file://".toList ++ ·) (Text.flatMap_eq_cons_join (List.cons_ne_nil _ _))

/-- A text is a URI exactly if it has the form of one. -/
theorem parse?_isSome (text : String) : (parse? text).isSome = isReference text.toList := by
  unfold parse?
  split
  · rename_i form
    exact form.symm
  · rename_i form
    exact (Bool.of_not_eq_true form).symm

/-- A URI keeps the text it was parsed from. -/
theorem text_of_parse? {text : String} {uri : Uri} (parsed : parse? text = some uri) :
    uri.text = text := by
  unfold parse? at parsed
  split at parsed
  · rw [← Option.some.inj parsed]
  · cases parsed

/-- An absolute path does not start from the working directory. -/
theorem ofFilePath?_absolute {path : List Char} (absolute : Path.isAbsolute path = true) :
    ofFilePath? path = parse? (String.ofList (fileText path)) := by
  rw [ofFilePath?, Path.join, if_pos absolute]

section Reading

/-- A segment that is read as it is written: it holds no delimiter and is no dot segment. -/
structure IsPlain (segment : List Char) : Prop where
  solid : segment ≠ []
  whole : '/' ∉ segment
  query : '?' ∉ segment
  fragment : '#' ∉ segment
  noDot : isDot segment = false
  noDots : isDoubleDot segment = false

/-- The encoded form of a name is read as it is written. What it is decoded to tells it from the
empty segment and from dots, which are no names. -/
theorem isPlain_percentEncode {name : List Char} (named : Path.IsName name) :
    IsPlain (percentEncode name) where
  solid := by
    intro empty
    have decoded := percentDecode_percentEncode name
    rw [empty] at decoded
    obtain rfl : name = [] := Utf8.encode_injective decoded.symm
    cases named.counts
  whole := not_mem_percentEncode (by decide) (by decide) (by decide) name
  query := not_mem_percentEncode (by decide) (by decide) (by decide) name
  fragment := not_mem_percentEncode (by decide) (by decide) (by decide) name
  noDot := by
    refine Bool.eq_false_iff.mpr fun dot => ?_
    have decoded := percentDecode_of_isDot dot
    rw [percentDecode_percentEncode] at decoded
    obtain rfl := Utf8.encode_injective decoded
    cases named.counts
  noDots := by
    refine Bool.eq_false_iff.mpr fun dots => ?_
    have decoded := percentDecode_of_isDoubleDot dots
    rw [percentDecode_percentEncode] at decoded
    exact named.stays (Utf8.encode_injective decoded)

/-- The segments of a path as they are read: without any there is an empty one. -/
def orEmpty (segments : List (List Char)) : List (List Char) :=
  if segments.isEmpty then [[]] else segments

variable {segments : List (List Char)} (plain : ∀ segment ∈ segments, IsPlain segment)

include plain

/-- Nothing but dot segments is removed. -/
theorem removeDots_plain (done : List (List Char)) :
    removeDots done segments = done.reverse ++ segments := by
  induction segments generalizing done with
  | nil => simp [removeDots]
  | cons segment segments inductionHypothesis =>
    have first := plain segment List.mem_cons_self
    have later := inductionHypothesis
      (fun other inside => plain other (List.mem_cons_of_mem segment inside)) (segment :: done)
    cases segments with
    | nil => simp [removeDots, first.noDot, first.noDots]
    | cons next segments => simpa [removeDots, first.noDot, first.noDots] using later

/-- Segments after a slash are read back, and none is dropped. -/
theorem pathSegments_join :
    dropEmptyFront (pathSegments ('/' :: Text.join '/' segments)) = orEmpty segments := by
  cases segments with
  | nil => decide
  | cons segment others =>
    have pieces := Text.split_join (List.cons_ne_nil segment others) fun piece inside =>
      (plain piece inside).whole
    simp only [pathSegments, pieces, removeDots_plain plain, List.reverse_nil, List.nil_append]
    have solid := (plain segment List.mem_cons_self).solid
    cases segment with
    | nil => exact absurd rfl solid
    | cons first rest => cases others <;> rfl

/-- The segments of a file URI are read back. -/
theorem localSegments_fileTextOf :
    localSegments (fileTextOf segments) = some (orEmpty segments) := by
  have body : ('/' :: '/' :: '/' :: Text.join '/' segments).takeWhile
      (fun character => character != '?' && character != '#') =
      '/' :: '/' :: '/' :: Text.join '/' segments := by
    have query : '?' ∉ Text.join '/' segments :=
      Text.not_mem_join (by decide) fun piece inside => (plain piece inside).query
    have fragment : '#' ∉ Text.join '/' segments :=
      Text.not_mem_join (by decide) fun piece inside => (plain piece inside).fragment
    refine List.takeWhile_eq_self_iff.mpr fun character inside => ?_
    simp only [List.mem_cons] at inside
    obtain rfl | rfl | rfl | inside := inside
    · decide
    · decide
    · decide
    · have noQuery : character ≠ '?' := fun same => query (same ▸ inside)
      have noFragment : character ≠ '#' := fun same => fragment (same ▸ inside)
      simp [noQuery, noFragment]
  have valid : isScheme "file".toList = true := by decide
  have named : ("file".toList.map Char.toLower == fileScheme) = true := by decide
  rw [localSegments, cut_fileTextOf]
  simp only [valid, Bool.not_true, Bool.false_eq_true, if_false, body, named, if_true]
  simp [fileSegments, isDriveLetter, pathSegments_join plain]

end Reading

/-- A path that is put together from segments may get one more slash at its end. -/
theorem pathBytes_cases (segments : List (List Char)) :
    ∃ ending, (ending = [] ∨ ending = ['/']) ∧
      pathBytes segments =
        (segments.flatMap fun segment => Utf8.encodeChar '/' ++ percentDecode segment) ++
          Utf8.encode ending := by
  unfold pathBytes
  dsimp only
  split
  · split
    · exact ⟨['/'], .inr rfl, rfl⟩
    · exact ⟨[], .inl rfl, (List.append_nil _).symm⟩
  · exact ⟨[], .inl rfl, (List.append_nil _).symm⟩

/-- Encoded names are decoded to the bytes of the path that is written with the names. -/
theorem decoded_names (names : List (List Char)) :
    ((orEmpty (names.map percentEncode)).flatMap fun segment =>
        Utf8.encodeChar '/' ++ percentDecode segment) =
      Utf8.encode ('/' :: Text.join '/' names) := by
  by_cases rootOnly : names = []
  · subst rootOnly
    decide
  · have written : orEmpty (names.map percentEncode) = names.map percentEncode := by
      simp [orEmpty, rootOnly]
    rw [written, ← Text.flatMap_eq_cons_join rootOnly, Utf8.encode, List.flatMap_map,
      List.flatMap_assoc]
    congr 1
    funext name
    rw [percentDecode_percentEncode, Utf8.encode, List.flatMap_cons]

/-- A path that never goes to a parent is found again through its file URI: whenever an absolute
path has one, its scheme is that of files, and the path that it names has the same components.

Proof: the segments of the URI are the encoded names of the path, they are read as they are written,
and what they are decoded to is the path that is written with the names. -/
theorem file_uri_leads_back {path : List Char} {uri : Uri} (absolute : Path.isAbsolute path = true)
    (downward : .parent ∉ Path.components path) (made : ofFilePath? path = some uri) :
    uri.scheme = "file" ∧
      ∃ back, uri.filePath? = some back ∧ Path.components back = Path.components path := by
  have named : ∀ name ∈ Path.names path, Path.IsName name := fun name inside =>
    Path.isName_of_mem_names absolute downward inside
  have plain : ∀ segment ∈ (Path.names path).map percentEncode, IsPlain segment := by
    intro segment inside
    obtain ⟨name, isName, rfl⟩ := List.mem_map.mp inside
    exact isPlain_percentEncode (named name isName)
  have text : uri.text.toList = fileTextOf ((Path.names path).map percentEncode) := by
    rw [ofFilePath?_absolute absolute] at made
    rw [text_of_parse? made, String.toList_ofList, fileText_absolute absolute]
  obtain ⟨ending, ends, bytes⟩ := pathBytes_cases (orEmpty ((Path.names path).map percentEncode))
  rw [decoded_names, ← Utf8.encode_append, List.cons_append] at bytes
  refine ⟨?_, '/' :: (Text.join '/' (Path.names path) ++ ending), ?_, ?_⟩
  · rw [scheme, text, cut_fileTextOf]
    exact String.ofList_toList
  · rw [filePath?, text, localSegments_fileTextOf plain, Option.map_some, bytes,
      Utf8.decodeLossy_encode]
  · rw [Path.components_join named ends, Path.components_absolute absolute]

/-- A path with a name that reads like encoded dots, with characters that are encoded, and with an
ending that looks like a drive letter. -/
def oddPath : List Char := "//./work/%2e%2E/50% \\ü\t?/C:".toList

/-- The file URI of the odd path. -/
def oddUri : Uri := ⟨"file:///work/%252e%252E/50%25%20%5C%C3%BC%09%3F/C:", by decide +kernel⟩

/-- The odd path is found again, with a slash after what looks like a drive letter. -/
theorem oddPath_is_found_again :
    ofFilePath? oddPath = some oddUri ∧ oddUri.scheme = "file" ∧
      oddUri.filePath? = some "/work/%2e%2E/50% \\ü\t?/C:/".toList ∧
      Path.components "/work/%2e%2E/50% \\ü\t?/C:/".toList = Path.components oddPath := by
  have made : ofFilePath? oddPath = some oddUri := by decide +kernel
  have read : oddUri.filePath? = some "/work/%2e%2E/50% \\ü\t?/C:/".toList := by decide +kernel
  obtain ⟨scheme, back, named, same⟩ :=
    file_uri_leads_back (by decide +kernel) (by decide +kernel) made
  obtain rfl := Option.some.inj (read.symm.trans named)
  exact ⟨made, scheme, read, same⟩

section Writable

/-- Encoded names are allowed in a path unless one of them holds an unwritable character. -/
theorem allowed_names (names : List (List Char)) :
    allowed isPathChar (Text.join '/' (names.map percentEncode)) =
      names.all fun name => name.all (!isUnwritable ·) := by
  induction names with
  | nil => rfl
  | cons name names inductionHypothesis =>
    cases names with
    | nil =>
      have alone := allowed_percentEncode name []
      rw [List.append_nil] at alone
      simpa [Text.join, allowed] using alone
    | cons next names =>
      have slash : isPathChar '/' = true := by decide
      rw [List.map_cons] at inductionHypothesis
      rw [List.map_cons, List.map_cons, Text.join, allowed_percentEncode,
        allowed_cons isPathChar (by decide), slash, inductionHypothesis, Bool.true_and,
        List.all_cons]
      · rfl
      · exact List.cons_ne_nil _ _

/-- A file URI holds no mark that its segments do not hold. -/
theorem cut_mark {mark : Char} (front : mark ∉ "file:///".toList) (unlike : mark ≠ '/')
    {segments : List (List Char)} (absent : ∀ segment ∈ segments, mark ∉ segment) :
    Text.cut mark (fileTextOf segments) = none := by
  refine Text.cut_eq_none_iff.mpr fun inside => ?_
  obtain early | late := List.mem_append.mp inside
  · exact front early
  · exact Text.not_mem_join unlike absent late

/-- The text of a file URI whose segments hold no mark has the form of a URI exactly if its path is
allowed. -/
theorem isReference_fileTextOf {segments : List (List Char)}
    (query : ∀ segment ∈ segments, '?' ∉ segment)
    (fragment : ∀ segment ∈ segments, '#' ∉ segment) :
    isReference (fileTextOf segments) = allowed isPathChar (Text.join '/' segments) := by
  have noQuery := cut_mark (by decide) (by decide) query
  have noFragment := cut_mark (by decide) (by decide) fragment
  -- A colon before the first slash keeps the text from being a relative reference.
  have relative : isRelative (fileTextOf segments) = false := rfl
  have hierarchy : isHierarchy ('/' :: '/' :: '/' :: Text.join '/' segments) =
      allowed isPathChar (Text.join '/' segments) := by
    have slash : isPathChar '/' = true := by decide
    have authority : isAuthority [] = true := by decide
    simp [isHierarchy, authority, allowed_cons, slash]
  have valid : isScheme "file".toList = true := by decide
  simp only [isReference, cutOptional, noFragment, noQuery, cut_fileTextOf, isOptionalQuery,
    relative, valid, hierarchy, Bool.true_and, Bool.or_false]

/-- A segment with an unwritable character counts. -/
theorem counts_of_unwritable {segment : List Char} {character : Char}
    (unwritable : isUnwritable character = true) (inside : character ∈ segment) :
    Path.isIgnored segment = false := by
  refine Bool.eq_false_iff.mpr fun ignored => ?_
  simp only [Path.isIgnored, Bool.or_eq_true, beq_iff_eq] at ignored
  obtain rfl | rfl := ignored
  · cases inside
  · obtain rfl := List.mem_singleton.mp inside
    exact absurd unwritable (by decide)

variable {path : List Char} (absolute : Path.isAbsolute path = true)

include absolute

/-- The unwritable characters of an absolute path are those of its names. -/
theorem unwritable_mem_iff {character : Char} (unwritable : isUnwritable character = true) :
    character ∈ path ↔ ∃ name ∈ Path.names path, character ∈ name := by
  have unlike : character ≠ '/' := by
    rintro rfl
    exact absurd unwritable (by decide)
  obtain ⟨rest, rfl⟩ := Path.exists_of_isAbsolute absolute
  constructor
  · intro inside
    obtain ⟨segment, isPiece, member⟩ :=
      Text.exists_mem_split unlike ((List.mem_cons.mp inside).resolve_left unlike)
    refine ⟨segment, List.mem_filter.mpr ⟨isPiece, ?_⟩, member⟩
    simp [counts_of_unwritable unwritable member]
  · rintro ⟨name, isName, member⟩
    exact List.mem_cons_of_mem _ (Text.mem_of_mem_split (List.mem_filter.mp isName).1 member)

/-- The text of the file URI of an absolute path has the form of a URI exactly if no name holds an
unwritable character. -/
theorem isReference_fileText :
    isReference (fileText path) =
      (Path.names path).all fun name => name.all (!isUnwritable ·) := by
  have unmarked (mark : Char) (encoded : isEncodedInPath mark = true) (unlike : mark ≠ '%')
      (noDigit : isHexadecimal mark = false) :
      ∀ segment ∈ (Path.names path).map percentEncode, mark ∉ segment := by
    intro segment inside
    obtain ⟨name, -, rfl⟩ := List.mem_map.mp inside
    exact not_mem_percentEncode encoded unlike noDigit name
  have query := unmarked '?' (by decide) (by decide) (by decide)
  have fragment := unmarked '#' (by decide) (by decide) (by decide)
  rw [fileText_absolute absolute, isReference_fileTextOf query fragment, allowed_names]

/-- An absolute path has a file URI exactly if it holds no unwritable character. -/
theorem ofFilePath?_isSome_iff :
    (ofFilePath? path).isSome = true ↔ ∀ character ∈ path, isUnwritable character = false := by
  rw [ofFilePath?_absolute absolute, parse?_isSome, String.toList_ofList,
    isReference_fileText absolute]
  simp only [List.all_eq_true, Bool.not_eq_true']
  constructor
  · intro writable character inside
    refine Bool.eq_false_iff.mpr fun unwritable => ?_
    obtain ⟨name, isName, member⟩ := (unwritable_mem_iff absolute unwritable).mp inside
    rw [writable name isName character member] at unwritable
    cases unwritable
  · intro writable name isName character member
    refine Bool.eq_false_iff.mpr fun unwritable => ?_
    have inside := (unwritable_mem_iff absolute unwritable).mpr ⟨name, isName, member⟩
    rw [writable character inside] at unwritable
    cases unwritable

end Writable

end Uri

end LanguageClient
