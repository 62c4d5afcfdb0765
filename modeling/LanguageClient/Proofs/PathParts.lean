import LanguageClient.Path

/-!
# Paths are cut and joined between components

Cutting a path keeps the text of what is left, so what remains must still read as the components
that it stood for: no segment may become the head of a shorter path, and no head may get lost. A
front of a path reads as its first components, and what is put together from segments of which the
first one counts reads as these segments alone. So joining goes by components, and the parent and
the name of a path, or a base and the path relative to it, make up the components of the path again.
-/

namespace LanguageClient.Path

/-- The components that segments stand for. -/
def counted (segments : List (List Char)) : List Component :=
  (segments.filter (!isIgnored ·)).map component

section Counting

@[simp] theorem counted_nil : counted [] = [] := rfl

@[simp] theorem counted_append (front back : List (List Char)) :
    counted (front ++ back) = counted front ++ counted back := by
  simp [counted]

/-- Segments that do not count stand for nothing. -/
theorem counted_ignored {segments : List (List Char)}
    (ignored : ∀ segment ∈ segments, isIgnored segment = true) : counted segments = [] := by
  have none : segments.filter (!isIgnored ·) = [] :=
    List.filter_eq_nil_iff.mpr fun segment inside => by simp [ignored segment inside]
  rw [counted, none, List.map_nil]

/-- A segment that counts stands for its component. -/
theorem counted_cons {segment : List Char} (counts : isIgnored segment = false)
    (segments : List (List Char)) :
    counted (segment :: segments) = component segment :: counted segments := by
  simp [counted, counts]

/-- What is left after the front is dropped starts with a segment that counts. -/
theorem counts_of_dropWhile {segments others : List (List Char)} {segment : List Char}
    (left : segments.dropWhile isIgnored = segment :: others) : isIgnored segment = false := by
  have first := List.head?_dropWhile_not isIgnored segments
  simpa [left] using first

/-- What is dropped from the front does not count. -/
theorem counted_dropWhile (segments : List (List Char)) :
    counted (segments.dropWhile isIgnored) = counted segments := by
  have dropped : counted (segments.takeWhile isIgnored) = [] :=
    counted_ignored (List.all_eq_true.mp List.all_takeWhile)
  calc counted (segments.dropWhile isIgnored)
      = counted (segments.takeWhile isIgnored) ++ counted (segments.dropWhile isIgnored) := by
        rw [dropped, List.nil_append]
    _ = counted segments := by rw [← counted_append, List.takeWhile_append_dropWhile]

/-- What is dropped from the end does not count. -/
theorem exists_trimmed (segments : List (List Char)) :
    ∃ dropped, segments = trimSegments segments ++ dropped ∧ counted dropped = [] := by
  refine ⟨(segments.reverse.takeWhile isIgnored).reverse, ?_, ?_⟩
  · rw [trimSegments, ← List.reverse_append, List.takeWhile_append_dropWhile, List.reverse_reverse]
  · refine counted_ignored fun segment inside => ?_
    exact List.all_eq_true.mp List.all_takeWhile segment (List.mem_reverse.mp inside)

/-- What is left after the end is dropped counts as before. -/
theorem counted_trimSegments (segments : List (List Char)) :
    counted (trimSegments segments) = counted segments := by
  obtain ⟨dropped, split, uncounted⟩ := exists_trimmed segments
  have whole := congrArg counted split
  rwa [counted_append, uncounted, List.append_nil, eq_comm] at whole

/-- Dropping the segments of so many components drops so many components. -/
theorem counted_dropComponents (count : Nat) (segments : List (List Char)) :
    counted (dropComponents count segments) = (counted segments).drop count := by
  fun_induction dropComponents count segments with
  | case1 segments => rfl
  | case2 count => rfl
  | case3 count segment segments ignored inductionHypothesis =>
    have skipped : counted (segment :: segments) = counted segments := by simp [counted, ignored]
    rw [inductionHypothesis, skipped]
  | case4 count segment segments counts inductionHypothesis =>
    rw [inductionHypothesis, counted_cons (Bool.of_not_eq_true counts), List.drop_succ_cons]

/-- What is left after components are dropped is an end of the segments. -/
theorem dropComponents_suffix (count : Nat) (segments : List (List Char)) :
    dropComponents count segments <:+ segments := by
  fun_induction dropComponents count segments with
  | case1 segments => exact List.suffix_refl segments
  | case2 count => exact List.suffix_refl []
  | case3 count segment segments ignored inductionHypothesis =>
    exact inductionHypothesis.trans (List.suffix_cons segment segments)
  | case4 count segment segments counts inductionHypothesis =>
    exact inductionHypothesis.trans (List.suffix_cons segment segments)

end Counting

section Heads

/-- The components of a path are its head and the segments that count. -/
theorem components_eq (path : List Char) :
    components path = (splitHead path).1.components ++ counted (segments path) := rfl

/-- A path is its head and what follows. -/
theorem text_splitHead (path : List Char) :
    (splitHead path).1.text ++ (splitHead path).2 = path := by
  fun_cases splitHead path <;> rfl

/-- A path is put together from its head and its segments. -/
theorem assemble_segments (path : List Char) :
    assemble (splitHead path).1 (segments path) = path := by
  rw [assemble, segments, Text.join_split, text_splitHead]

/-- A segment counts unless it is empty or a single dot. -/
theorem isIgnored_eq_false_iff {segment : List Char} :
    isIgnored segment = false ↔ segment ≠ [] ∧ segment ≠ ['.'] := by
  simp [isIgnored]

/-- A path whose first segment counts has no head. -/
theorem splitHead_solid {segment : List Char} (counts : isIgnored segment = false)
    (whole : '/' ∉ segment) (rest : List Char) :
    splitHead (segment ++ rest) = (.nothing, segment ++ rest) := by
  obtain ⟨solid, noDot⟩ := isIgnored_eq_false_iff.mp counts
  obtain ⟨first, others, rfl⟩ := List.exists_cons_of_ne_nil solid
  have noSlash : first ≠ '/' := fun same => whole (same ▸ List.mem_cons_self)
  apply splitHead.eq_4
  · intro after same
    exact noSlash (List.cons.inj same).1
  · intro same
    obtain ⟨rfl, nothing⟩ := List.cons.inj same
    exact noDot (by rw [(List.append_eq_nil_iff.mp nothing).1])
  · intro after same
    obtain ⟨rfl, slash⟩ := List.cons.inj same
    cases others with
    | nil => exact noDot rfl
    | cons second others =>
      obtain ⟨rfl, -⟩ := List.cons.inj slash
      exact whole (by simp)

/-- The first segment of a path without a head counts. -/
theorem exists_solid {path : List Char} (nonempty : path ≠ [])
    (headless : (splitHead path).1 = .nothing) :
    ∃ segment rest, path = segment ++ rest ∧ isIgnored segment = false ∧ '/' ∉ segment ∧
      (rest = [] ∨ ∃ more, rest = '/' :: more) := by
  -- A first segment that is empty or a single dot would be the head of the path.
  cases found : Text.cut '/' path with
  | none =>
    refine ⟨path, [], (List.append_nil path).symm, ?_, Text.cut_eq_none_iff.mp found, .inl rfl⟩
    refine isIgnored_eq_false_iff.mpr ⟨nonempty, ?_⟩
    rintro rfl
    cases headless
  | some parts =>
    obtain ⟨segment, after⟩ := parts
    obtain rfl := Text.of_cut_eq_some found
    refine ⟨segment, '/' :: after, rfl, ?_, Text.not_mem_of_cut found, .inr ⟨after, rfl⟩⟩
    refine isIgnored_eq_false_iff.mpr ⟨?_, ?_⟩
    · rintro rfl
      cases headless
    · rintro rfl
      cases headless

/-- What follows a slash does not change the head of a path. -/
theorem splitHead_append {base : List Char} (nonempty : base ≠ []) (rest : List Char) :
    splitHead (base ++ '/' :: rest) =
      ((splitHead base).1, (splitHead base).2 ++ '/' :: rest) := by
  fun_cases splitHead base with
  | case1 after => rfl
  | case2 => rfl
  | case3 after => rfl
  | case4 _ noRoot noDot noDots =>
    have headless := congrArg Prod.fst (splitHead.eq_4 base noRoot noDot noDots)
    obtain ⟨segment, ending, rfl, counts, whole, -⟩ := exists_solid nonempty headless
    rw [List.append_assoc, splitHead_solid counts whole]

/-- Only the empty path has no components. -/
theorem eq_nil_of_components {path : List Char} (none : components path = []) : path = [] := by
  by_cases nonempty : path = []
  · exact nonempty
  rw [components_eq, List.append_eq_nil_iff] at none
  have headless : (splitHead path).1 = .nothing := by
    cases head : (splitHead path).1 with
    | nothing => rfl
    | root => simp [head, Head.components] at none
    | current => simp [head, Head.components] at none
  obtain ⟨segment, rest, rfl, counts, whole, ends⟩ := exists_solid nonempty headless
  have first : ∃ others, segments (segment ++ rest) = segment :: others := by
    rw [segments, splitHead_solid counts whole]
    obtain rfl | ⟨more, rfl⟩ := ends
    · rw [List.append_nil, Text.split_of_not_mem whole]
      exact ⟨[], rfl⟩
    · exact ⟨_, Text.split_append whole more⟩
  obtain ⟨others, pieces⟩ := first
  rw [pieces, counted_cons counts] at none
  exact absurd none.2 (List.cons_ne_nil _ _)

end Heads

section Joining

/-- What follows a slash is counted behind the components of the path in front. -/
theorem components_append {base : List Char} (nonempty : base ≠ []) (rest : List Char) :
    components (base ++ '/' :: rest) = components base ++ counted (Text.split '/' rest) := by
  rw [components_eq, segments, splitHead_append nonempty, Text.split_append_split, counted_append,
    ← List.append_assoc]
  rfl

/-- Joining goes by components if the second path has no head. -/
theorem components_join_headless (base : List Char) {path : List Char}
    (headless : (splitHead path).1 = .nothing) :
    components (join base path) = components base ++ components path := by
  have text : (splitHead path).2 = path := by
    have whole := text_splitHead path
    rwa [headless] at whole
  have counts : components path = counted (Text.split '/' path) := by
    rw [components_eq, segments, headless, text]
    rfl
  have relative : isAbsolute path = false := by
    unfold isAbsolute
    split
    · cases headless
    · rfl
  rw [join, relative, if_neg Bool.false_ne_true]
  by_cases empty : base = []
  · subst empty
    rfl
  · split
    · rename_i noSlash
      -- The slash that would be put between the two is already there.
      have slash : base.getLast? = some '/' := by simpa [empty] using noSlash
      obtain ⟨front, rfl⟩ := List.getLast?_eq_some_iff.mp slash
      rw [List.append_assoc, List.singleton_append, counts]
      by_cases root : front = []
      · subst root
        rfl
      · rw [components_append root, components_append root]
        simp [Text.split, counted, isIgnored]
    · rw [components_append empty, counts]

/-- What is put together from whole segments of which the first one counts has no head, and the
components that they stand for. -/
theorem components_assemble {segments : List (List Char)}
    (starts : ∀ segment ∈ segments.head?, isIgnored segment = false)
    (whole : ∀ segment ∈ segments, '/' ∉ segment) :
    (splitHead (assemble .nothing segments)).1 = .nothing ∧
      components (assemble .nothing segments) = counted segments := by
  cases segments with
  | nil => exact ⟨rfl, rfl⟩
  | cons segment others =>
    have counts := starts segment rfl
    have solid := whole segment List.mem_cons_self
    have headless : splitHead (Text.join '/' (segment :: others)) =
        (.nothing, Text.join '/' (segment :: others)) := by
      cases others with
      | nil => simpa [Text.join] using splitHead_solid counts solid []
      | cons next others => exact splitHead_solid counts solid _
    have pieces := Text.split_join (List.cons_ne_nil segment others) whole
    rw [components_eq, Path.segments, assemble, Head.text, List.nil_append, headless, pieces]
    exact ⟨rfl, rfl⟩

/-- A front of a path has its head, and the components that the segments in front stand for. -/
theorem components_front {path : List Char} {front back : List (List Char)}
    (split : segments path = front ++ back) :
    components (assemble (splitHead path).1 front) =
      (splitHead path).1.components ++ counted front := by
  have whole := assemble_segments path
  rw [split] at whole
  by_cases nothing : front = []
  · subst nothing
    cases (splitHead path).1 <;> rfl
  by_cases all : back = []
  · subst all
    rw [List.append_nil] at whole split
    rw [whole, components_eq, split]
  -- Between the two parts is a slash, and what stands before it is not empty.
  rw [assemble, Text.join_append nothing all, ← List.append_assoc] at whole
  have nonempty : assemble (splitHead path).1 front ≠ [] := by
    intro empty
    rw [← assemble, empty, List.nil_append] at whole
    rw [← whole] at empty
    cases empty
  have solid : ∀ segment ∈ back, '/' ∉ segment := by
    intro segment inside
    have piece : segment ∈ segments path := split ▸ List.mem_append_right front inside
    exact Text.not_mem_of_mem_split piece
  have longer := components_append nonempty (Text.join '/' back)
  rw [Text.split_join all solid, assemble, whole, components_eq, split, counted_append,
    ← List.append_assoc] at longer
  exact (List.append_cancel_right longer).symm

end Joining

section Parents

/-- The extension is what follows the stem of a name. -/
theorem cutExtension_append (name : List Char) :
    (cutExtension name).1 ++ ((cutExtension name).2.map ('.' :: ·)).getD [] = name := by
  unfold cutExtension
  split
  · rename_i extension stem found
    split
    · exact List.append_nil name
    · have whole := congrArg List.reverse (Text.of_cut_eq_some found)
      simpa using whole.symm
  · exact List.append_nil name

/-- The stem and the extension of a file name make it up. -/
theorem fileStem_append_extension (path : List Char) :
    (fileName? path).getD [] =
      (fileStem? path).getD [] ++ ((extension? path).map ('.' :: ·)).getD [] := by
  unfold fileStem? extension?
  cases fileName? path with
  | none => rfl
  | some name => exact (cutExtension_append name).symm

/-- The name of a path is its last component. -/
theorem fileName?_eq_some_iff {path name : List Char} :
    fileName? path = some name ↔ (components path).getLast? = some (.normal name) := by
  unfold fileName?
  split
  · rename_i found
    simp [found]
  · rename_i other
    constructor
    · intro named
      cases named
    · exact fun last => absurd last (other name)

/-- Only a segment that does not go to the parent stands for a name, which is the segment. -/
theorem eq_of_component {segment name : List Char} (normal : component segment = .normal name) :
    segment = name := by
  unfold component at normal
  split at normal
  · cases normal
  · exact Component.normal.inj normal

/-- The last segment of a path with a name that counts is the name. -/
theorem segments_of_fileName? {path name : List Char} (named : fileName? path = some name) :
    ∃ before after, (segments path).reverse.dropWhile isIgnored = name :: before ∧
      segments path = before.reverse ++ name :: after ∧ counted after = [] ∧
      isIgnored name = false ∧ component name = .normal name := by
  have last := fileName?_eq_some_iff.mp named
  have kept := counted_trimSegments (segments path)
  rw [components_eq, ← kept, trimSegments] at last
  cases dropped : (segments path).reverse.dropWhile isIgnored with
  | nil =>
    -- Without a segment that counts the last component is the head, and a head is no name.
    rw [dropped] at last
    cases head : (splitHead path).1 <;> simp [head, Head.components, counted] at last
  | cons segment before =>
    have counts := counts_of_dropWhile dropped
    rw [dropped, List.reverse_cons, counted_append, counted_cons counts, counted_nil,
      ← List.append_assoc, List.getLast?_concat] at last
    have normal := Option.some.inj last
    obtain rfl := eq_of_component normal
    obtain ⟨after, split, uncounted⟩ := exists_trimmed (segments path)
    rw [trimSegments, dropped, List.reverse_cons, List.append_assoc] at split
    exact ⟨before, after, rfl, split, uncounted, counts, normal⟩

/-- The parent and the name of a path make up its components. -/
theorem components_join_fileName {path name : List Char} (named : fileName? path = some name) :
    components (join ((parent? path).getD []) name) = components path := by
  obtain ⟨before, after, last, split, unnamed, counts, normal⟩ := segments_of_fileName? named
  have solid : ∀ segment ∈ [name], '/' ∉ segment := by
    intro segment inside
    have piece : segment ∈ segments path := by
      rw [split, List.mem_singleton.mp inside]
      simp
    exact Text.not_mem_of_mem_split piece
  obtain ⟨headless, alone⟩ := components_assemble (by simpa using counts) solid
  change (splitHead name).1 = .nothing at headless
  change components name = _ at alone
  have parent : parent? path =
      some (assemble (splitHead path).1 (trimSegments before.reverse)) := by
    rw [parent?, last, trimSegments, List.reverse_reverse]
  obtain ⟨dropped, trimmed, uncounted⟩ := exists_trimmed before.reverse
  rw [trimmed, List.append_assoc] at split
  rw [components_join_headless _ headless, parent, Option.getD_some, components_front split, alone,
    components_eq, split]
  simp [counted_cons counts, uncounted, unnamed]

end Parents

section Relative

/-- What is put together from an end of a path, without the segments around it that do not count,
has no head, and the components that the end stands for. -/
theorem components_end {path : List Char} {tail : List (List Char)}
    (ends : tail <:+ segments path) :
    (splitHead (assemble .nothing (trimSegments (tail.dropWhile isIgnored)))).1 = .nothing ∧
      components (assemble .nothing (trimSegments (tail.dropWhile isIgnored))) = counted tail := by
  obtain ⟨dropped, split, -⟩ := exists_trimmed (tail.dropWhile isIgnored)
  have starts : ∀ segment ∈ (trimSegments (tail.dropWhile isIgnored)).head?,
      isIgnored segment = false := by
    intro segment first
    have front : (tail.dropWhile isIgnored).head? = some segment := by
      rw [split, List.head?_append, first, Option.some_or]
    obtain ⟨others, left⟩ := List.head?_eq_some_iff.mp front
    exact counts_of_dropWhile left
  have solid : ∀ segment ∈ trimSegments (tail.dropWhile isIgnored), '/' ∉ segment := by
    intro segment kept
    have left : segment ∈ tail.dropWhile isIgnored := split ▸ List.mem_append_left dropped kept
    exact Text.not_mem_of_mem_split (ends.mem ((List.dropWhile_suffix _).mem left))
  obtain ⟨headless, counts⟩ := components_assemble starts solid
  exact ⟨headless, by rw [counts, counted_trimSegments, counted_dropWhile]⟩

/-- Exactly the paths at or below a base have a path relative to it. -/
theorem relativeTo?_isSome (path base : List Char) :
    (relativeTo? path base).isSome = startsWith path base := by
  unfold relativeTo?
  cases startsWith path base with
  | false => rfl
  | true =>
    dsimp only
    split
    · rename_i outside
      cases outside
    · split <;> rfl

/-- What is left of a path below a base that is not empty has no head, and the components that come
after those of the base. -/
theorem relativeTo?_below {path base relative : List Char} {deeper : List Component}
    (found : relativeTo? path base = some relative) (nonempty : components base ≠ [])
    (below : components base ++ deeper = components path) :
    (splitHead relative).1 = .nothing ∧ components relative = deeper := by
  have starting : startsWith path base = true := by
    rw [← relativeTo?_isSome, found, Option.isSome_some]
  have written := found.symm
  simp only [relativeTo?, starting, List.isEmpty_iff, nonempty, Bool.not_true, Bool.false_eq_true,
    if_false, Option.some.injEq] at written
  obtain ⟨headless, counts⟩ := components_end (dropComponents_suffix
    ((components base).length - (splitHead path).1.components.length) (segments path))
  rw [← written] at headless counts
  refine ⟨headless, ?_⟩
  -- A base that is not empty takes at least the head, so the rest of it are segments that count.
  have short : (splitHead path).1.components.length ≤ (components base).length := by
    have one : (splitHead path).1.components.length ≤ 1 := by
      cases (splitHead path).1 <;> decide
    have some : 0 < (components base).length := List.length_pos_iff.mpr nonempty
    omega
  calc components relative
      = (counted (segments path)).drop
          ((components base).length - (splitHead path).1.components.length) := by
        rw [counts, counted_dropComponents]
    _ = (components path).drop (components base).length := by
        rw [components_eq path, List.drop_append, List.drop_eq_nil_of_le short, List.nil_append]
    _ = deeper := by rw [← below, List.drop_left]

/-- A base and the path relative to it make up the components of the path. -/
theorem components_join_relativeTo? {path base relative : List Char}
    (found : relativeTo? path base = some relative) :
    components (join base relative) = components path := by
  have starting : startsWith path base = true := by
    rw [← relativeTo?_isSome, found, Option.isSome_some]
  obtain ⟨deeper, below⟩ := List.isPrefixOf_iff_prefix.mp starting
  by_cases nowhere : components base = []
  · obtain rfl := eq_nil_of_components nowhere
    have whole : relative = assemble (splitHead path).1 (trimSegments (segments path)) := by
      simpa [relativeTo?, starting, nowhere] using found.symm
    obtain ⟨dropped, split, -⟩ := exists_trimmed (segments path)
    have joined : join [] relative = relative := by simp [join]
    rw [joined, whole, components_front split, counted_trimSegments, components_eq]
  · obtain ⟨headless, rest⟩ := relativeTo?_below found nowhere below
    rw [components_join_headless base headless, rest, below]

/-- An absolute path is found from any base: by what is left of it below the base, or as it is. -/
theorem components_join_relative {path : List Char} (absolute : isAbsolute path = true)
    (base : List Char) :
    components (join base ((relativeTo? path base).getD path)) = components path := by
  cases found : relativeTo? path base with
  | none => rw [Option.getD_none, join, if_pos absolute]
  | some relative => exact components_join_relativeTo? found

/-- Below a base that is not empty the relative path goes on where the base ends. -/
theorem components_append_relative {path base : List Char} (below : startsWith path base = true)
    (nonempty : base ≠ []) :
    components path = components base ++ components ((relativeTo? path base).getD path) := by
  have left : (relativeTo? path base).isSome = true := (relativeTo?_isSome path base).trans below
  obtain ⟨relative, found⟩ := Option.isSome_iff_exists.mp left
  obtain ⟨deeper, same⟩ := List.isPrefixOf_iff_prefix.mp below
  have somewhere : components base ≠ [] := fun none => nonempty (eq_nil_of_components none)
  obtain ⟨-, rest⟩ := relativeTo?_below found somewhere same
  rw [found, Option.getD_some, rest, same]

end Relative

end LanguageClient.Path
