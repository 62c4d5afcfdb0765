import LanguageClient.Proofs.Expansion
import LanguageClient.Proofs.PathParts

/-!
# The variables of the active file fit together

The file is described by several variables, each of which is computed from its path for itself. They
are parts of one path all the same: the name is the stem and the extension, the directory and the
name lead to the file, and so do the folder and the relative path. The latter needs a file with an
absolute path, since a file outside every folder keeps its path and the first folder stands before
it.
-/

namespace LanguageClient

namespace Variables

/-- A file has a folder as soon as there is one. -/
theorem exists_folderOf? {bindings : Variables} (furnished : bindings.folders ≠ [])
    (file : List Char) : ∃ folder, bindings.folderOf? file = some folder := by
  obtain ⟨first, others, there⟩ := List.exists_cons_of_ne_nil furnished
  unfold folderOf?
  cases bindings.folders.find? fun folder => Path.startsWith file folder.path.toList with
  | none => exact ⟨first, by rw [Option.none_or, there, List.head?_cons]⟩
  | some folder => exact ⟨folder, Option.some_or⟩

end Variables

namespace Placeholder

/-- What the placeholder of a variable expands to. -/
def expansion (bindings : Variables) (name : String) : Except ExpansionError (List Char) :=
  expand bindings (written name.toList)

/-- A placeholder that stands alone expands to the value of its variable. -/
theorem expansion_eq_resolve (bindings : Variables) {name : String}
    (unended : '\x7d' ∉ name.toList) : expansion bindings name = resolve bindings name.toList := by
  have closed : ¬ opening <:+: [] := by simp [opening]
  have nothing : expand bindings [] = .ok [] := expand_closed bindings closed
  have whole := expand_written bindings closed unended []
  rw [List.nil_append, List.append_nil, nothing] at whole
  rw [expansion, whole]
  cases resolve bindings name.toList with
  | error error => rfl
  | ok value => simp [Except.bind]

/-- A variable that depends on the active file expands to what it says about the path. -/
theorem expansion_ofFile {bindings : Variables} {file name : String} {text : List Char}
    (active : bindings.file = some file) (unended : '\x7d' ∉ name.toList)
    (value : List Char → Option (List Char))
    (depends : resolve bindings name.toList = ofFile bindings name.toList value)
    (found : value file.toList = some text) : expansion bindings name = .ok text := by
  rw [expansion_eq_resolve bindings unended, depends, ofFile, active, Option.bind_some, found]
  rfl

/-- The variables of the active file are parts of one path. The name of the file is its stem and its
extension, and it is the last component of the path if that is a name. If there is a name, the
directory joined with it has the components of the file. And if the file has an absolute path and
there is a folder at all, the folder of the file joined with the relative path has the components
of the file, whether or not the file lies in a folder; if it lies in this one, whose path is not
empty, the relative path goes on where the folder ends.

Proof: cuts fall between components, so a parent and a name, or a base and what is left of a path
below it, make up the components of the path; a file outside its folder keeps its path, which is
absolute and replaces the folder when it is joined. -/
theorem file_variables_fit_together {bindings : Variables} {file : String}
    (active : bindings.file = some file) :
    (∃ name stem extension directory,
      expansion bindings "fileBasename" = .ok name ∧
      expansion bindings "fileBasenameNoExtension" = .ok stem ∧
      expansion bindings "fileExtname" = .ok extension ∧
      expansion bindings "fileDirname" = .ok directory ∧
      name = stem ++ extension ∧
      (∀ last, (Path.components file.toList).getLast? = some (.normal last) → name = last) ∧
      (name ≠ [] →
        Path.components (Path.join directory name) = Path.components file.toList)) ∧
    (Path.isAbsolute file.toList = true → bindings.folders ≠ [] →
      ∃ folder relative,
        expansion bindings "fileWorkspaceFolder" = .ok folder ∧
        expansion bindings "relativeFile" = .ok relative ∧
        Path.components (Path.join folder relative) = Path.components file.toList ∧
        (Path.startsWith file.toList folder = true → folder ≠ [] →
          Path.components file.toList =
            Path.components folder ++ Path.components relative)) := by
  constructor
  · have name : expansion bindings "fileBasename" = .ok ((Path.fileName? file.toList).getD []) :=
      expansion_ofFile active (by decide)
        (fun file => some ((Path.fileName? file).getD [])) rfl rfl
    have stem : expansion bindings "fileBasenameNoExtension" =
        .ok ((Path.fileStem? file.toList).getD []) :=
      expansion_ofFile active (by decide)
        (fun file => some ((Path.fileStem? file).getD [])) rfl rfl
    have extension : expansion bindings "fileExtname" =
        .ok (((Path.extension? file.toList).map ('.' :: ·)).getD []) :=
      expansion_ofFile active (by decide)
        (fun file => some (((Path.extension? file).map ('.' :: ·)).getD [])) rfl rfl
    have directory : expansion bindings "fileDirname" =
        .ok ((Path.parent? file.toList).getD []) :=
      expansion_ofFile active (by decide)
        (fun file => some ((Path.parent? file).getD [])) rfl rfl
    refine ⟨_, _, _, _, name, stem, extension, directory,
      Path.fileStem_append_extension file.toList, ?_, ?_⟩
    · intro last ends
      rw [Path.fileName?_eq_some_iff.mpr ends, Option.getD_some]
    · intro nonempty
      cases named : Path.fileName? file.toList with
      | none =>
        rw [named] at nonempty
        exact absurd rfl nonempty
      | some name => exact Path.components_join_fileName named
  · intro absolute furnished
    obtain ⟨folder, chosen⟩ := Variables.exists_folderOf? furnished file.toList
    have holder : expansion bindings "fileWorkspaceFolder" = .ok folder.path.toList :=
      expansion_ofFile active (by decide)
        (fun file => (bindings.folderOf? file).map (·.path.toList)) rfl (by rw [chosen]; rfl)
    have relative : expansion bindings "relativeFile" =
        .ok ((Path.relativeTo? file.toList folder.path.toList).getD file.toList) :=
      expansion_ofFile active (by decide) bindings.relativeFile? rfl
        (by rw [Variables.relativeFile?, chosen]; rfl)
    refine ⟨_, _, holder, relative, Path.components_join_relative absolute _, ?_⟩
    exact fun below nonempty => Path.components_append_relative below nonempty

/-- Nested folders, one of which holds a hidden file with several dots, whose path is written with
doubled slashes, a dot and a slash at its end. -/
def untidyDesk : Variables :=
  { Variables.empty with
    folders := [⟨"other", "/srv"⟩, ⟨"thesis", "/work/thesis/"⟩, ⟨"work", "/work"⟩]
    file := some "//work/./thesis//parts/.draft.v2.typ/" }

/-- The first folder that holds the file is not the first one, the relative path starts below the
slashes, and either way of joining leads to the file. -/
theorem untidyDesk_fits :
    expansion untidyDesk "fileBasename" = .ok ".draft.v2.typ".toList ∧
    ".draft.v2.typ".toList = ".draft.v2".toList ++ ".typ".toList ∧
    Path.components (Path.join "//work/./thesis//parts".toList ".draft.v2.typ".toList) =
      Path.components "//work/./thesis//parts/.draft.v2.typ/".toList ∧
    expansion untidyDesk "relativeFile" = .ok "parts/.draft.v2.typ".toList ∧
    Path.components (Path.join "/work/thesis/".toList "parts/.draft.v2.typ".toList) =
      Path.components "//work/./thesis//parts/.draft.v2.typ/".toList ∧
    Path.components "//work/./thesis//parts/.draft.v2.typ/".toList =
      Path.components "/work/thesis/".toList ++
        Path.components "parts/.draft.v2.typ".toList := by
  have isName : expansion untidyDesk "fileBasename" = .ok ".draft.v2.typ".toList := by
    decide +kernel
  have isStem : expansion untidyDesk "fileBasenameNoExtension" = .ok ".draft.v2".toList := by
    decide +kernel
  have isExtension : expansion untidyDesk "fileExtname" = .ok ".typ".toList := by decide +kernel
  have isDirectory : expansion untidyDesk "fileDirname" =
      .ok "//work/./thesis//parts".toList := by decide +kernel
  have isFolder : expansion untidyDesk "fileWorkspaceFolder" = .ok "/work/thesis/".toList := by
    decide +kernel
  have isRelative : expansion untidyDesk "relativeFile" = .ok "parts/.draft.v2.typ".toList := by
    decide +kernel
  have active : untidyDesk.file = some "//work/./thesis//parts/.draft.v2.typ/" := rfl
  obtain ⟨⟨name, stem, extension, directory, named, stemmed, extended, housed, parts, -, joined⟩,
    placed⟩ := file_variables_fit_together active
  obtain ⟨folder, relative, held, left, found, deeper⟩ := placed (by decide) (by decide)
  obtain rfl := Except.ok.inj (named.symm.trans isName)
  obtain rfl := Except.ok.inj (stemmed.symm.trans isStem)
  obtain rfl := Except.ok.inj (extended.symm.trans isExtension)
  obtain rfl := Except.ok.inj (housed.symm.trans isDirectory)
  obtain rfl := Except.ok.inj (held.symm.trans isFolder)
  obtain rfl := Except.ok.inj (left.symm.trans isRelative)
  exact ⟨isName, parts, joined (by decide), isRelative, found,
    deeper (by decide +kernel) (by decide)⟩

end Placeholder

end LanguageClient
