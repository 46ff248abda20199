import Mathlib.Data.List.Forall2
import Mathlib.Data.List.Sort
import Mathlib.Data.String.Basic
import QmlAssist.Proofs.Catalog.Load
import QmlAssist.Proofs.Files.Tree
import QmlAssist.Settings.Basic

/-!
# Descriptors from directories

A directory is listed in no particular order, and in another one the next time.  What is read
from it does not depend on that: the descriptor files are sorted by their names before the first
of them is read, so that both the descriptors and the error to report come out the same.

## Main Definitions

* `Descriptor.IsFileList` — the descriptor files among the entries of a directory.
* `SameListing`, `FileAccess.Enumerates` — files as they are described, with directories that
  are listed in any order.
* `Gives` — a computation whose value does not depend on the state.
* `Descriptor.Yields`, `Descriptor.Fails` — what a directory holds, or why it cannot be read.
* `Settings.Gathered` — what the settings ask for.

## Main Statements

* `Descriptor.fileNames_perm`, `Descriptor.isFileList_iff` — the names of the descriptor files.
* `Descriptor.gives_ofDir` — a directory gives the same in whatever order it is listed.
* `Settings.descriptors_eq_iff` — what all directories together give.
* `Settings.descriptors_enumerated` — the two statements for every order of every directory.

## Design Notes

The order of a listing comes from a state that may change with every operation on files, so two
listings of one directory can differ.  What the files hold is described by operations without a
state, which give the entries in some order that means nothing.
-/

namespace QmlAssist

/-! ### The names of descriptor files -/

namespace Descriptor

/-- A name has the extension of descriptors if something stands in front of `.json`. -/
theorem hasJsonExtension_iff {name : String} :
    hasJsonExtension name = true ↔ ∃ stem, stem ≠ "" ∧ name = stem ++ ".json" := by
  unfold hasJsonExtension
  constructor
  · intro ends
    split at ends
    next c rest reversed =>
      refine ⟨String.ofList (c :: rest).reverse, by simp, ?_⟩
      rw [← String.toList_inj, ← List.reverse_inj, reversed]
      simp
    next => cases ends
  · rintro ⟨stem, nonempty, rfl⟩
    obtain ⟨c, rest, reversed⟩ : ∃ c rest, stem.toList.reverse = c :: rest :=
      List.exists_cons_of_ne_nil (by simpa using nonempty)
    have whole : (stem ++ ".json").toList.reverse =
        'n' :: 'o' :: 's' :: 'j' :: '.' :: c :: rest := by
      rw [String.toList_append, List.reverse_append, reversed]
      rfl
    rw [whole]
    rfl

/-- The descriptor files among the entries of a directory, in ascending order of their names. -/
structure IsFileList (entries : List DirEntry) (names : List String) : Prop where
  ascending : names.Pairwise (· < ·)
  mem_iff : ∀ name, name ∈ names ↔
    ⟨name, true⟩ ∈ entries ∧ ∃ stem, stem ≠ "" ∧ name = stem ++ ".json"

instance (entries : List DirEntry) (names : List String) : Decidable (IsFileList entries names) :=
  decidable_of_iff (names.Pairwise (· < ·) ∧
    (∀ name ∈ names, (⟨name, true⟩ : DirEntry) ∈ entries ∧ hasJsonExtension name = true) ∧
    ∀ e ∈ entries, e.isFile = true → hasJsonExtension e.name = true → e.name ∈ names) <| by
  constructor
  · rintro ⟨ascending, listed, complete⟩
    refine ⟨ascending, fun name => ?_⟩
    rw [← hasJsonExtension_iff]
    exact ⟨listed name, fun ⟨member, ends⟩ => complete ⟨name, true⟩ member rfl ends⟩
  · rintro ⟨ascending, mem_iff⟩
    simp only [← hasJsonExtension_iff] at mem_iff
    refine ⟨ascending, fun name => (mem_iff name).1, ?_⟩
    rintro ⟨name, isFile⟩ member rfl ends
    exact (mem_iff name).2 ⟨member, ends⟩

theorem mem_fileNames_iff {entries : List DirEntry} {name : String} :
    name ∈ fileNames entries ↔
      ⟨name, true⟩ ∈ entries ∧ ∃ stem, stem ≠ "" ∧ name = stem ++ ".json" := by
  rw [fileNames, List.mem_mergeSort, List.mem_map, ← hasJsonExtension_iff]
  constructor
  · rintro ⟨⟨name, isFile⟩, listed, rfl⟩
    rw [List.mem_filter, Bool.and_eq_true] at listed
    obtain ⟨member, rfl, ends⟩ := listed
    exact ⟨member, ends⟩
  · rintro ⟨member, ends⟩
    exact ⟨⟨name, true⟩, List.mem_filter.2 ⟨member, ends⟩, rfl⟩

theorem pairwise_fileNames (entries : List DirEntry) :
    (fileNames entries).Pairwise (· ≤ ·) :=
  List.pairwise_mergeSort' (· ≤ ·) _

/-- The order in which the entries are listed does not matter. -/
theorem fileNames_perm {entries entries' : List DirEntry} (perm : entries.Perm entries') :
    fileNames entries = fileNames entries' := by
  refine List.Perm.eq_of_pairwise' (pairwise_fileNames entries) (pairwise_fileNames entries') ?_
  exact (List.mergeSort_perm _ _).trans
    (((perm.filter _).map _).trans (List.mergeSort_perm _ _).symm)

theorem isFileList_iff {entries : List DirEntry} (distinct : (entries.map DirEntry.name).Nodup)
    {names : List String} : IsFileList entries names ↔ names = fileNames entries := by
  have ascending : (fileNames entries).Pairwise (· < ·) := by
    have once : (fileNames entries).Nodup := by
      refine (List.mergeSort_perm _ _).nodup_iff.2 ?_
      exact distinct.sublist (List.filter_sublist.map _)
    exact ((pairwise_fileNames entries).and once).imp fun both => lt_of_le_of_ne both.1 both.2
  constructor
  · intro isList
    refine isList.ascending.eq_of_mem_iff ascending fun name => ?_
    rw [isList.mem_iff, mem_fileNames_iff]
  · rintro rfl
    exact ⟨ascending, fun name => mem_fileNames_iff⟩

/-- A descriptor is named for its file. -/
theorem fileName_joinPath {name : String} (isEntry : IsEntryName name) (dir : String) :
    fileName (joinPath dir name) = name := by
  have kept : name.toList ≠ [] ∧ name.toList ≠ ['.'] := by
    refine ⟨by simpa using isEntry.ne_empty, ?_⟩
    intro dot
    exact isEntry.ne_dot (String.toList_inj.1 dot)
  have last : ∃ above, Text.pieces '/' (joinPath dir name).toList = above ++ [name.toList] := by
    by_cases named : dir = ""
    · refine ⟨[], ?_⟩
      rw [Text.pieces_eq_iff]
      simpa [joinPath, named] using isEntry.slashless
    · obtain ⟨front, path, -⟩ := toList_joinPath named name
      exact ⟨Text.pieces '/' front, by rw [path, Text.pieces_append_cons isEntry.slashless]⟩
  obtain ⟨above, pieces⟩ := last
  have names : (above ++ [name.toList]).filter (fun piece => piece ≠ [] ∧ piece ≠ ['.']) =
      above.filter (fun piece => piece ≠ [] ∧ piece ≠ ['.']) ++ [name.toList] := by
    rw [List.filter_append, List.filter_cons_of_pos (by simpa using kept), List.filter_nil]
  simp only [fileName, pieces, names, List.getLast?_concat, String.ofList_toList]

end Descriptor

/-! ### Directories that are listed in any order -/

/-- Two listings of a directory: the same entries, or the same error. -/
inductive SameListing : Except FileError (List DirEntry) → Except FileError (List DirEntry) → Prop
  | entries {listed entries : List DirEntry} (perm : listed.Perm entries) :
      SameListing (.ok listed) (.ok entries)
  | failure (cause : FileError) : SameListing (.error cause) (.error cause)

/-- The files hold what is described, at all times, but the entries of a directory come in any
order, and in another one each time it is listed. -/
structure FileAccess.Enumerates {σ : Type} (files : FileAccess (StateM σ))
    (contents : FileAccess Id) : Prop where
  readText : ∀ path s, ((files.readText path).run s).1 = (contents.readText path).run
  list : ∀ dir s, SameListing ((files.list dir).run s).1 (contents.list dir).run

/-- A computation gives a value, whatever the state. -/
def Gives {σ α : Type} (x : StateM σ α) (v : α) : Prop :=
  ∀ s, (x.run s).1 = v

namespace Gives

variable {σ α β : Type}

theorem pure (v : α) : Gives (Pure.pure v : StateM σ α) v :=
  fun _ => rfl

theorem bind {x : StateM σ α} {f : α → StateM σ β} {w : β}
    (next : ∀ s, Gives (f (x.run s).1) w) : Gives (x >>= f) w :=
  fun s => next s (x.run s).2

theorem map {x : StateM σ α} {v : α} (gives : Gives x v) (f : α → β) :
    Gives (do return f (← x)) (f v) := by
  refine Gives.bind fun s => ?_
  rw [gives s]
  exact Gives.pure (f v)

end Gives

namespace Descriptor

/-! ### What reading gives -/

section Described

variable (contents : FileAccess Id)

theorem run_ofFile (path : String) :
    (ofFile contents path).run =
      ((contents.readText path).run.map (Descriptor.mk (fileName path))).mapError
        (.unreadable path) := by
  unfold ofFile
  generalize contents.readText path = text
  cases text <;> rfl

theorem run_ofFiles (paths : List String) :
    (ofFiles contents paths).run = paths.mapM fun path => (ofFile contents path).run := by
  induction paths with
  | nil => rfl
  | cons path rest ih =>
      rw [ofFiles, List.mapM_cons, ← ih]
      generalize ofFile contents path = first, ofFiles contents rest = others
      cases first with
      | error e => rfl
      | ok d => cases others <;> rfl

theorem run_ofDir (dir : String) :
    (ofDir contents dir).run =
      ((contents.list dir).run.mapError (.unreadable dir)).bind fun entries =>
        ((fileNames entries).map (joinPath dir)).mapM fun path => (ofFile contents path).run := by
  unfold ofDir
  generalize contents.list dir = listing
  cases listing with
  | error cause => rfl
  | ok entries => exact run_ofFiles contents _

theorem run_ofDirs (dirs : List String) :
    (ofDirs contents dirs).run =
      (dirs.mapM fun dir => (ofDir contents dir).run).map List.flatten := by
  induction dirs with
  | nil => rfl
  | cons dir rest ih =>
      rw [ofDirs, List.mapM_cons]
      generalize ofDir contents dir = first
      cases first with
      | error e => rfl
      | ok found =>
          show (ofDirs contents rest).run.map (found ++ ·) = _
          rw [ih]
          cases rest.mapM fun dir => (ofDir contents dir).run <;> rfl

end Described

section Enumerated

variable {σ : Type} {files : FileAccess (StateM σ)} {contents : FileAccess Id}

theorem gives_ofFile (enumerates : files.Enumerates contents) (path : String) :
    Gives (ofFile files path) (ofFile contents path).run := by
  rw [run_ofFile]
  refine Gives.bind fun s => ?_
  rw [enumerates.readText path s]
  cases (contents.readText path).run with
  | error cause => exact Gives.pure _
  | ok content => exact Gives.pure _

theorem gives_ofFiles (enumerates : files.Enumerates contents) (paths : List String) :
    Gives (ofFiles files paths) (paths.mapM fun path => (ofFile contents path).run) := by
  induction paths with
  | nil => exact Gives.pure _
  | cons path rest ih =>
      rw [List.mapM_cons]
      refine Gives.bind fun s => ?_
      rw [gives_ofFile enumerates path s]
      cases (ofFile contents path).run with
      | error e => exact Gives.pure _
      | ok d =>
          refine Eq.subst ?_ (ih.map (Except.map (d :: ·)))
          cases rest.mapM fun path => (ofFile contents path).run <;> rfl

/-- A directory gives the same descriptors in whatever order its entries are listed. -/
theorem gives_ofDir (enumerates : files.Enumerates contents) (dir : String) :
    Gives (ofDir files dir) (ofDir contents dir).run := by
  rw [run_ofDir]
  refine Gives.bind fun s => ?_
  have same := enumerates.list dir s
  generalize ((files.list dir).run s).1 = listing, (contents.list dir).run = described at same
  cases same with
  | failure cause => exact Gives.pure _
  | @entries listed entries perm =>
      show Gives (ofFiles files ((fileNames listed).map (joinPath dir))) _
      rw [fileNames_perm perm]
      exact gives_ofFiles enumerates _

theorem gives_ofDirs (enumerates : files.Enumerates contents) (dirs : List String) :
    Gives (ofDirs files dirs) (ofDirs contents dirs).run := by
  rw [run_ofDirs]
  induction dirs with
  | nil => exact Gives.pure _
  | cons dir rest ih =>
      rw [List.mapM_cons]
      refine Gives.bind fun s => ?_
      rw [gives_ofDir enumerates dir s]
      cases (ofDir contents dir).run with
      | error e => exact Gives.pure _
      | ok found =>
          refine Eq.subst ?_ (ih.map (Except.map (found ++ ·)))
          cases rest.mapM fun dir => (ofDir contents dir).run <;> rfl

end Enumerated

end Descriptor

/-! ### What the settings ask for -/

namespace Descriptor

/-- What a directory holds: one descriptor for each of its descriptor files, in ascending order
of their names. -/
def Yields (contents : FileAccess Id) (dir : String) (found : List Descriptor) : Prop :=
  ∃ entries names, (contents.list dir).run = .ok entries ∧ IsFileList entries names ∧
    List.Forall₂ (fun name (d : Descriptor) => d.name = name ∧
      (contents.readText (joinPath dir name)).run = .ok d.content) names found

/-- Why a directory does not give its descriptors: it cannot be listed, or a descriptor file
cannot be read, and then the first of them in the order of their names counts. -/
inductive Fails (contents : FileAccess Id) (dir : String) : CatalogError → Prop
  | unlisted {cause : FileError} (failed : (contents.list dir).run = .error cause) :
      Fails contents dir (.unreadable dir cause)
  | unread {entries : List DirEntry} {front back : List String} {name : String}
      {cause : FileError} (listed : (contents.list dir).run = .ok entries)
      (isList : IsFileList entries (front ++ name :: back))
      (readable : ∀ earlier ∈ front, ∃ text,
        (contents.readText (joinPath dir earlier)).run = .ok text)
      (failed : (contents.readText (joinPath dir name)).run = .error cause) :
      Fails contents dir (.unreadable (joinPath dir name) cause)

section Described

variable {contents : FileAccess Id}

theorem ofFile_eq_ok_iff {path : String} {d : Descriptor} :
    (ofFile contents path).run = .ok d ↔
      d.name = fileName path ∧ (contents.readText path).run = .ok d.content := by
  rw [run_ofFile]
  cases (contents.readText path).run with
  | error cause => simp [Except.map, Except.mapError]
  | ok content =>
      obtain ⟨name, text⟩ := d
      simp [Except.map, Except.mapError, eq_comm]

theorem ofFile_eq_error_iff {path : String} {e : CatalogError} :
    (ofFile contents path).run = .error e ↔
      ∃ cause, (contents.readText path).run = .error cause ∧ e = .unreadable path cause := by
  rw [run_ofFile]
  cases (contents.readText path).run with
  | error cause => simp [Except.map, Except.mapError, eq_comm]
  | ok content => simp [Except.map, Except.mapError]

theorem exists_ofFile_iff {path : String} :
    (∃ d, (ofFile contents path).run = .ok d) ↔
      ∃ text, (contents.readText path).run = .ok text := by
  simp only [ofFile_eq_ok_iff]
  constructor
  · rintro ⟨d, -, read⟩
    exact ⟨d.content, read⟩
  · rintro ⟨text, read⟩
    exact ⟨⟨fileName path, text⟩, rfl, read⟩

variable (wellNamed : contents.WellNamed) {dir : String}

include wellNamed

theorem ofDir_eq_ok_iff {found : List Descriptor} :
    (ofDir contents dir).run = .ok found ↔ Yields contents dir found := by
  rw [run_ofDir, Yields]
  cases listed : (contents.list dir).run with
  | error cause => simp [Except.mapError, Except.bind]
  | ok entries =>
      have distinct := wellNamed.distinct dir entries listed
      simp only [Except.mapError, Except.bind, Except.ok.injEq, isFileList_iff distinct,
        mapM_eq_ok_iff, List.forall₂_map_left_iff, ofFile_eq_ok_iff, exists_and_left,
        exists_eq_left', exists_eq_left]
      have named : ∀ name ∈ fileNames entries, fileName (joinPath dir name) = name := by
        intro name member
        obtain ⟨listed', -⟩ := mem_fileNames_iff.1 member
        exact fileName_joinPath (wellNamed.isEntryName dir entries listed _ listed') dir
      constructor
      · intro read
        refine ((List.forall₂_and_left _ _).2 ⟨named, read⟩).imp ?_
        rintro name d ⟨same, isName, content⟩
        exact ⟨isName.trans same, content⟩
      · intro read
        refine ((List.forall₂_and_left _ _).2 ⟨named, read⟩).imp ?_
        rintro name d ⟨same, isName, content⟩
        exact ⟨isName.trans same.symm, content⟩

theorem ofDir_eq_error_iff {e : CatalogError} :
    (ofDir contents dir).run = .error e ↔ Fails contents dir e := by
  rw [run_ofDir]
  cases listed : (contents.list dir).run with
  | error cause =>
      simp only [Except.mapError, Except.bind, Except.error.injEq]
      constructor
      · rintro rfl
        exact .unlisted listed
      · intro fails
        cases fails with
        | unlisted failed =>
            obtain rfl := Except.error.inj (listed.symm.trans failed)
            rfl
        | unread listed' => cases listed.symm.trans listed'
  | ok entries =>
      have distinct := wellNamed.distinct dir entries listed
      simp only [Except.mapError, Except.bind, mapM_eq_error_iff, ofFile_eq_error_iff,
        exists_ofFile_iff]
      constructor
      · rintro ⟨front, path, back, split, readable, cause, failed, rfl⟩
        obtain ⟨front, others, names, rfl, split'⟩ := List.map_eq_append_iff.1 split
        obtain ⟨name, back, rfl, rfl, rfl⟩ := List.map_eq_cons_iff.1 split'
        exact .unread listed ((isFileList_iff distinct).2 names.symm)
          (fun earlier member => readable _ (List.mem_map_of_mem member)) failed
      · intro fails
        cases fails with
        | unlisted failed => cases listed.symm.trans failed
        | @unread _ front back name cause listed' isList readable failed =>
            obtain rfl := Except.ok.inj (listed.symm.trans listed')
            have split := (isFileList_iff distinct).1 isList
            refine ⟨front.map (joinPath dir), joinPath dir name, back.map (joinPath dir), ?_, ?_,
              cause, failed, rfl⟩
            · rw [← split, List.map_append, List.map_cons]
            · intro path member
              obtain ⟨earlier, inFront, rfl⟩ := List.mem_map.1 member
              exact readable earlier inFront

end Described

end Descriptor

namespace Settings

/-- What the settings ask for: the bundled descriptors, if wanted, and those of one directory
after the other, or else the error of the first directory that fails. -/
inductive Gathered (contents : FileAccess Id) (settings : Settings) :
    Except CatalogError (List Descriptor) → Prop
  | found {parts : List (List Descriptor)}
      (yields : List.Forall₂ (Descriptor.Yields contents) settings.catalogDirs parts) :
      Gathered contents settings
        (.ok ((if settings.bundledCatalog then Descriptor.bundled else []) ++ parts.flatten))
  | failed {front back : List String} {dir : String} {e : CatalogError}
      (first : settings.catalogDirs = front ++ dir :: back)
      (yield : ∀ earlier ∈ front, ∃ found, Descriptor.Yields contents earlier found)
      (fails : Descriptor.Fails contents dir e) : Gathered contents settings (.error e)

theorem run_descriptors (contents : FileAccess Id) (settings : Settings) :
    (settings.descriptors contents).run =
      (Descriptor.ofDirs contents settings.catalogDirs).run.map
        ((if settings.bundledCatalog then Descriptor.bundled else []) ++ ·) :=
  rfl

theorem gives_descriptors {σ : Type} {files : FileAccess (StateM σ)} {contents : FileAccess Id}
    (enumerates : files.Enumerates contents) (settings : Settings) :
    Gives (settings.descriptors files) (settings.descriptors contents).run :=
  (Descriptor.gives_ofDirs enumerates settings.catalogDirs).map _

theorem descriptors_eq_iff {contents : FileAccess Id} (wellNamed : contents.WellNamed)
    {settings : Settings} {result : Except CatalogError (List Descriptor)} :
    (settings.descriptors contents).run = result ↔ Gathered contents settings result := by
  rw [run_descriptors, Descriptor.run_ofDirs]
  have yields_iff : ∀ parts,
      (settings.catalogDirs.mapM fun dir => (Descriptor.ofDir contents dir).run) = .ok parts ↔
        List.Forall₂ (Descriptor.Yields contents) settings.catalogDirs parts := by
    intro parts
    simp only [mapM_eq_ok_iff, Descriptor.ofDir_eq_ok_iff wellNamed]
  have fails_iff : ∀ e,
      (settings.catalogDirs.mapM fun dir => (Descriptor.ofDir contents dir).run) = .error e ↔
        ∃ front dir back, settings.catalogDirs = front ++ dir :: back ∧
          (∀ earlier ∈ front, ∃ found, Descriptor.Yields contents earlier found) ∧
            Descriptor.Fails contents dir e := by
    intro e
    simp only [mapM_eq_error_iff, Descriptor.ofDir_eq_ok_iff wellNamed,
      Descriptor.ofDir_eq_error_iff wellNamed]
  constructor
  · rintro rfl
    cases read : settings.catalogDirs.mapM fun dir => (Descriptor.ofDir contents dir).run with
    | error e =>
        obtain ⟨front, dir, back, first, yield, fails⟩ := (fails_iff e).1 read
        exact .failed first yield fails
    | ok parts => exact .found ((yields_iff parts).1 read)
  · intro gathered
    cases gathered with
    | found yields => rw [(yields_iff _).2 yields]; rfl
    | failed first yield fails => rw [(fails_iff _).2 ⟨_, _, _, first, yield, fails⟩]; rfl

/-- **Directories give the same descriptors in whatever order they are listed.**  The result
depends on what the directories hold only.  It is the bundled descriptors, if wanted, and one
descriptor for each descriptor file of the directories, which come in the order of the settings
and, in each of them, in the order of the names.  If a directory cannot be listed or a descriptor
file cannot be read, it is the error of the first directory with such a fault, and of the first
such file there.  In a file tree the files are read as the texts that their bytes encode. -/
theorem descriptors_enumerated (settings : Settings) :
    (∀ {σ τ : Type} (files : FileAccess (StateM σ)) (files' : FileAccess (StateM τ))
      (contents : FileAccess Id), files.Enumerates contents → files'.Enumerates contents →
        ∀ s t, ((settings.descriptors files).run s).1 = ((settings.descriptors files').run t).1) ∧
    (∀ {σ : Type} (files : FileAccess (StateM σ)) (contents : FileAccess Id),
      files.Enumerates contents → contents.WellNamed → ∀ s result,
        (((settings.descriptors files).run s).1 = result ↔ Gathered contents settings result)) ∧
    ∀ root : FileTree, root.WellNamed → root.access.WellNamed ∧
      ∀ dir entries, root.get dir = .ok (.directory entries) →
        (root.access.list dir).run =
          .ok (entries.map fun (name, node) => ⟨name, node.isFileNode⟩) ∧
        ∀ name bytes, (name, .file bytes) ∈ entries →
          (root.access.readText (joinPath dir name)).run =
            (String.fromUTF8? bytes).elim (.error .notUtf8) .ok := by
  refine ⟨?_, ?_, fun root wellNamed => ⟨wellNamed.access, ?_⟩⟩
  · intro σ τ files files' contents enumerates enumerates' s t
    rw [gives_descriptors enumerates settings s, gives_descriptors enumerates' settings t]
  · intro σ files contents enumerates wellNamed s result
    rw [gives_descriptors enumerates settings s]
    exact descriptors_eq_iff wellNamed
  · intro dir entries reached
    refine ⟨FileTree.list_eq_ok_iff.2 ⟨entries, reached, rfl⟩, ?_⟩
    intro name bytes member
    exact FileTree.readText_joinPath wellNamed reached member

end Settings

/-! ### Two directories -/

/-- The described files, where every other listing is reversed. -/
def FileAccess.alternating (contents : FileAccess Id) : FileAccess (StateM Bool) where
  readText path := pure (contents.readText path).run
  list dir := fun reversed =>
    ((contents.list dir).run.map fun entries => if reversed then entries.reverse else entries,
      !reversed)
  isFile path := pure (contents.isFile path).run

theorem FileAccess.alternating_enumerates (contents : FileAccess Id) :
    contents.alternating.Enumerates contents where
  readText _ _ := rfl
  list dir reversed := by
    show SameListing ((contents.list dir).run.map _) _
    cases (contents.list dir).run with
    | error cause => exact .failure cause
    | ok entries =>
        cases reversed with
        | false => exact .entries (List.Perm.refl entries)
        | true => exact .entries (List.reverse_perm entries)

/-- A directory with two descriptor files among others, and one with a file that is no text. -/
def FileTree.twoDirectories : FileTree :=
  .directory [
    ("good", .directory [("b.json", .file ⟨#[66]⟩), ("notes.txt", .file ⟨#[255]⟩),
      ("c.json", .directory []), ("a.json", .file ⟨#[65]⟩)]),
    ("bad", .directory [("z.json", .file ⟨#[254]⟩), ("a.json", .file ⟨#[65]⟩),
      ("b.json", .file ⟨#[255]⟩)])]

theorem FileTree.twoDirectories_wellNamed : twoDirectories.WellNamed := by
  have nothing : (FileTree.directory []).WellNamed := .directory (by simp) (by simp) (by simp)
  refine .directory (by decide) (by decide) ?_
  rw [List.forall_mem_cons, List.forall_mem_singleton]
  constructor
  · refine .directory (by decide) (by decide) ?_
    simp [WellNamed.file, nothing]
  · refine .directory (by decide) (by decide) ?_
    simp [WellNamed.file]

/-- A directory that is listed twice, in two orders, and one with unreadable files. -/
theorem Settings.descriptors_enumerated_alternating :
    (((⟨["good", "good"], false, ""⟩ : Settings).descriptors
        FileTree.twoDirectories.access.alternating).run false).1 =
      .ok [⟨"a.json", "A"⟩, ⟨"b.json", "B"⟩, ⟨"a.json", "A"⟩, ⟨"b.json", "B"⟩] ∧
    (((⟨["good", "bad"], true, ""⟩ : Settings).descriptors
        FileTree.twoDirectories.access.alternating).run true).1 =
      .error (.unreadable "bad/b.json" .notUtf8) := by
  have enumerates := FileTree.twoDirectories.access.alternating_enumerates
  have wellNamed := FileTree.twoDirectories_wellNamed.access
  have good : Descriptor.Yields FileTree.twoDirectories.access "good"
      [⟨"a.json", "A"⟩, ⟨"b.json", "B"⟩] :=
    ⟨_, ["a.json", "b.json"], rfl, by decide +kernel, .cons ⟨rfl, rfl⟩ (.cons ⟨rfl, rfl⟩ .nil)⟩
  have bad : Descriptor.Fails FileTree.twoDirectories.access "bad"
      (.unreadable "bad/b.json" .notUtf8) :=
    @Descriptor.Fails.unread _ _ [⟨"z.json", true⟩, ⟨"a.json", true⟩, ⟨"b.json", true⟩]
      ["a.json"] ["z.json"] "b.json" .notUtf8 rfl (by decide +kernel)
      (List.forall_mem_singleton.2 ⟨"A", rfl⟩) rfl
  constructor
  · refine ((Settings.descriptors_enumerated _).2.1 _ _ enumerates wellNamed false _).2 ?_
    exact @Gathered.found _ ⟨["good", "good"], false, ""⟩ _ (.cons good (.cons good .nil))
  · refine ((Settings.descriptors_enumerated _).2.1 _ _ enumerates wellNamed true _).2 ?_
    exact @Gathered.failed _ ⟨["good", "bad"], true, ""⟩ ["good"] [] "bad" _ rfl
      (List.forall_mem_singleton.2 ⟨_, good⟩) bad

end QmlAssist
