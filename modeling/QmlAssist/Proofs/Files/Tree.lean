import Mathlib.Data.List.Nodup
import QmlAssist.Files.Tree
import QmlAssist.Proofs.Text.Pieces

/-!
# Entries of directories and their paths

What is found at the path of an entry is the entry: the path leads to the directory and then,
behind a slash, to the name.  This needs names that mean themselves, so `.` and `..` are none,
and names that are distinct.

## Main Definitions

* `IsEntryName` — the names that an entry of a directory can have.
* `FileTree.WellNamed` — the trees with such names, distinct in each directory.

## Main Statements

* `toList_joinPath` — where the name stands in the path of an entry.
* `FileTree.get_joinPath` — the node at the path of an entry.
* `FileTree.readText_joinPath` — a file is read as the text that its bytes encode.
-/

namespace QmlAssist

/-! ### Names in paths -/

/-- A name that an entry of a directory can have. -/
structure IsEntryName (name : String) : Prop where
  ne_empty : name ≠ ""
  ne_dot : name ≠ "."
  ne_dots : name ≠ ".."
  slashless : '/' ∉ name.toList

instance (name : String) : Decidable (IsEntryName name) :=
  decidable_of_iff (name ≠ "" ∧ name ≠ "." ∧ name ≠ ".." ∧ '/' ∉ name.toList)
    ⟨fun ⟨a, b, c, d⟩ => ⟨a, b, c, d⟩, fun ⟨a, b, c, d⟩ => ⟨a, b, c, d⟩⟩

/-- In the path of an entry, a slash stands in front of its name, and the directory in front of
that, without the slash that its own path may end with. -/
theorem toList_joinPath {dir : String} (named : dir ≠ "") (name : String) :
    ∃ front, (joinPath dir name).toList = front ++ '/' :: name.toList ∧
      (dir.toList = front ∨ dir.toList = front ++ ['/']) := by
  by_cases ends : dir.toList.getLast? = some '/'
  · obtain ⟨front, whole⟩ := List.getLast?_eq_some_iff.1 ends
    refine ⟨front, ?_, Or.inr whole⟩
    simp [joinPath, whole]
  · refine ⟨dir.toList, ?_, Or.inl rfl⟩
    simp [joinPath, ends, named]

namespace FileTree

/-- The parts of the path of an entry: those of its directory and the name. -/
theorem parts_joinPath {dir name : String} (named : dir ≠ "") (isEntry : IsEntryName name) :
    ∃ front, parts (joinPath dir name) = front ++ [name] ∧
      (parts dir = front ∨ parts dir = front ++ ["."]) := by
  obtain ⟨front, path, whole⟩ := toList_joinPath named name
  refine ⟨((Text.pieces '/' front).map String.ofList).filter (· ≠ ""), ?_, ?_⟩
  · simp [parts, path, Text.pieces_append_cons isEntry.slashless, List.filter_append,
      isEntry.ne_empty]
  · rcases whole with whole | whole
    · rw [parts, whole]
      split
      next => exact Or.inr rfl
      next => exact Or.inl rfl
    · right
      simp [parts, whole, Text.pieces_append_cons List.not_mem_nil, List.filter_append]

/-! ### Following the path of an entry -/

/-- A path is followed to the end of its first part, and from there on. -/
theorem exists_follow_append (parents : List FileTree) (node : FileTree) (front : List String) :
    ∃ above, ∀ back, follow parents node (front ++ back) =
      (follow parents node front).bind fun found => follow above found back := by
  fun_induction follow parents node front with
  | case1 parents node => exact ⟨parents, fun _ => rfl⟩
  | case2 parents name rest bytes => exact ⟨[], fun _ => rfl⟩
  | case3 parents rest entries ih =>
      obtain ⟨above, split⟩ := ih
      exact ⟨above, fun back => by simpa [follow] using split back⟩
  | case4 rest entries _ ih =>
      obtain ⟨above, split⟩ := ih
      exact ⟨above, fun back => by simpa [follow] using split back⟩
  | case5 rest entries parent parents _ ih =>
      obtain ⟨above, split⟩ := ih
      exact ⟨above, fun back => by simpa [follow] using split back⟩
  | case6 parents name rest entries notDot notDots child listed ih =>
      obtain ⟨above, split⟩ := ih
      exact ⟨above, fun back => by simpa [follow, notDot, notDots, listed] using split back⟩
  | case7 parents name rest entries notDot notDots missing =>
      exact ⟨[], fun back => by simp [follow, notDot, notDots, missing, Except.bind]⟩

/-- A tree in which the names of the entries of a directory are distinct, and can stand in a
path. -/
inductive WellNamed : FileTree → Prop
  | file (bytes : ByteArray) : WellNamed (.file bytes)
  | directory {entries : List (String × FileTree)} (distinct : (entries.map Prod.fst).Nodup)
      (isEntryName : ∀ e ∈ entries, IsEntryName e.1) (below : ∀ e ∈ entries, WellNamed e.2) :
      WellNamed (.directory entries)

theorem WellNamed.of_follow {parents : List FileTree} {node found : FileTree}
    {names : List String} (followed : follow parents node names = .ok found)
    (above : ∀ parent ∈ parents, parent.WellNamed) (here : node.WellNamed) :
    found.WellNamed := by
  fun_induction follow parents node names with
  | case1 parents node =>
      obtain rfl := Except.ok.inj followed
      exact here
  | case2 => cases followed
  | case3 parents rest entries ih => exact ih followed above here
  | case4 rest entries _ ih => exact ih followed above here
  | case5 rest entries parent parents _ ih =>
      obtain ⟨nearest, others⟩ := List.forall_mem_cons.1 above
      exact ih followed others nearest
  | case6 parents name rest entries _ _ child listed ih =>
      have member : (name, child) ∈ entries := by
        obtain ⟨front, back, rfl, -⟩ := List.lookup_eq_some_iff.1 listed
        simp
      refine ih followed (List.forall_mem_cons.2 ⟨here, above⟩) ?_
      cases here with
      | directory _ _ below => exact below _ member
  | case7 => cases followed

theorem WellNamed.of_get {root found : FileTree} (wellNamed : root.WellNamed) {path : String}
    (reached : root.get path = .ok found) : found.WellNamed := by
  rw [get] at reached
  split at reached
  next => cases reached
  next => exact of_follow reached (by simp) wellNamed

/-- An entry is what is found under its name. -/
theorem lookup_of_mem {entries : List (String × FileTree)}
    (distinct : (entries.map Prod.fst).Nodup) {name : String} {node : FileTree}
    (member : (name, node) ∈ entries) : entries.lookup name = some node := by
  obtain ⟨front, back, rfl⟩ := List.append_of_mem member
  refine List.lookup_eq_some_iff.2 ⟨front, back, rfl, fun other before => ?_⟩
  rw [List.map_append, List.map_cons, List.nodup_append] at distinct
  exact bne_iff_ne.2 (distinct.2.2 other.1 (List.mem_map_of_mem before) name (by simp)).symm

/-- **At the path of an entry is the entry.** -/
theorem get_joinPath {root : FileTree} (wellNamed : root.WellNamed) {dir name : String}
    {entries : List (String × FileTree)} (reached : root.get dir = .ok (.directory entries))
    {node : FileTree} (member : (name, node) ∈ entries) :
    root.get (joinPath dir name) = .ok node := by
  obtain ⟨distinct, isEntryName⟩ : (entries.map Prod.fst).Nodup ∧ IsEntryName name := by
    cases wellNamed.of_get reached with
    | directory distinct isEntryName _ => exact ⟨distinct, isEntryName _ member⟩
  have named : dir ≠ "" := by
    rintro rfl
    cases reached
  obtain ⟨front, path, whole⟩ := parts_joinPath named isEntryName
  obtain ⟨above, split⟩ := exists_follow_append [] root front
  rw [get, if_neg named] at reached
  have atDirectory : follow [] root front = .ok (.directory entries) := by
    rcases whole with whole | whole
    · rwa [whole] at reached
    · rw [whole, split] at reached
      cases followed : follow [] root front with
      | error e =>
          rw [followed] at reached
          cases reached
      | ok found =>
          rw [followed] at reached
          cases found with
          | file bytes => cases reached
          | directory => simpa [Except.bind, follow] using reached
  have nonempty : joinPath dir name ≠ "" := by
    intro empty
    obtain ⟨front, whole, -⟩ := toList_joinPath named name
    simp [empty] at whole
  rw [get, if_neg nonempty, path, split, atDirectory]
  simp [Except.bind, follow, isEntryName.ne_dot, isEntryName.ne_dots, lookup_of_mem distinct member]

/-- A file is read as the text that its bytes encode. -/
theorem readText_joinPath {root : FileTree} (wellNamed : root.WellNamed) {dir name : String}
    {entries : List (String × FileTree)} (reached : root.get dir = .ok (.directory entries))
    {bytes : ByteArray} (member : (name, .file bytes) ∈ entries) :
    root.readText (joinPath dir name) =
      (String.fromUTF8? bytes).elim (.error .notUtf8) .ok := by
  rw [readText, get_joinPath wellNamed reached member]
  simp only [bind, Except.bind]
  cases String.fromUTF8? bytes <;> rfl

theorem list_eq_ok_iff {root : FileTree} {dir : String} {listed : List DirEntry} :
    root.list dir = .ok listed ↔ ∃ entries, root.get dir = .ok (.directory entries) ∧
      listed = entries.map fun (name, node) => ⟨name, node.isFileNode⟩ := by
  rw [list]
  cases root.get dir with
  | error e => simp [bind, Except.bind]
  | ok node => cases node <;> simp [bind, Except.bind, eq_comm]

end FileTree

/-- Directories are as a file system keeps them: the names of the entries are distinct, and
each can stand in a path. -/
structure FileAccess.WellNamed (contents : FileAccess Id) : Prop where
  distinct : ∀ dir entries, (contents.list dir).run = .ok entries →
    (entries.map DirEntry.name).Nodup
  isEntryName : ∀ dir entries, (contents.list dir).run = .ok entries →
    ∀ e ∈ entries, IsEntryName e.name

theorem FileTree.WellNamed.access {root : FileTree} (wellNamed : root.WellNamed) :
    root.access.WellNamed := by
  have listing : ∀ dir listed, root.list dir = .ok listed →
      (listed.map DirEntry.name).Nodup ∧ ∀ e ∈ listed, IsEntryName e.name := by
    intro dir listed found
    obtain ⟨entries, reached, rfl⟩ := list_eq_ok_iff.1 found
    cases wellNamed.of_get reached with
    | directory distinct isEntryName _ =>
        rw [List.map_map]
        exact ⟨distinct, List.forall_mem_map.2 isEntryName⟩
  exact ⟨fun dir listed found => (listing dir listed found).1,
    fun dir listed found => (listing dir listed found).2⟩

end QmlAssist
