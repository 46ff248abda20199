import Mathlib.Data.List.Infix
import QmlAssist.Analysis.Basic
import QmlAssist.Proofs.Catalog.Tables
import QmlAssist.Proofs.Document.Backward

/-!
# Which types enclose a cursor

The type around a cursor is the innermost word on the way out of its blocks that
names a component in scope.  This module says when such a word stands in front of a
block that is still open at the cursor.

## Main Definitions

* `Text.HeadsOpenBlock` — a word stands in front of a block that is still open.
* `Text.Encloses` — a word of that kind, given by its spelling.
* `Text.OpenBlocksHeaded` — the nearest word in front of every open block stands in
  front of an open block.

## Design Notes

The word of a block is looked for across any text without words, and a closed block
may be part of that text: in `Item {} {` the nearest word in front of the open block
heads the closed one.  Blocks of this kind are what `OpenBlocksHeaded` excludes, and
it excludes nothing else (`Text.headsOpenBlock_iff`).
-/

namespace QmlAssist

namespace Text

/-- A text that ends with a word leads up to an open block, with no brace between. -/
def HeadsOpenBlock (before head : List Char) : Prop :=
  ∃ between, (∀ c ∈ between, isBrace c = false) ∧ between ++ head ∈ openBlocks before

/-- A word with this spelling stands in front of an open block. -/
def Encloses (before : List Char) (word : String) : Prop :=
  word ≠ "" ∧ ∃ head, lastWord head = word ∧ HeadsOpenBlock before head

/-- The nearest word in front of every open block stands in front of an open block. -/
def OpenBlocksHeaded (before : List Char) : Prop :=
  ∀ block ∈ openBlocks before, toWord block ≠ [] → HeadsOpenBlock before (toWord block)

/-- A text leads up to an open block exactly if it is the front part of the text in front
of some open block, and the other part has no brace. -/
theorem headsOpenBlock_iff_exists {before head : List Char} :
    HeadsOpenBlock before head ↔
      ∃ block ∈ openBlocks before, head <:+ block ∧
        (block.take (block.length - head.length)).all (!isBrace ·) = true := by
  constructor
  · rintro ⟨between, braceless, isOpen⟩
    refine ⟨between ++ head, isOpen, List.suffix_append _ _, ?_⟩
    simpa using braceless
  · rintro ⟨block, isOpen, ⟨between, rfl⟩, braceless⟩
    refine ⟨between, ?_, isOpen⟩
    simpa using braceless

instance (before head : List Char) : Decidable (HeadsOpenBlock before head) :=
  decidable_of_iff _ headsOpenBlock_iff_exists.symm

instance (before : List Char) : Decidable (OpenBlocksHeaded before) :=
  inferInstanceAs (Decidable (∀ block ∈ openBlocks before, _))

theorem encloses_iff_exists {before : List Char} {word : String} :
    Encloses before word ↔
      word ≠ "" ∧ ∃ head ∈ before.tails, lastWord head = word ∧ HeadsOpenBlock before head := by
  refine and_congr_right fun _ => ⟨?_, ?_⟩
  · rintro ⟨head, spelled, heads⟩
    obtain ⟨block, isOpen, front, -⟩ := headsOpenBlock_iff_exists.1 heads
    have place : head <:+ before := front.trans (suffix_of_mem_openBlocks isOpen)
    exact ⟨head, (List.mem_tails _ _).2 place, spelled, heads⟩
  · rintro ⟨head, -, spelled, heads⟩
    exact ⟨head, spelled, heads⟩

instance (before : List Char) (word : String) : Decidable (Encloses before word) :=
  decidable_of_iff _ encloses_iff_exists.symm

/-- Around a word in front of an open block, only such blocks are open that stay
open. -/
theorem HeadsOpenBlock.openBlocks_subset {before head : List Char}
    (heads : HeadsOpenBlock before head) : openBlocks head ⊆ openBlocks before := by
  obtain ⟨between, braceless, isOpen⟩ := heads
  have around := openBlocks_of_mem isOpen
  rw [openBlocks_append_of_braceless braceless] at around
  intro block member
  exact around.subset (List.mem_cons_of_mem _ member)

/-- What is met on the way out stands in front of open blocks as long as the way leads
through such blocks only.  The induction is along the way; what it carries is that no
block is open on the way that is closed at its start. -/
theorem OpenBlocksHeaded.headsOpenBlock {before earlier head : List Char}
    (headed : OpenBlocksHeaded before) (stillOpen : openBlocks earlier ⊆ openBlocks before)
    (met : head ∈ climb earlier) : HeadsOpenBlock before head := by
  induction earlier using climb.induct with
  | case1 earlier ends =>
      rw [climb_of_none ends] at met
      exact absurd met List.not_mem_nil
  | case2 earlier first found ih =>
      obtain ⟨block, outer, stack, rfl, word⟩ := enclosing?_eq_some_iff.1 found
      have isOpen : block ∈ openBlocks before := by
        refine stillOpen ?_
        rw [stack]
        exact List.mem_cons_self
      have heads := headed block isOpen word
      rw [climb_of_some found] at met
      rcases List.mem_cons.1 met with rfl | further
      · exact heads
      · exact ih heads.openBlocks_subset further

/-- Every word on the way out heads an open block exactly if the nearest word in front
of every open block does. -/
theorem headsOpenBlock_iff (before : List Char) :
    (∀ head ∈ climb before, HeadsOpenBlock before head) ↔ OpenBlocksHeaded before := by
  constructor
  · intro heads block isOpen word
    exact heads _ (toWord_mem_climb isOpen word)
  · intro headed head met
    exact headed.headsOpenBlock (List.Subset.refl _) met

theorem HeadsOpenBlock.encloses {before head : List Char} (met : head ∈ climb before)
    (heads : HeadsOpenBlock before head) : Encloses before (lastWord head) := by
  obtain ⟨-, c, rest, rfl, word⟩ := suffix_of_mem_climb met
  exact ⟨lastWord_ne_empty word, c :: rest, rfl, heads⟩

end Text

/-! ### A catalog with one name -/

/-- The catalog of a single component that markup knows under the given name. -/
def Catalog.ofTypeName (name : String) : Catalog :=
  Catalog.empty.insert ⟨name, ⟨["M"], name, "1"⟩, [], none, [], [], [], []⟩

theorem Catalog.modules_ofTypeName (name : String) :
    (Catalog.ofTypeName name).modules = [⟨"M", "1", [0]⟩] := by
  have path : Export.moduleName ⟨["M"], name, "1"⟩ = "M" := rfl
  rw [ofTypeName, modules_insert]
  simp [partway, Component.exports, empty, Tables.empty, enlist, Module.receive,
    Module.hasMember, Module.ofExport, path]

theorem Catalog.imported_ofTypeName (name : String) :
    (Catalog.ofTypeName name).imported (Import.all "import M") = [⟨"M", "1", [0]⟩] := by
  have imports : Import.all "import M" = [⟨"M", ""⟩] := by decide +kernel
  rw [imports, imported, modules_ofTypeName]
  decide +kernel

namespace Analysis

/-- Where the module of a single component is imported, its name is the only type. -/
theorem isTypeName_ofTypeName (name other : String) :
    (ofText (Catalog.ofTypeName name) "import M").isTypeName other = (name == other) := by
  have components : (ofText (Catalog.ofTypeName name) "import M").components = [0] := by
    simp [ofText, resolveIds, resolveImports, Catalog.imported_ofTypeName]
  rw [isTypeName, scope, components]
  exact Bool.or_false _

/-! ### The type around a cursor -/

theorem enclosingType?_eq (a : Analysis) (c : Cursor) :
    a.enclosingType? c = ((Text.climb c.backward).map Text.lastWord).find? a.isTypeName := by
  rw [enclosingType?, Cursor.enclosingWords_eq]

/-- A type is reported only if it is met on the way out. -/
theorem exists_of_enclosingType?_eq_some {a : Analysis} {c : Cursor} {type : String}
    (found : a.enclosingType? c = some type) :
    ∃ head ∈ Text.climb c.backward, Text.lastWord head = type := by
  rw [enclosingType?_eq] at found
  exact List.mem_map.1 (List.mem_of_find?_eq_some found)

/-- Every word that is met on the way out is reported if nothing else is a type. -/
theorem enclosingType?_ofTypeName {c : Cursor} {head : List Char}
    (met : head ∈ Text.climb c.backward) :
    (ofText (Catalog.ofTypeName (Text.lastWord head)) "import M").enclosingType? c =
      some (Text.lastWord head) := by
  have member : Text.lastWord head ∈ (Text.climb c.backward).map Text.lastWord :=
    List.mem_map_of_mem met
  rw [enclosingType?_eq]
  cases found : List.find? _ _ with
  | none =>
      have missed := List.find?_eq_none.1 found _ member
      rw [isTypeName_ofTypeName, beq_self_eq_true] at missed
      exact absurd rfl missed
  | some type =>
      have named := List.find?_some found
      rw [isTypeName_ofTypeName, beq_iff_eq] at named
      rw [named]

/-- **When the reported type encloses the cursor.**  Whatever is in scope, a reported
type stands in front of an open block exactly if every word on the way out does, and
the way out keeps to the words in front of open blocks exactly if the nearest word in
front of every open block is one of them. -/
theorem encloses_enclosingType_iff (text : String) (p : Position) :
    let cursor := (Document.ofText text).cursor p
    let before := cursor.backward
    ((∀ (catalog : Catalog) (source type : String),
        (ofText catalog source).enclosingType? cursor = some type →
          Text.Encloses before type) ↔
      ∀ head ∈ Text.climb before, Text.Encloses before (Text.lastWord head)) ∧
    ((∀ head ∈ Text.climb before, Text.HeadsOpenBlock before head) ↔
      Text.OpenBlocksHeaded before) ∧
    (Text.OpenBlocksHeaded before → ∀ (a : Analysis) (type : String),
      a.enclosingType? cursor = some type → Text.Encloses before type) := by
  intro cursor before
  refine ⟨⟨?_, ?_⟩, Text.headsOpenBlock_iff before, ?_⟩
  · intro encloses head met
    exact encloses _ _ _ (enclosingType?_ofTypeName met)
  · intro encloses catalog source type found
    obtain ⟨head, met, rfl⟩ := exists_of_enclosingType?_eq_some found
    exact encloses head met
  · intro headed a type found
    obtain ⟨head, met, rfl⟩ := exists_of_enclosingType?_eq_some found
    exact ((Text.headsOpenBlock_iff before).2 headed head met).encloses met

/-- A nested block with a closed sibling, in which every open block has its word. -/
theorem encloses_enclosingType_headed :
    let text := "import M\nItem \x7b\n  Row \x7b\x7d\n  Column \x7b\n    x"
    let cursor := (Document.ofText text).cursor ⟨4, 5⟩
    Text.OpenBlocksHeaded cursor.backward ∧
      (ofText (Catalog.ofTypeName "Item") text).enclosingType? cursor = some "Item" ∧
      Text.Encloses cursor.backward "Item" := by
  intro text cursor
  have headed : Text.OpenBlocksHeaded cursor.backward := by decide +kernel
  have found : (ofText (Catalog.ofTypeName "Item") text).enclosingType? cursor = some "Item" := by
    decide +kernel
  exact ⟨headed, found, (encloses_enclosingType_iff _ _).2.2 headed _ _ found⟩

/-- A block without a word of its own is taken for the closed block before it. -/
theorem not_encloses_enclosingType :
    let cursor := (Document.ofText "import M\nItem \x7b\x7d \x7b").cursor ⟨1, 9⟩
    (ofText (Catalog.ofTypeName "Item") "import M\nItem \x7b\x7d \x7b").enclosingType? cursor =
        some "Item" ∧
      ¬Text.Encloses cursor.backward "Item" := by
  decide +kernel

end Analysis

end QmlAssist
