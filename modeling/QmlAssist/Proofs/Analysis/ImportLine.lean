import QmlAssist.Proofs.Analysis.Consistent
import QmlAssist.Proofs.Analysis.Import

/-!
# Documents with complete import lines

Where every import stands complete on a line of its own, the imports of a document are read
off its lines.  This module says which modules, components and names such a document brings
into scope.

## Main Definitions

* `Import.Line` — a line with a complete import, or one in which no import begins.
* `Import.written` — the text of such lines.
* `Import.imports` — what they import.

## Main Statements

* `Import.allFrom_line` — the search finds what a line imports, and goes on at its end.
* `Import.all_written` — the imports that are found in a document are those of its lines.
* `Analysis.modules_components_candidates_written` — what they bring into scope.

## Design Notes

Where the gap behind a path ends is up to the reader of a line, since a clause may begin with
blanks.  The clause that is found has no gap in front (`Import.gapless`), which makes no
difference, since versions are read behind all blanks (`Import.bringsIn_gapless`).
-/

namespace QmlAssist

namespace Import

open Text

/-! ### Lines -/

/-- Spaces and tabs; there may be none. -/
structure Indent where
  chars : List Char
  blank : chars.all isGap = true

/-- The spaces and tabs between two parts of a line. -/
structure Gap extends Indent where
  nonempty : chars ≠ []

/-- A dotted path: names that are joined by single dots. -/
structure Path where
  segments : List (List Char)
  nonempty : segments ≠ []
  names : ∀ segment ∈ segments, IsName segment

/-- The written form of a path. -/
def Path.chars (path : Path) : List Char :=
  ['.'].intercalate path.segments

/-- Any text inside a line. -/
structure LineText where
  chars : List Char
  inLine : chars.all (!isLineEnd ·) = true

/-- A line in which `import` starts no name. -/
structure PlainLine extends LineText where
  importless : ∀ place < chars.length, "import".toList <+: chars.drop place →
    atNameStart (chars.take place).reverse = false

/-- A line with a complete import, or one in which no import begins.  Behind the path there is
nothing, or a gap and a clause. -/
inductive Line where
  | complete (indent : Indent) (gap : Gap) (path : Path) (clause? : Option (Gap × LineText))
  | plain (text : PlainLine)

/-- The ends of lines. -/
inductive LineEnd where
  | feed
  | returnFeed
deriving DecidableEq, Repr

def LineEnd.chars : LineEnd → List Char
  | feed => ['\n']
  | returnFeed => ['\r', '\n']

namespace Line

/-- What stands behind the path. -/
def tail : Option (Gap × LineText) → List Char
  | none => []
  | some (gap, clause) => gap.chars ++ clause.chars

/-- The written form of a line. -/
def chars : Line → List Char
  | complete indent gap path clause? =>
      indent.chars ++ ("import".toList ++ (gap.chars ++ (path.chars ++ tail clause?)))
  | plain text => text.chars

/-- What a line imports. -/
def import? : Line → Option Import
  | complete _ _ path none => some ⟨String.ofList path.chars, ""⟩
  | complete _ _ path (some (_, clause)) =>
      some ⟨String.ofList path.chars, String.ofList clause.chars⟩
  | plain _ => none

end Line

/-- The text of lines, of which the last one has no end.  A text that ends with a line end has
an empty line below it. -/
def written : List (Line × LineEnd) → Line → List Char
  | [], last => last.chars
  | (line, lineEnd) :: lines, last => line.chars ++ (lineEnd.chars ++ written lines last)

/-- What lines import, line after line. -/
def imports (lines : List (Line × LineEnd)) (last : Line) : List Import :=
  (lines.map Prod.fst ++ [last]).filterMap Line.import?

theorem imports_nil (last : Line) : imports [] last = last.import?.toList := by
  cases found : last.import? <;> simp [imports, found]

theorem imports_cons (line : Line) (lineEnd : LineEnd) (lines : List (Line × LineEnd))
    (last : Line) :
    imports ((line, lineEnd) :: lines) last = line.import?.toList ++ imports lines last := by
  cases found : line.import? <;> simp [imports, found]

/-! ### Clauses -/

/-- An import as it is found, whose clause begins behind the gap. -/
def gapless (i : Import) : Import :=
  ⟨i.path, String.ofList (i.clause.toList.dropWhile isGap)⟩

/-- A version is read behind all blanks. -/
theorem parse?_dropGap (clause : List Char) :
    Version.parse? (String.ofList (clause.dropWhile isGap)) =
      Version.parse? (String.ofList clause) := by
  have trimmed : trimStart (clause.dropWhile isGap) = trimStart clause := by
    induction clause with
    | nil => rfl
    | cons c clause ih =>
        by_cases gap : isGap c = true
        · have blank : isBlank c = true := (isBlank_isLineEnd_of_isGap gap).1
          rw [List.dropWhile_cons_of_pos gap, ih, trimStart, trimStart,
            List.dropWhile_cons_of_pos blank]
        · rw [List.dropWhile_cons_of_neg gap]
  rw [Version.parse?, Version.parse?, Version.digitTexts, Version.digitTexts, String.toList_ofList,
    String.toList_ofList, trimmed]

/-- An import brings the same modules into scope with and without the gap. -/
theorem bringsIn_gapless (i : Import) : i.gapless.bringsIn = i.bringsIn := by
  funext m
  have alike := parse?_dropGap i.clause.toList
  rw [String.ofList_toList] at alike
  simp only [bringsIn, gapless, Module.serves, Version.satisfies, alike]

theorem imported_map_gapless (catalog : Catalog) (imports : List Import) :
    catalog.imported (imports.map gapless) = catalog.imported imports := by
  simp only [Catalog.imported, List.flatMap_map, bringsIn_gapless]

/-- The gap in front of a clause is not found to be part of it. -/
theorem Line.map_gapless_import? (indent : Indent) (gap : Gap) (path : Path)
    (clause? : Option (Gap × LineText)) :
    (complete indent gap path clause?).import?.map gapless =
      some ⟨String.ofList path.chars, String.ofList ((tail clause?).dropWhile isGap)⟩ := by
  cases clause? with
  | none => rfl
  | some parts =>
      obtain ⟨space, clause⟩ := parts
      rw [import?, Option.map_some, gapless, String.toList_ofList, tail,
        List.dropWhile_append_of_pos (List.all_eq_true.1 space.blank)]

/-! ### Paths -/

/-- Behind a name, a dot goes on with the path. -/
theorem dottedRun_name_dot {name : List Char} (spelled : ∀ c ∈ name, isNameChar c = true)
    (rest : List Char) :
    dottedRun true (name ++ '.' :: rest) = name ++ '.' :: dottedRun false rest := by
  induction name with
  | nil =>
      have dot : isNameChar '.' = false := by decide
      simp [dottedRun, dot]
  | cons c name ih =>
      rw [List.forall_mem_cons] at spelled
      rw [List.cons_append, dottedRun, if_pos spelled.1, ih spelled.2, List.cons_append]

theorem dottedRun_intercalate {segments : List (List Char)} {rest : List Char}
    (names : ∀ segment ∈ segments, IsName segment)
    (ends : ∀ c ∈ rest.head?, isNameChar c = false ∧ c ≠ '.') :
    dottedRun false (['.'].intercalate segments ++ rest) = ['.'].intercalate segments := by
  induction segments with
  | nil => exact dottedRun_name (by simp) ends false
  | cons segment segments ih =>
      rw [List.forall_mem_cons] at names
      obtain ⟨⟨nonempty, spelled⟩, further⟩ := names
      rw [List.all_eq_true] at spelled
      cases segments with
      | nil =>
          rw [List.intercalate_singleton]
          exact dottedRun_name spelled ends false
      | cons next segments =>
          obtain ⟨c, segment, rfl⟩ := List.exists_cons_of_ne_nil nonempty
          have whole : ['.'].intercalate ((c :: segment) :: next :: segments) =
              c :: (segment ++ '.' :: ['.'].intercalate (next :: segments)) := by
            simp [List.intercalate_cons_cons]
          rw [List.forall_mem_cons] at spelled
          rw [whole, List.cons_append, dottedRun, if_pos spelled.1, List.append_assoc,
            List.cons_append, dottedRun_name_dot spelled.2, ih further]

/-- Names that are joined by dots end with a name. -/
theorem exists_last_intercalate {segments : List (List Char)} (nonempty : segments ≠ [])
    (names : ∀ segment ∈ segments, IsName segment) :
    ∃ front c, ['.'].intercalate segments = front ++ [c] ∧ isNameChar c = true := by
  induction segments with
  | nil => exact absurd rfl nonempty
  | cons segment segments ih =>
      rw [List.forall_mem_cons] at names
      cases segments with
      | nil =>
          obtain ⟨front, c, rfl⟩ := (List.eq_nil_or_concat segment).resolve_left names.1.1
          refine ⟨front, c, by simp, List.all_eq_true.1 names.1.2 c ?_⟩
          simp
      | cons next segments =>
          obtain ⟨front, c, last, name⟩ := ih (by simp) names.2
          refine ⟨segment ++ '.' :: front, c, ?_, name⟩
          rw [List.intercalate_cons_cons, last]
          simp

namespace Path

variable (path : Path)

/-- A path begins with a name. -/
theorem exists_first : ∃ c rest, path.chars = c :: rest ∧ isNameChar c = true := by
  obtain ⟨segments, nonempty, names⟩ := path
  obtain ⟨segment, segments, rfl⟩ := List.exists_cons_of_ne_nil nonempty
  rw [List.forall_mem_cons] at names
  obtain ⟨c, segment, rfl⟩ := List.exists_cons_of_ne_nil names.1.1
  have name : isNameChar c = true := List.all_eq_true.1 names.1.2 c List.mem_cons_self
  unfold chars
  cases segments with
  | nil => exact ⟨c, segment, List.intercalate_singleton, name⟩
  | cons next segments => exact ⟨c, _, List.intercalate_cons_cons_left, name⟩

/-- A path has no dot at its end to be dropped. -/
theorem dropFinalDot_chars : dropFinalDot path.chars = path.chars := by
  obtain ⟨front, c, last, name⟩ := exists_last_intercalate path.nonempty path.names
  have noDot : ¬(c == '.') = true := by
    intro dot
    obtain rfl : c = '.' := eq_of_beq dot
    exact absurd name (by decide)
  have kept : (c :: front.reverse).dropWhile (· == '.') = c :: front.reverse :=
    List.dropWhile_cons_of_neg noDot
  rw [chars, last, dropFinalDot, List.reverse_append, List.reverse_singleton,
    List.singleton_append, kept]
  simp

end Path

/-! ### One line -/

/-- Line ends are blanks, and no gaps. -/
theorem isBlank_isGap_of_isLineEnd {c : Char} (ends : isLineEnd c = true) :
    isBlank c = true ∧ isGap c = false := by
  rw [isLineEnd, Bool.or_eq_true, beq_iff_eq, beq_iff_eq] at ends
  rcases ends with rfl | rfl
  · decide
  · decide

theorem Indent.isGap_of_mem (indent : Indent) : ∀ c ∈ indent.chars, isGap c = true :=
  List.all_eq_true.1 indent.blank

theorem Indent.isBlank_of_mem (indent : Indent) : ∀ c ∈ indent.chars, isBlank c = true := by
  intro c member
  exact (isBlank_isLineEnd_of_isGap (indent.isGap_of_mem c member)).1

/-- What stands behind a path stays in the line. -/
theorem Line.tail_inLine (clause? : Option (Gap × LineText)) :
    ∀ c ∈ tail clause?, (!isLineEnd c) = true := by
  intro c member
  cases clause? with
  | none => cases member
  | some parts =>
      obtain ⟨gap, clause⟩ := parts
      rcases List.mem_append.1 member with inGap | inClause
      · rw [(isBlank_isLineEnd_of_isGap (gap.isGap_of_mem c inGap)).2, Bool.not_false]
      · exact List.all_eq_true.1 clause.inLine c inClause

/-- Gaps in front of an import begin no other one. -/
theorem passes_indent (indent : Indent) (before rest : List Char) :
    Passes pattern before indent.chars rest := by
  refine Passes.of_forall ?_ before rest
  intro c member
  refine pattern_of_ne ?_
  rintro rfl
  exact absurd (indent.isGap_of_mem 'i' member) (by decide)

section

variable {rest : List Char} (ends : ∀ c ∈ rest.head?, isLineEnd c = true)

include ends

/-- A clause goes from the end of the gap to the end of the line. -/
theorem takeWhile_dropGap {text : List Char} (inLine : ∀ c ∈ text, (!isLineEnd c) = true) :
    ((text ++ rest).dropWhile isGap).takeWhile (!isLineEnd ·) = text.dropWhile isGap := by
  have gapless : (text ++ rest).dropWhile isGap = text.dropWhile isGap ++ rest := by
    cases rest with
    | nil => rw [List.append_nil, List.append_nil]
    | cons c rest =>
        exact dropWhile_append_stop (isBlank_isGap_of_isLineEnd (ends c rfl)).2 text rest
  rw [gapless]
  refine takeWhile_run ?_ fun c head => by rw [ends c head, Bool.not_true]
  intro c member
  exact inLine c (List.dropWhile_subset _ member)

/-- Behind a path there is a blank, if anything: a gap, or the end of the line. -/
theorem isBlank_head?_tail (clause? : Option (Gap × LineText)) :
    ∀ c ∈ (Line.tail clause? ++ rest).head?, isBlank c = true := by
  intro c first
  cases clause? with
  | none => exact (isBlank_isGap_of_isLineEnd (ends c first)).1
  | some parts =>
      obtain ⟨gap, clause⟩ := parts
      rw [Line.tail, List.append_assoc, List.head?_append_of_ne_nil _ gap.nonempty] at first
      exact gap.isBlank_of_mem c (List.mem_of_head? first)

/-- Behind the word `import`, a path and what follows it are found up to the end of the
line. -/
theorem resumed_path (path : Path) (clause? : Option (Gap × LineText)) :
    resumed (path.chars ++ (Line.tail clause? ++ rest)) =
      ⟨String.ofList path.chars, String.ofList ((Line.tail clause?).dropWhile isGap)⟩ ::
        allFrom rest := by
  obtain ⟨c, further, first, name⟩ := path.exists_first
  have visible : (path.chars ++ (Line.tail clause? ++ rest)).dropWhile isBlank =
      path.chars ++ (Line.tail clause? ++ rest) := by
    rw [first]
    exact List.dropWhile_cons_of_neg (by simp [isBlank_of_isNameChar name])
  have run : dottedRun false (path.chars ++ (Line.tail clause? ++ rest)) = path.chars := by
    refine dottedRun_intercalate path.names ?_
    intro d head
    have blank := isBlank_head?_tail ends clause? d head
    refine ⟨isNameChar_of_isBlank blank, ?_⟩
    rintro rfl
    exact absurd blank (by decide)
  have inLine : ∀ d ∈ path.chars ++ Line.tail clause?, (!isLineEnd d) = true := by
    intro d member
    rcases List.mem_append.1 member with inPath | inTail
    · rw [← run] at inPath
      rw [isLineEnd_of_mem_dottedRun inPath, Bool.not_false]
    · exact Line.tail_inLine clause? d inTail
  have below : (path.chars ++ (Line.tail clause? ++ rest)).dropWhile (!isLineEnd ·) = rest := by
    rw [← List.append_assoc]
    exact dropWhile_run inLine fun d head => by rw [ends d head, Bool.not_true]
  have nonempty : path.chars ≠ [] := by simp [first]
  simp only [resumed, visible, run, if_neg nonempty, below, ofLine, List.drop_left,
    path.dropFinalDot_chars, takeWhile_dropGap ends (Line.tail_inLine clause?)]

/-- The word `import` does not reach across the end of a line. -/
theorem import_prefix_of_prefix_append {line : List Char}
    (begins : "import".toList <+: line ++ rest) : "import".toList <+: line := by
  obtain ⟨behind, whole⟩ := begins
  rcases List.append_eq_append_iff.1 whole with ⟨more, inLine, -⟩ | ⟨word, split, further⟩
  · exact ⟨more, inLine.symm⟩
  · cases word with
    | nil => exact ⟨[], by rw [split, List.append_nil, List.append_nil]⟩
    | cons c word =>
        -- the first character across the end would be both a line end and a letter
        have lineEnd : isLineEnd c = true := ends c (by rw [further]; rfl)
        have letters : ∀ d ∈ "import".toList, (!isLineEnd d) = true :=
          List.all_eq_true.1 (by decide)
        have letter := letters c (by rw [split]; simp)
        rw [lineEnd] at letter
        exact absurd letter (by decide)

/-- No import begins in a plain line. -/
theorem PlainLine.passes (text : PlainLine) : Passes pattern [] text.chars rest := by
  intro u v split nonempty
  rw [List.append_nil, pattern_eq]
  cases begins : dropWord? "import".toList (v ++ rest) with
  | none => rfl
  | some afterWord =>
      have inside : "import".toList <+: v :=
        import_prefix_of_prefix_append ends ⟨afterWord, (eq_append_of_dropWord? begins).symm⟩
      have place : u.length < text.chars.length := by
        rw [split, List.length_append]
        exact Nat.lt_add_of_pos_right (List.length_pos_iff.2 nonempty)
      -- the place is counted by what comes before it in the line
      have inName := text.importless u.length place (by rwa [split, List.drop_left])
      rw [split, List.take_left] at inName
      rw [Option.bind_some, if_pos (Or.inl inName)]

/-- The search finds what a line imports, and goes on at the end of the line. -/
theorem allFrom_line (line : Line) :
    allFrom (line.chars ++ rest) = (line.import?.map gapless).toList ++ allFrom rest := by
  cases line with
  | plain text =>
      rw [allFrom, Line.chars, occurrencesAfter_passed (text.passes ends),
        occurrencesAfter_of_lineEnd ends]
      rfl
  | complete indent gap path clause? =>
      have starts : atNameStart (indent.chars.reverse ++ []) = true := by
        rw [List.append_nil]
        cases behind : indent.chars.reverse with
        | nil => rfl
        | cons c front =>
            have blank := indent.isBlank_of_mem c (by rw [← List.mem_reverse, behind]; simp)
            rw [atNameStart_cons, isNameChar_of_isBlank blank, Bool.not_false]
      rw [allFrom, Line.chars]
      simp only [List.append_assoc]
      rw [occurrencesAfter_passed (passes_indent indent _ _),
        occurrencesAfter_open starts gap.nonempty gap.isBlank_of_mem, resumed_path ends,
        Line.map_gapless_import?]
      rfl

end

/-! ### All lines -/

theorem allFrom_lineEnd (lineEnd : LineEnd) (rest : List Char) :
    allFrom (lineEnd.chars ++ rest) = allFrom rest := by
  cases lineEnd with
  | feed => exact occurrencesAfter_feed [] rest
  | returnFeed =>
      show occurrencesAfter pattern [] 0 ('\r' :: '\n' :: rest) = _
      rw [occurrencesAfter, pattern_of_ne (by decide)]
      exact occurrencesAfter_feed ['\r'] rest

theorem LineEnd.isLineEnd_head? (lineEnd : LineEnd) (rest : List Char) :
    ∀ c ∈ (lineEnd.chars ++ rest).head?, isLineEnd c = true := by
  intro c first
  cases lineEnd with
  | feed =>
      obtain rfl : '\n' = c := Option.some.inj first
      decide
  | returnFeed =>
      obtain rfl : '\r' = c := Option.some.inj first
      decide

/-- What is found in a text of lines is what the lines import. -/
theorem all_written (lines : List (Line × LineEnd)) (last : Line) :
    all (String.ofList (written lines last)) = (imports lines last).map gapless := by
  have search : ∀ cs, all (String.ofList cs) = allFrom cs := by
    intro cs
    rw [all, occurrences, String.toList_ofList, allFrom]
  rw [search]
  induction lines with
  | nil =>
      have found := @allFrom_line [] (by simp) last
      rw [List.append_nil] at found
      rw [written, found, imports_nil]
      cases last.import? <;> rfl
  | cons entry lines ih =>
      obtain ⟨line, lineEnd⟩ := entry
      rw [written, allFrom_line (lineEnd.isLineEnd_head? _), allFrom_lineEnd, ih, imports_cons,
        List.map_append]
      cases line.import? <;> rfl

-- a line with a version and an alias, and an empty line below it
example :
    let gap : Gap := ⟨⟨[' '], by decide⟩, by decide⟩
    let path : Path := ⟨["QtQuick".toList, "Controls".toList], by decide, by decide⟩
    let line : Line := .complete ⟨[], rfl⟩ gap path (some (gap, ⟨"2.15 as C".toList, by decide⟩))
    let below : Line := .plain ⟨⟨[], rfl⟩, by simp⟩
    written [(line, .returnFeed)] below = "import QtQuick.Controls 2.15 as C\r\n".toList ∧
      imports [(line, .returnFeed)] below = [⟨"QtQuick.Controls", "2.15 as C"⟩] := by
  decide

end Import

namespace Analysis

/-- **What complete import lines bring into scope.**  Each line brings in the modules of its
path that serve its clause, and `QtQuick` brings in `QtQml`, line after line and in the order
of the catalog.  Their components are in scope, module after module, and each name among them
is offered once. -/
theorem modules_components_candidates_written (catalog : Catalog)
    (lines : List (Import.Line × Import.LineEnd)) (last : Import.Line) :
    let a := ofText catalog (String.ofList (Import.written lines last))
    (a.modules = (Import.imports lines last).flatMap fun i => catalog.modules.filter fun m =>
        (m.name = i.path ∧ Version.satisfies m.version i.clause = true) ∨
          (i.path = "QtQuick" ∧ m.name = "QtQml")) ∧
      a.components = a.modules.flatMap Module.components ∧
      ∃ names,
        FirstOccurrences
          (a.components.filterMap fun id => (catalog.component? id).map Component.typeName) names ∧
        a.candidates.filter (·.kind = .componentType) =
          names.map (⟨·, .componentType, none⟩) := by
  intro a
  have consistent : a.Consistent := consistent_ofText catalog _
  refine ⟨?_, consistent.components_eq, consistent.exists_typeCandidates⟩
  show catalog.imported (Import.all (String.ofList (Import.written lines last))) = _
  rw [Import.all_written, Import.imported_map_gapless, Catalog.imported]
  refine congrArg (List.flatMap · _) (funext fun i => List.filter_congr fun m _ => ?_)
  simp [Import.bringsIn, Module.serves, Bool.beq_eq_decide_eq]

end Analysis

end QmlAssist
