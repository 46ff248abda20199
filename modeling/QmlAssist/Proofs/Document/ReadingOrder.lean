import QmlAssist.Proofs.Document.Backward

/-!
# Characters in reading order

A document has its characters on lines.  In reading order they are one sequence, in which
every character has a position just after it and line ends do not count.  A search of a cursor
is a search of the part of this sequence that lies before the cursor, and what is found is a
shorter part of it.

## Main Definitions

* `Document.placed` — the characters of lines in reading order, with their positions.
* `Document.placedBefore` — the part of them that lies before a position.

## Main Statements

* `Cursor.map_spelled_search?_placed` — a search of a cursor is a search of this sequence.
* `Cursor.exists_of_search?_eq_some` — the position that it reports.
-/

namespace QmlAssist

namespace Document

/-- The characters of one line, with the positions after them. -/
def placedLine (n : Nat) (line : List Char) : List (Char × Position) :=
  line.zipIdx.map fun (ch, column) => (ch, ⟨n, column + 1⟩)

/-- The characters of lines in reading order, with the positions after them. -/
def placed (lines : List (List Char)) : List (Char × Position) :=
  lines.zipIdx.flatMap fun (line, n) => placedLine n line

/-- The characters of a document that lie before a position, with the positions after
them. -/
def placedBefore (d : Document) (p : Position) : List (Char × Position) :=
  placed (d.lines.take (d.clamp p).line ++
    [(d.line (d.clamp p).line).take (d.clamp p).character])

@[simp]
theorem map_fst_placedLine (n : Nat) (line : List Char) :
    (placedLine n line).map Prod.fst = line := by
  unfold placedLine
  rw [List.map_map]
  exact List.zipIdx_map_fst 0 line

theorem placedLine_concat (n : Nat) (line : List Char) (ch : Char) :
    placedLine n (line ++ [ch]) = placedLine n line ++ [(ch, ⟨n, line.length + 1⟩)] := by
  unfold placedLine
  rw [List.zipIdx_append, List.map_append, Nat.zero_add]
  rfl

theorem placedLine_isPrefix (n : Nat) {front line : List Char} (part : front <+: line) :
    placedLine n front <+: placedLine n line := by
  obtain ⟨rest, rfl⟩ := part
  unfold placedLine
  rw [List.zipIdx_append, List.map_append]
  exact List.prefix_append _ _

theorem placed_append (lines more : List (List Char)) :
    placed (lines ++ more) =
      placed lines ++ (more.zipIdx lines.length).flatMap fun (line, n) => placedLine n line := by
  unfold placed
  rw [List.zipIdx_append, List.flatMap_append, Nat.zero_add]

theorem placed_concat (lines : List (List Char)) (line : List Char) :
    placed (lines ++ [line]) = placed lines ++ placedLine lines.length line := by
  rw [placed_append, List.zipIdx_singleton, List.flatMap_singleton]

/-- In reading order, the characters of lines are the characters of one line after the
other. -/
@[simp]
theorem map_fst_placed (lines : List (List Char)) :
    (placed lines).map Prod.fst = lines.flatten := by
  induction lines using List.reverseRecOn with
  | nil => rfl
  | append_singleton lines line ih =>
      rw [placed_concat, List.map_append, ih, map_fst_placedLine, List.flatten_append,
        List.flatten_singleton]

/-- Less of a line, and no lines after it, is less of the characters in reading order. -/
theorem placed_isPrefix (lines more : List (List Char)) {front line : List Char}
    (part : front <+: line) : placed (lines ++ [front]) <+: placed (lines ++ line :: more) := by
  have whole : lines ++ line :: more = lines ++ [line] ++ more := by simp
  rw [whole, placed_append (lines ++ [line]), placed_concat, placed_concat, List.append_assoc,
    List.prefix_append_right_inj]
  exact (placedLine_isPrefix _ part).trans (List.prefix_append _ _)

end Document

namespace Cursor

open Document

variable {σ : Type} {step : σ → Char → Option σ} {state : σ}

/-- The characters before a cursor in reading order, with the positions after them. -/
def placed (c : Cursor) : List (Char × Position) :=
  Document.placed (c.above.reverse ++ [c.before.reverse])

theorem placed_cursor (d : Document) (p : Position) :
    (d.cursor p).placed = d.placedBefore p := by
  unfold placed placedBefore Document.cursor
  rw [List.reverse_reverse, List.reverse_reverse]

/-- Read backward, the characters before a cursor are the text before it without line
ends. -/
theorem reverse_map_fst_placed (c : Cursor) :
    (c.placed.map Prod.fst).reverse = c.spelled [] := by
  unfold placed spelled
  rw [map_fst_placed, List.flatten_append, List.flatten_singleton, List.reverse_append,
    List.reverse_reverse]
  congr 1
  rw [List.reverse_flatten, List.map_reverse, List.reverse_reverse, List.flatMap_def]
  rfl

theorem getLast?_placed {c : Cursor} {ch : Char} {line : List Char}
    (before : c.before = ch :: line) : c.placed.getLast? = some (ch, c.position) := by
  unfold placed position
  rw [before, List.reverse_cons, placed_concat, placedLine_concat, ← List.append_assoc,
    List.getLast?_concat, List.length_reverse, List.length_reverse, List.length_cons]

/-! ### Searches in reading order -/

theorem suffix_of_searchLine {line rest before after : List Char}
    (found : searchLine step state line rest = .inl (before, after)) : before <:+ line := by
  induction line generalizing state rest with
  | nil => cases found
  | cons ch line ih =>
      rw [searchLine] at found
      split at found
      next =>
        obtain ⟨rfl, rfl⟩ := Prod.mk.inj (Sum.inl.inj found)
        exact List.suffix_refl _
      next => exact (ih found).trans (List.suffix_cons ch line)

theorem placed_isPrefix_of_searchAbove {above : List (List Char)} {found : Cursor}
    (search : searchAbove step state above = some found) :
    found.placed <+: Document.placed above.reverse := by
  induction above generalizing state with
  | nil => cases search
  | cons line above ih =>
      rw [searchAbove] at search
      rw [List.reverse_cons]
      split at search
      next before after inLine =>
        obtain rfl := Option.some.inj search
        have part : before.reverse <+: line := by
          rw [← List.reverse_suffix, List.reverse_reverse]
          exact suffix_of_searchLine inLine
        exact placed_isPrefix above.reverse [] part
      next =>
        rw [placed_concat]
        exact (ih search).trans (List.prefix_append _ _)

/-- What lies before the cursor that is found lay before the cursor of the search. -/
theorem placed_isPrefix_of_search? {c found : Cursor} (search : c.search? step state = some found) :
    found.placed <+: c.placed := by
  rw [search?] at search
  unfold placed
  split at search
  next before after inLine =>
    obtain rfl := Option.some.inj search
    have part : before.reverse <+: c.before.reverse :=
      List.reverse_prefix.2 (suffix_of_searchLine inLine)
    exact placed_isPrefix c.above.reverse [] part
  next =>
    rw [placed_concat c.above.reverse]
    exact (placed_isPrefix_of_searchAbove search).trans (List.prefix_append _ _)

variable (step state) in
/-- A search of a cursor is a search of the characters in reading order from their end. -/
theorem map_spelled_search?_placed (c : Cursor) :
    (c.search? step state).map (spelled []) =
      Text.searchBack step state (c.placed.map Prod.fst).reverse := by
  rw [reverse_map_fst_placed]
  exact map_spelled_search? (fun _ _ => rfl) state c

/-- What is found is a character in reading order, and the position after it is reported. -/
theorem exists_of_search?_eq_some {c found : Cursor} (search : c.search? step state = some found) :
    ∃ ch text, Text.searchBack step state (c.placed.map Prod.fst).reverse = some (ch :: text) ∧
      c.placed[text.length]? = some (ch, found.position) := by
  obtain ⟨ch, line, before⟩ := List.exists_cons_of_ne_nil (size_search?_le _ _ _ _ search).1
  have text : found.spelled [] = ch :: (line ++ found.above.flatMap List.reverse) := by
    rw [spelled, before]
    rfl
  refine ⟨ch, line ++ found.above.flatMap List.reverse, ?_, ?_⟩
  · rw [← map_spelled_search?_placed, search, Option.map_some, text]
  · have size : found.placed.length = (found.spelled []).length := by
      rw [← reverse_map_fst_placed, List.length_reverse, List.length_map]
    have last := getLast?_placed before
    rw [List.getLast?_eq_getElem?, size, text, List.length_cons, Nat.add_sub_cancel] at last
    obtain ⟨rest, whole⟩ := placed_isPrefix_of_search? search
    rw [← whole, List.getElem?_append_left (List.getElem?_eq_some_iff.1 last).1]
    exact last

/-- What is found is never reported as the origin, which means that nothing was found. -/
theorem ofSearch_eq_origin_iff {c : Cursor} :
    Position.ofSearch ((c.search? step state).map position) = .origin ↔
      c.search? step state = none := by
  cases search : c.search? step state with
  | none => simp [Position.ofSearch]
  | some found =>
      have nonempty : found.before ≠ [] := (size_search?_le _ _ _ _ search).1
      simp [Position.ofSearch, position, Position.origin, nonempty]

end Cursor

end QmlAssist
