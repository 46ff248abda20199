import Mathlib.Algebra.Group.Nat.Defs
import QmlAssist.Document.Checked
import QmlAssist.Proofs.Document.ReadingOrder
import QmlAssist.Proofs.Document.WholeWord

/-!
# Checked scans come to what a cursor finds

A scan with numbers of 32 bits checks every sum, difference and index, and cuts off the sizes of a
document.  This module shows that no check fails and that the outcome is that of the cursor, as far
as the lines of the document and the characters of each line can be numbered.

## Main Definitions

* `Run.GivesUnless` — a run gives a value, unless a sum overflows, which takes an excess.
* `Document.Fits` — the documents whose lines and columns can be numbered.
* `Document.closingBraces` — how many closing braces stand before a position.

## Main Statements

* `Checked.scanBackward_givesUnless` — a scan comes to what the search of the cursor finds.
* `Checked.find_eq`, `Checked.findOutsideBraces_givesUnless`, `Checked.wordBefore_eq`,
  `Checked.wordAt_eq` — the same for each operation.

## Design Notes

The depth in closed blocks is the one number that does not count places of a line or lines.  It
grows by one with each closing brace, so it can overflow only behind `2 ^ 32` of them.  A visitor of
a scan therefore comes with an excess: what it takes, given the characters that are still to be
visited, to overflow.
-/

namespace QmlAssist

namespace Run

variable {α β : Type}

theorem add_of_lt {size m n : Nat} (fits : m + n < size) : add size m n = pure (m + n) :=
  if_pos fits

theorem sub_of_le {m n : Nat} (le : n ≤ m) : sub m n = pure (m - n) :=
  if_pos le

theorem sub_succ (n : Nat) : sub (n + 1) 1 = pure n :=
  sub_of_le (Nat.le_add_left 1 n)

theorem get_of_getElem? {items : List α} {i : Nat} {item : α} (here : items[i]? = some item) :
    get items i = pure item := by
  rw [get, here]

theorem slice_part (front part back : List α) :
    slice (front ++ part ++ back) front.length (front.length + part.length) = pure part := by
  have inside : front.length ≤ front.length + part.length ∧
      front.length + part.length ≤ (front ++ part ++ back).length := by
    simp
  rw [slice, if_pos inside]
  simp

theorem truncate_of_lt {n : Nat} (fits : n < 2 ^ 32) : truncate n = n :=
  Nat.mod_eq_of_lt fits

theorem throw_bind (e : Fault) (f : α → Run β) : (throw e >>= f) = throw e :=
  rfl

theorem pure_inj {v w : α} : (pure v : Run α) = pure w ↔ v = w :=
  ⟨Except.ok.inj, congrArg pure⟩

/-- A run gives a value, unless a sum overflows, which takes an excess. -/
def GivesUnless (run : Run α) (value : α) (excess : Prop) : Prop :=
  run = pure value ∨ run = throw .overflow ∧ excess

namespace GivesUnless

variable {run : Run α} {value : α} {excess excess' : Prop}

theorem bind {f : α → Run β} {result : β} (first : run.GivesUnless value excess)
    (next : (f value).GivesUnless result excess) : (run >>= f).GivesUnless result excess := by
  rcases first with gives | ⟨faults, exceeds⟩
  · rw [gives, pure_bind]
    exact next
  · rw [faults, throw_bind]
    exact Or.inr ⟨rfl, exceeds⟩

theorem map (gives : run.GivesUnless value excess) (f : α → β) :
    (f <$> run).GivesUnless (f value) excess := by
  rcases gives with gives | ⟨faults, exceeds⟩
  · rw [gives]
    exact Or.inl rfl
  · rw [faults]
    exact Or.inr ⟨rfl, exceeds⟩

theorem mono (gives : run.GivesUnless value excess) (implies : excess → excess') :
    run.GivesUnless value excess' :=
  gives.imp_right (And.imp_right implies)

/-- What a run gives is the value. -/
theorem eq_of_pure (gives : run.GivesUnless value excess) {v : α} (runs : run = pure v) :
    v = value := by
  rcases gives with gives | ⟨faults, -⟩
  · exact pure_inj.1 (runs.symm.trans gives)
  · cases runs.symm.trans faults

theorem eq_pure (gives : run.GivesUnless value excess) (not : ¬excess) : run = pure value :=
  gives.resolve_right fun faults => not faults.2

end GivesUnless

end Run

/-- A document whose lines, and the characters of each line, can be numbered with 32 bits. -/
structure Document.Fits (d : Document) : Prop where
  lineCount_lt : d.lineCount < 2 ^ 32
  lineLength_lt : ∀ n, d.lineLength n < 2 ^ 32

theorem Document.fits_iff {d : Document} :
    d.Fits ↔ d.lineCount < 2 ^ 32 ∧ ∀ line ∈ d.lines, line.length < 2 ^ 32 := by
  constructor
  · rintro ⟨lineCount, lineLength⟩
    refine ⟨lineCount, fun line member => ?_⟩
    obtain ⟨n, here⟩ := List.getElem?_of_mem member
    have bound := lineLength n
    rwa [Document.lineLength, Document.line, here, Option.getD_some] at bound
  · rintro ⟨lineCount, length⟩
    refine ⟨lineCount, fun n => ?_⟩
    rw [Document.lineLength, Document.line]
    cases here : d.lines[n]? with
    | none => exact Nat.two_pow_pos 32
    | some line => exact length line (List.mem_of_getElem? here)

instance (d : Document) : Decidable d.Fits :=
  decidable_of_iff _ Document.fits_iff.symm

/-- A position inside a document: its line is a line of the document, and its column is at most
the length of that line. -/
def Document.Contains (d : Document) (p : Position) : Prop :=
  p.line < d.lineCount ∧ p.character ≤ d.lineLength p.line

/-- How many closing braces stand before a position. -/
def Document.closingBraces (d : Document) (p : Position) : Nat :=
  ((d.placedBefore p).map Prod.fst).count '}'

theorem Document.closingBraces_eq (d : Document) (p : Position) :
    d.closingBraces p = ((d.cursor p).spelled []).count '}' := by
  rw [closingBraces, ← Cursor.placed_cursor, ← Cursor.reverse_map_fst_placed, List.count_reverse]

namespace Checked

open Run

/-! ### Sizes that fit -/

section Fits

variable {d : Document} (fits : d.Fits)

include fits

theorem lineCount_eq : lineCount d = d.lineCount :=
  truncate_of_lt fits.lineCount_lt

theorem length_line_lt {n : Nat} {line : List Char} (here : d.lines[n]? = some line) :
    line.length < 2 ^ 32 := by
  have bound := fits.lineLength_lt n
  rwa [Document.lineLength, Document.line, here, Option.getD_some] at bound

theorem lineLength_eq (n : Nat) : lineLength d n = d.lineLength n := by
  unfold lineLength
  rw [Document.lineLength, Document.line]
  cases here : d.lines[n]? with
  | none => rfl
  | some line => exact truncate_of_lt (length_line_lt fits here)

theorem clamp_eq (p : Position) : clamp d p = d.clamp p := by
  simp only [clamp, Document.clamp, lineCount_eq fits, lineLength_eq fits]

end Fits

theorem length_take_reverse {d : Document} {n : Nat} (inside : n < d.lineCount) :
    (d.lines.take n).reverse.length = n := by
  rw [List.length_reverse, List.length_take]
  exact Nat.min_eq_left (Nat.le_of_lt inside)

/-! ### What a scan comes to -/

section Scan

variable {σ : Type} {visit : σ → Char → Run (Option σ)} {step : σ → Char → Option σ}
  {excess : σ → List Char → Prop}

/-- A visitor takes the steps of a search, unless a sum overflows, which takes an excess of the
state and the characters that are still to be visited. -/
structure Follows (visit : σ → Char → Run (Option σ)) (step : σ → Char → Option σ)
    (excess : σ → List Char → Prop) : Prop where
  gives : ∀ state ch rest, (visit state ch).GivesUnless (step state ch) (excess state (ch :: rest))
  excess_of_step : ∀ {state next ch rest}, step state ch = some next → excess next rest →
    excess state (ch :: rest)

variable (follows : Follows visit step excess)

include follows

theorem Follows.excess_of_searchLine {line rest further : List Char} {state last : σ}
    (passes : Cursor.searchLine step state line rest = .inr last) (exceeds : excess last further) :
    excess state (line ++ further) := by
  induction line generalizing state rest with
  | nil =>
      obtain rfl := Sum.inr.inj passes
      exact exceeds
  | cons ch line ih =>
      rw [Cursor.searchLine] at passes
      split at passes
      next => cases passes
      next next stepped => exact follows.excess_of_step stepped (ih passes)

/-- The induction is along the line from its start, while the scan begins at its end. -/
theorem scanLine_givesUnless (front back after further : List Char) (n : Nat) (state : σ) :
    (scanLine visit (front ++ back) n front.length state).GivesUnless
      ((Cursor.searchLine step state front.reverse after).map (fun parts => ⟨n, parts.1.length⟩) id)
      (excess state (front.reverse ++ further)) := by
  induction front using List.reverseRecOn generalizing back after state with
  | nil => exact Or.inl rfl
  | append_singleton front ch ih =>
      have here : (front ++ [ch] ++ back)[front.length]? = some ch := by simp
      have size : (front ++ [ch]).length = front.length + 1 := by simp
      rw [size, scanLine, sub_succ, pure_bind, get_of_getElem? here, pure_bind, List.reverse_concat,
        Cursor.searchLine]
      refine (follows.gives state ch (front.reverse ++ further)).bind ?_
      cases stepped : step state ch with
      | none =>
          refine Or.inl ?_
          simp
      | some next =>
          rw [List.append_assoc]
          exact (ih _ _ next).mono (follows.excess_of_step stepped)

variable {d : Document} {p : Position}

/-- One line after the lines in front of it. -/
theorem scanLines_succ_givesUnless {above : List (List Char)} {front back : List Char} {n : Nat}
    {state : σ} (count : above.length = n) (line : d.lines[n]? = some (front ++ back))
    (start : (if n = p.line then p.character else lineLength d n) = front.length)
    (others : ∀ state, (scanLines d visit p n state).GivesUnless
      (.ofSearch ((Cursor.searchAbove step state above).map Cursor.position))
      (excess state (above.flatMap List.reverse))) :
    (scanLines d visit p (n + 1) state).GivesUnless
      (.ofSearch (((⟨above, front.reverse, back⟩ : Cursor).search? step state).map
        Cursor.position))
      (excess state (front.reverse ++ above.flatMap List.reverse)) := by
  rw [scanLines, start, get_of_getElem? line, pure_bind, Cursor.search?]
  refine (scanLine_givesUnless follows front back back _ n state).bind ?_
  cases search : Cursor.searchLine step state front.reverse back with
  | inl parts =>
      subst count
      exact Or.inl rfl
  | inr last => exact (others last).mono (follows.excess_of_searchLine search)

variable (fits : d.Fits)

include fits

/-- The lines in front of the line of a position. -/
theorem scanLines_givesUnless {n : Nat} (inside : n < d.lineCount) (above : n ≤ p.line)
    (state : σ) :
    (scanLines d visit p n state).GivesUnless
      (.ofSearch ((Cursor.searchAbove step state (d.lines.take n).reverse).map Cursor.position))
      (excess state ((d.lines.take n).reverse.flatMap List.reverse)) := by
  induction n generalizing state with
  | zero => exact Or.inl rfl
  | succ n ih =>
      have inside' : n < d.lineCount := Nat.lt_of_succ_lt inside
      have line := Document.getElem?_lines inside'
      have lines : (d.lines.take (n + 1)).reverse = d.line n :: (d.lines.take n).reverse := by
        rw [List.take_add_one, line, Option.toList_some, List.reverse_concat]
      have start : (if n = p.line then p.character else lineLength d n) = (d.line n).length := by
        rw [if_neg (Nat.ne_of_lt above), lineLength_eq fits, Document.lineLength]
      rw [lines]
      have whole : d.lines[n]? = some (d.line n ++ []) := by rw [line, List.append_nil]
      exact scanLines_succ_givesUnless follows (length_take_reverse inside') whole start
        (ih inside' (Nat.le_of_succ_le above))

/-- **A scan comes to what the search of the cursor finds.** -/
theorem scanBackward_givesUnless (state : σ) (p : Position) :
    (scanBackward d visit state p).GivesUnless
      (.ofSearch (((d.cursor p).search? step state).map Cursor.position))
      (excess state ((d.cursor p).spelled [])) := by
  have inside := d.line_clamp_lt p
  have start : (if (d.clamp p).line = (d.clamp p).line then (d.clamp p).character
      else lineLength d (d.clamp p).line) =
        ((d.line (d.clamp p).line).take (d.clamp p).character).length := by
    rw [if_pos rfl, List.length_take]
    exact (Nat.min_eq_left (d.character_clamp_le p)).symm
  rw [scanBackward, clamp_eq fits]
  exact scanLines_succ_givesUnless follows (length_take_reverse inside)
    (by rw [Document.getElem?_lines inside, List.take_append_drop]) start
    (scanLines_givesUnless follows fits inside le_rfl)

end Scan

/-! ### The two searches -/

/-- The depth and the closing braces that are still to be passed come to no more than before. -/
theorem passBrace_add_count_le (depth : Nat) (ch : Char) (rest : List Char) :
    Cursor.passBrace depth ch + rest.count '}' ≤ depth + (ch :: rest).count '}' := by
  rw [Cursor.passBrace]
  split
  next closing =>
    rw [closing, List.count_cons_self]
    omega
  next => grind

theorem passBrace_givesUnless (depth : Nat) (ch : Char) (rest : List Char) :
    (passBrace depth ch).GivesUnless (Cursor.passBrace depth ch)
      (2 ^ 32 ≤ depth + (ch :: rest).count '}') := by
  rw [passBrace, Cursor.passBrace]
  split
  next closing =>
    rw [add]
    split
    next => exact Or.inl rfl
    next overflows =>
      have exceeds : 2 ^ 32 ≤ depth + 1 := Nat.not_lt.1 overflows
      refine Or.inr ⟨rfl, ?_⟩
      rw [closing, List.count_cons_self]
      omega
  next =>
    split
    next => exact Or.inl rfl
    next => exact Or.inl rfl

section Search

variable {d : Document} (fits : d.Fits) (pattern : Char → Bool) (p : Position)

include fits

theorem find_eq :
    find d pattern p = pure (.ofSearch (((d.cursor p).find? pattern).map Cursor.position)) := by
  have follows : Follows (fun (_ : Unit) ch => pure (if pattern ch then none else some ()))
      (fun _ ch => if pattern ch then none else some ()) fun _ _ => False :=
    ⟨fun _ _ _ => Or.inl rfl, fun _ exceeds => exceeds⟩
  exact (scanBackward_givesUnless follows fits () p).eq_pure id

/-- The depth in closed blocks overflows only after very many closing braces. -/
theorem findOutsideBraces_givesUnless :
    (findOutsideBraces d pattern p).GivesUnless
      (.ofSearch (((d.cursor p).findOutsideBraces? pattern).map Cursor.position))
      (2 ^ 32 ≤ d.closingBraces p) := by
  have follows : Follows
      (fun depth ch => if depth = 0 && pattern ch then pure none else some <$> passBrace depth ch)
      (fun depth ch =>
        if depth = 0 && pattern ch then none else some (Cursor.passBrace depth ch))
      fun depth rest => 2 ^ 32 ≤ depth + rest.count '}' := by
    constructor
    · intro depth ch rest
      split
      next => exact Or.inl rfl
      next => exact (passBrace_givesUnless depth ch rest).map some
    · intro depth next ch rest stepped exceeds
      split at stepped
      next => cases stepped
      next =>
        obtain rfl := Option.some.inj stepped
        exact exceeds.trans (passBrace_add_count_le depth ch rest)
  refine (scanBackward_givesUnless follows fits 0 p).mono fun exceeds => ?_
  rwa [Nat.zero_add, ← d.closingBraces_eq] at exceeds

end Search

/-! ### Words -/

theorem runStart_part {front left : List Char} (back : List Char)
    (isWord : ∀ ch ∈ left, isWordChar ch = true)
    (stops : ∀ ch ∈ front.getLast?, isWordChar ch = false) :
    runStart (front ++ left ++ back) (front.length + left.length) = pure front.length := by
  induction left using List.reverseRecOn generalizing back with
  | nil =>
      rw [List.append_nil, List.length_nil, Nat.add_zero]
      cases front using List.reverseRecOn with
      | nil =>
          rw [List.length_nil, runStart]
      | append_singleton front ch =>
          have here : (front ++ [ch] ++ back)[front.length]? = some ch := by simp
          have other : isWordChar ch = false := stops ch (by simp)
          have size : (front ++ [ch]).length = front.length + 1 := by simp
          rw [size, runStart, sub_succ, pure_bind, get_of_getElem? here, pure_bind, other]
          rfl
  | append_singleton left ch ih =>
      have here : (front ++ (left ++ [ch]) ++ back)[front.length + left.length]? = some ch := by
        rw [← List.append_assoc, List.append_assoc, ← List.length_append]
        simp
      have whole : front ++ (left ++ [ch]) ++ back = front ++ left ++ (ch :: back) := by simp
      have size : front.length + (left ++ [ch]).length = front.length + left.length + 1 := by
        simp [Nat.add_assoc]
      have word : isWordChar ch = true := isWord ch (by simp)
      rw [size, runStart, sub_succ, pure_bind, get_of_getElem? here, pure_bind, word, whole]
      exact ih (ch :: back) fun other member => isWord other (by simp [member])

theorem runStop_part {right back : List Char} (front : List Char)
    (isWord : ∀ ch ∈ right, isWordChar ch = true)
    (stops : ∀ ch ∈ back.head?, isWordChar ch = false)
    (fits : (front ++ right ++ back).length < 2 ^ 64) :
    runStop (front ++ right ++ back) front.length = pure (front.length + right.length) := by
  induction right generalizing front with
  | nil =>
      rw [List.append_nil, List.length_nil, Nat.add_zero, runStop]
      cases back with
      | nil => simp
      | cons ch back =>
          have here : (front ++ ch :: back)[front.length]? = some ch := by simp
          have inside : front.length < (front ++ ch :: back).length := by simp
          have other : isWordChar ch = false := stops ch rfl
          rw [if_pos inside, get_of_getElem? here, pure_bind, other]
          rfl
  | cons ch right ih =>
      have here : (front ++ ch :: right ++ back)[front.length]? = some ch := by simp
      have inside : front.length < (front ++ ch :: right ++ back).length := by simp
      have whole : front ++ ch :: right ++ back = front ++ [ch] ++ right ++ back := by simp
      have size : (front ++ [ch]).length = front.length + 1 := by simp
      have word : isWordChar ch = true := isWord ch List.mem_cons_self
      have next := ih (front ++ [ch]) (fun other member => isWord other (by simp [member]))
        (whole ▸ fits)
      have sum : add UInt64.size front.length 1 = pure (front.length + 1) :=
        add_of_lt (Nat.lt_of_le_of_lt inside fits)
      rw [runStop, if_pos inside, get_of_getElem? here, pure_bind, word, if_pos rfl, sum,
        pure_bind, whole, ← size, next, size, List.length_cons, Nat.add_assoc, Nat.add_comm 1]

section Words

variable {d : Document} {c : Cursor}

theorem getElem?_lines_of_isIn (isIn : c.IsIn d) :
    d.lines[c.above.length]? = some (c.before.reverse ++ c.after) := by
  obtain ⟨below, lines⟩ := isIn
  rw [lines, ← List.length_reverse]
  simp

theorem contains_of_isIn (isIn : c.IsIn d) : d.Contains c.position := by
  have line := getElem?_lines_of_isIn isIn
  refine ⟨(List.getElem?_eq_some_iff.1 line).1, ?_⟩
  rw [Document.lineLength, Document.line, Cursor.position, line, Option.getD_some,
    List.length_append, List.length_reverse]
  exact Nat.le_add_right _ _

/-- The position after a character that is not blank, which is found before another one. -/
theorem contains_of_nonBlankBefore? {p place : Position} {ch : Char}
    (search : (d.cursor p).nonBlankBefore? = some (ch, place)) :
    d.Contains ⟨place.line, place.character + 1⟩ ∧
      ⟨place.line, place.character + 1⟩ ≤ d.clamp p := by
  obtain ⟨found, atFound, here⟩ := Option.bind_eq_some_iff.1 search
  obtain ⟨_, -, same⟩ := Option.bind_eq_some_iff.1 here
  obtain ⟨-, rfl⟩ := Prod.mk.inj (Option.some.inj same)
  have isIn := (Cursor.isIn_cursor d p).search? atFound
  have nonempty := (Cursor.size_search?_le _ _ _ _ atFound).1
  have backward := Cursor.position_search?_le atFound
  rw [Cursor.position_cursor] at backward
  obtain ⟨above, before, after⟩ := found
  cases before with
  | nil => exact absurd rfl nonempty
  | cons => exact ⟨contains_of_isIn isIn, backward⟩

theorem charAt?_of_isIn (isIn : c.IsIn d) {ch : Char} {rest : List Char}
    (before : c.before = ch :: rest) : charAt? d c.above.length rest.length = some ch := by
  rw [charAt?, getElem?_lines_of_isIn isIn, before, Option.bind_some, ← List.length_reverse]
  simp

variable (fits : d.Fits)

include fits

/-- The line of a cursor by the parts around its word, and the numbers that are made of them. -/
theorem touches_line {front left right back : List Char}
    (touches : c.Touches front left right back) (isIn : c.IsIn d) :
    d.lines[c.position.line]? = some (front ++ left ++ (right ++ back)) ∧
      c.position.character = front.length + left.length ∧
      truncate front.length = front.length ∧
      truncate (front.length + (left ++ right).length) = front.length + (left ++ right).length := by
  have line := getElem?_lines_of_isIn isIn
  rw [touches.before_eq, touches.after_eq, List.reverse_append, List.reverse_reverse,
    List.reverse_reverse] at line
  have size := length_line_lt fits line
  simp only [List.length_append] at size
  refine ⟨line, ?_, truncate_of_lt (by omega), truncate_of_lt ?_⟩
  · rw [Cursor.position, touches.before_eq, List.length_append, List.length_reverse,
      List.length_reverse, Nat.add_comm]
  · rw [List.length_append]
    omega

variable (p : Position)

theorem charBefore_eq : charBefore d p = pure (d.cursor p).charBefore? := by
  have isIn := Cursor.isIn_cursor d p
  rw [charBefore, clamp_eq fits, ← Cursor.position_cursor, Cursor.charBefore?]
  generalize d.cursor p = c at isIn
  cases before : c.before with
  | nil =>
      have start : c.position.character = 0 := by rw [Cursor.position, before, List.length_nil]
      simp only [start, if_true]
      rfl
  | cons ch rest =>
      have column : c.position.character = rest.length + 1 := by
        rw [Cursor.position, before, List.length_cons]
      have here := charAt?_of_isIn isIn before
      simp only [column, Nat.add_one_ne_zero, if_false, sub_succ, pure_bind]
      exact congrArg pure here

theorem wordBefore_eq :
    wordBefore d p = pure ((d.cursor p).wordBefore, (d.cursor p).wordStart) := by
  have isIn := Cursor.isIn_cursor d p
  rw [wordBefore, clamp_eq fits, ← Cursor.position_cursor]
  generalize d.cursor p = c at isIn
  obtain ⟨front, left, right, back, touches⟩ := c.exists_touches
  obtain ⟨line, column, start, -⟩ := touches_line fits touches isIn
  have walk := runStart_part (right ++ back) touches.isWord_left touches.front_stops
  have word := slice_part front left (right ++ back)
  simp only [line, column, walk, word, start, pure_bind, touches.wordBefore, touches.wordStart]
  rfl

theorem wordAt_eq : wordAt d p = pure (d.cursor p).wordAt? := by
  have isIn := Cursor.isIn_cursor d p
  rw [wordAt, clamp_eq fits, ← Cursor.position_cursor]
  generalize d.cursor p = c at isIn
  obtain ⟨front, left, right, back, touches⟩ := c.exists_touches
  obtain ⟨line, column, start, stop⟩ := touches_line fits touches isIn
  have walk := runStart_part (right ++ back) touches.isWord_left touches.front_stops
  have size : (front ++ left ++ right ++ back).length < 2 ^ 32 := by
    simpa [List.append_assoc] using length_line_lt fits line
  have walk' := runStop_part (front ++ left) touches.isWord_right touches.back_stops
    (Nat.lt_trans size (by decide))
  have word := slice_part front (left ++ right) back
  simp only [List.append_assoc, List.length_append] at line walk walk' word stop
  rw [Nat.add_assoc] at walk'
  simp only [line, column, walk, walk', pure_bind, touches.wordAt?]
  by_cases none : left ++ right = []
  · have size := congrArg List.length none
    rw [List.length_append, List.length_nil] at size
    rw [if_pos none, if_pos (by omega)]
  · have size := List.length_pos_iff.2 none
    rw [List.length_append] at size
    rw [if_neg none, if_neg (by omega), word, pure_bind, start, stop, List.length_append]
    rfl

theorem nonBlankBefore_eq : nonBlankBefore d p = pure (d.cursor p).nonBlankBefore? := by
  rw [nonBlankBefore, find_eq fits, pure_bind, Cursor.nonBlankBefore?]
  cases search : (d.cursor p).find? (!isBlank ·) with
  | none => rfl
  | some found =>
      obtain ⟨ch, rest, before⟩ :=
        List.exists_cons_of_ne_nil (Cursor.size_search?_le _ _ _ _ search).1
      have isIn := (Cursor.isIn_cursor d p).search? search
      have here := charAt?_of_isIn isIn before
      have place : found.position = ⟨found.above.length, rest.length + 1⟩ := by
        rw [Cursor.position, before, List.length_cons]
      have notOrigin : found.position ≠ .origin := by
        rw [place]
        exact fun origin => Nat.succ_ne_zero _ (congrArg Position.character origin)
      have back : found.stepBack.position = ⟨found.above.length, rest.length⟩ := by
        rw [Cursor.position_stepBack, place]
        rfl
      have head : found.charBefore? = some ch := by
        rw [Cursor.charBefore?, before, List.head?_cons]
      rw [Option.map_some, Position.ofSearch, Option.getD_some, if_neg notOrigin, place, sub_succ,
        pure_bind, here]
      show _ = pure (found.charBefore?.bind fun ch => some (ch, found.stepBack.position))
      rw [head, back]
      rfl

end Words

end Checked

end QmlAssist
