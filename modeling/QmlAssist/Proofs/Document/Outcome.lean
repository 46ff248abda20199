import QmlAssist.Proofs.Document.Oversize
import QmlAssist.Proofs.Document.OutsideBraces

/-!
# What checked scans report

What a cursor finds is known in terms of the text: the last character of its kind in reading order,
the last one outside closed blocks, and the whole word of a line.  This module says the same of the
scans with numbers of 32 bits, for documents that fit into these numbers, and what becomes of it for
documents that do not.

## Main Statements

* `Checked.find_in_reading_order` — the nearest character of a kind, and the nearest one that is not
  blank.
* `Checked.findOutsideBraces_stands_outside` — the nearest character outside closed blocks.
* `Checked.wordAt_divides` — the whole word that a position touches.
* `Checked.find_misses_unseen`, `Checked.findOutsideBraces_misses_unseen`,
  `Checked.wordAt_misses_unseen` — none of this holds of every document.

## Design Notes

Each of the bounds is needed.  A line of `2 ^ 32` characters has the length zero, so it is passed
over; of `2 ^ 32 + 1` lines only the first one is left, so every position below counts as its end;
and `2 ^ 32` closing braces overflow the depth in closed blocks, though they stand on lines that can
be numbered.
-/

namespace QmlAssist

namespace Checked

open Run

/-! ### The nearest character -/

/-- **The nearest character of a kind is the last one in reading order.**  A document is read in
exactly one way.  In a document that fits, a search runs without a fault and reports the position at
the greatest place, up to the clamped position, at which a character of its kind stands.  It reports
the origin exactly if there is none, so a character that is there is never missed.  The nearest
character that is not blank is the last such character in reading order, given with the position in
front of it, and it is missing exactly if all characters up to there are blank. -/
theorem find_in_reading_order {text : String} (fits : (Document.ofText text).Fits) (p : Position)
    (pattern : Char → Bool) :
    let d := Document.ofText text
    let reading := Document.placed d.lines
    let places := d.placesUpTo (d.clamp p)
    (∀ listing, d.IsReading listing ↔ listing = reading) ∧
      (∃ report, find d pattern p = pure report ∧
        (report = .origin ↔ places pattern = ∅) ∧
        (∀ k ∈ places pattern, report ≠ .origin) ∧
        (places pattern ≠ ∅ →
          ∃ k ch, IsGreatest (places pattern) k ∧ reading[k]? = some (ch, report))) ∧
      ∃ found, nonBlankBefore d p = pure found ∧
        (found = none ↔ ∀ ch q, (ch, q) ∈ reading → q ≤ d.clamp p → isBlank ch = true) ∧
        ∀ ch q, found = some (ch, q) ↔
          ∃ k, IsGreatest (places (!isBlank ·)) k ∧
            reading[k]? = some (ch, ⟨q.line, q.character + 1⟩) := by
  intro d reading places
  obtain ⟨unique, nothing, something, -, blank, visible⟩ :=
    Cursor.nearest_in_reading_order text p pattern
  refine ⟨unique, ⟨_, find_eq fits pattern p, nothing, ?_, something⟩,
    ⟨_, nonBlankBefore_eq fits p, blank, visible⟩⟩
  intro k here missed
  exact Set.eq_empty_iff_forall_notMem.1 (nothing.1 missed) k here

/-- Far behind the end of a text, with an empty and a blank line in front of it. -/
theorem find_in_reading_order_far :
    let d := Document.ofText "a\n\n \t"
    d.Fits ∧ find d (· == 'a') ⟨9, 9⟩ = pure ⟨0, 1⟩ := by
  intro d
  have fits : d.Fits := by decide
  have reading : Document.placed d.lines =
      [('a', ⟨0, 1⟩), (' ', ⟨2, 1⟩), ('\t', ⟨2, 2⟩)] := by decide
  have occupied : 0 ∈ d.placesUpTo (d.clamp ⟨9, 9⟩) (· == 'a') :=
    ⟨'a', ⟨0, 1⟩, by rw [reading]; rfl, by decide, by decide⟩
  obtain ⟨-, ⟨report, runs, -, -, something⟩, -⟩ := find_in_reading_order fits ⟨9, 9⟩ (· == 'a')
  obtain ⟨k, ch, ⟨⟨ch', q, there, -, kind⟩, -⟩, here⟩ :=
    something (Set.nonempty_iff_ne_empty.1 ⟨0, occupied⟩)
  obtain ⟨rfl, -⟩ := Prod.mk.inj (Option.some.inj (here.symm.trans there))
  -- of the characters that are read, only one is of the kind
  have member := List.mem_of_getElem? here
  rw [reading] at member
  obtain rfl : report = ⟨0, 1⟩ := by simp_all
  exact ⟨fits, runs⟩

/-- A character on a line that counts as empty is missed, and so is one on a line below those
that count. -/
theorem find_misses_unseen :
    let long := Document.ofText (Text.longLine (2 ^ 32))
    let many := Document.ofText (Text.manyLines (2 ^ 32 - 2))
    find long (· == 'a') ⟨1, 0⟩ = pure .origin ∧
      (∃ k, k ∈ long.placesUpTo (long.clamp ⟨1, 0⟩) (· == 'a')) ∧
      find many (· == 'a') ⟨2, 0⟩ = pure .origin ∧
      ∃ k, k ∈ many.placesUpTo (many.clamp ⟨2, 0⟩) (· == 'a') := by
  intro long many
  refine ⟨scanBackward_longLine _ _ (by decide), ?_,
    scanBackward_manyLines _ _ (by decide) Nat.two_pos, ?_⟩
  · rw [Document.placesUpTo_clamp]
    obtain ⟨k, here⟩ := List.getElem?_of_mem
      (Document.mem_placedBefore_longLine (Nat.two_pow_pos 32))
    exact ⟨k, _, here, rfl⟩
  · rw [Document.placesUpTo_clamp]
    obtain ⟨k, here⟩ := List.getElem?_of_mem
      (Document.mem_placedBefore_manyLines (n := 2 ^ 32 - 2))
    exact ⟨k, _, here, rfl⟩

/-! ### The nearest character outside closed blocks -/

/-- **What a search outside closed blocks reports.**  Take the characters of a text before a
position in reading order.  If the text fits and fewer than `2 ^ 32` closing braces stand among
them, the search runs without a fault.  It reports the position after the last character of its kind
behind which no part has more closing than opening braces, and the origin exactly if there is none.
A search for opening braces reports the one on top of the stack of a matcher that reads these
characters forward, and the origin exactly if the stack is empty. -/
theorem findOutsideBraces_stands_outside {text : String} (fits : (Document.ofText text).Fits)
    {p : Position} (few : (Document.ofText text).closingBraces p < 2 ^ 32)
    (pattern : Char → Bool) :
    let d := Document.ofText text
    let placed := d.placedBefore p
    let chars := placed.map Prod.fst
    (∃ report, findOutsideBraces d pattern p = pure report ∧
      (report = .origin ↔ ∀ k, ¬Text.StandsOutside pattern chars k) ∧
      (report ≠ .origin →
        ∃ k ch, IsGreatest { k | Text.StandsOutside pattern chars k } k ∧
          placed[k]? = some (ch, report))) ∧
      ∃ report, findOutsideBraces d (· == '{') p = pure report ∧
        (report = .origin ↔ Text.braceStack chars = []) ∧
        ∀ top outer, Text.braceStack chars = top :: outer →
          placed[top]? = some ('{', report) := by
  intro d placed chars
  have runs := fun pattern =>
    (findOutsideBraces_givesUnless fits pattern p).eq_pure (Nat.not_le.2 few)
  obtain ⟨nothing, something, empty, top⟩ := Cursor.position_findOutsideBraces? text p pattern
  exact ⟨⟨_, runs pattern, nothing, something⟩, _, runs _, empty, top⟩

/-- Behind a closed block, a stray closing brace and an open one that is not the first. -/
theorem findOutsideBraces_stands_outside_unbalanced :
    let d := Document.ofText "\x7b \x7d \x7d\n\x7b \x7b x"
    d.Fits ∧ d.closingBraces ⟨1, 4⟩ < 2 ^ 32 ∧
      findOutsideBraces d (· == '{') ⟨1, 4⟩ = pure ⟨1, 3⟩ := by
  intro d
  have fits : d.Fits := by decide
  have few : d.closingBraces ⟨1, 4⟩ < 2 ^ 32 := by decide
  obtain ⟨-, report, runs, -, top⟩ := findOutsideBraces_stands_outside fits few (· == '{')
  have stack : Text.braceStack ((d.placedBefore ⟨1, 4⟩).map Prod.fst) = [7, 5] := by decide
  have here : (d.placedBefore ⟨1, 4⟩)[7]? = some ('{', ⟨1, 3⟩) := by decide
  obtain ⟨-, rfl⟩ := Prod.mk.inj (Option.some.inj (here.symm.trans (top _ _ stack)))
  exact ⟨fits, few, runs⟩

/-- A character on a line that counts as empty is missed though it stands outside, and so is one on
a line below those that count.  In a document that fits, two lines of closing braces are too many,
though no opening brace stands outside. -/
theorem findOutsideBraces_misses_unseen :
    let long := Document.ofText (Text.longLine (2 ^ 32))
    let many := Document.ofText (Text.manyLines (2 ^ 32 - 2))
    let deep := Document.ofText (Text.closedTwice (2 ^ 31))
    (findOutsideBraces long (· == 'a') ⟨1, 0⟩ = pure .origin ∧
      ∃ k, Text.StandsOutside (· == 'a') ((long.placedBefore ⟨1, 0⟩).map Prod.fst) k) ∧
      (findOutsideBraces many (· == 'a') ⟨2, 0⟩ = pure .origin ∧
        ∃ k, Text.StandsOutside (· == 'a') ((many.placedBefore ⟨2, 0⟩).map Prod.fst) k) ∧
      deep.Fits ∧ findOutsideBraces deep (· == '{') ⟨2, 2 ^ 31⟩ = throw .overflow ∧
        ∀ k, ¬Text.StandsOutside (· == '{') ((deep.placedBefore ⟨2, 2 ^ 31⟩).map Prod.fst) k := by
  intro long many deep
  refine ⟨⟨scanBackward_longLine _ _ (by decide), ?_⟩,
    ⟨scanBackward_manyLines _ _ (by decide) Nat.two_pos, ?_⟩,
    fits_closedTwice (by decide), findOutsideBraces_closedTwice (by decide) (by decide), ?_⟩
  · exact Document.exists_standsOutside (Document.mem_placedBefore_longLine (Nat.two_pow_pos 32)) rfl
      Document.closeless_longLine
  · exact Document.exists_standsOutside Document.mem_placedBefore_manyLines rfl
      Document.closeless_manyLines
  · exact Document.not_standsOutside_closedTwice (by decide)

/-! ### Words -/

/-- **Words divide a line.**  In a document that fits, at a position inside it or not, the word that
is found is the whole word that the nearest position of the document touches, with its range, and
nothing is found if there is none.  Every position from the start of the range to its end has the
same word with the same range.  The word before the end of the range is all of it, and the word
before any other position in the range is its part up to there, with the same start.  The ranges
that two positions on one line have are the same, or a character that is no word character lies
between them. -/
theorem wordAt_divides {d : Document} (fits : d.Fits) (p : Position) :
    let n := (d.clamp p).line
    (∃ found, wordAt d p = pure found) ∧
      (∀ word range, wordAt d p = pure (some (word, range)) ↔
        ∃ start stop, Text.IsWholeWord (d.line n) start stop ∧
          start ≤ (d.clamp p).character ∧ (d.clamp p).character ≤ stop ∧
          word = String.ofList ((d.line n).extract start stop) ∧
          range = ⟨⟨n, start⟩, ⟨n, stop⟩⟩) ∧
      (∀ word range, wordAt d p = pure (some (word, range)) →
        wordBefore d range.stop = pure (word, range.start) ∧
        ∀ q, range.start.character ≤ q → q ≤ range.stop.character →
          wordAt d ⟨n, q⟩ = pure (some (word, range)) ∧
          wordBefore d ⟨n, q⟩ =
            pure (String.ofList (word.toList.take (q - range.start.character)), range.start)) ∧
      ∀ p' word range word' range', (d.clamp p').line = n →
        wordAt d p = pure (some (word, range)) → wordAt d p' = pure (some (word', range')) →
        (word = word' ∧ range = range') ∨
          ∃ k ch, (d.line n)[k]? = some ch ∧ isWordChar ch = false ∧
            ((range.stop.character ≤ k ∧ k < range'.start.character) ∨
              (range'.stop.character ≤ k ∧ k < range.start.character)) := by
  intro n
  obtain ⟨whole, same, apart⟩ := d.wordAt?_divides_line p
  simp only [wordAt_eq fits, wordBefore_eq fits, pure_inj, Prod.mk.injEq]
  refine ⟨⟨_, rfl⟩, whole, ?_, apart⟩
  intro word range found
  obtain ⟨wordBefore, wordStart, finds⟩ := same word range found
  exact ⟨⟨wordBefore, wordStart⟩, finds⟩

/-- A word of letters and digits behind a line that ends with a carriage return. -/
theorem wordAt_divides_second :
    let d := Document.ofText "é\r\n-x1."
    d.Fits ∧ wordAt d ⟨1, 2⟩ = pure (some ("x1", ⟨⟨1, 1⟩, ⟨1, 3⟩⟩)) ∧
      wordBefore d ⟨1, 3⟩ = pure ("x1", ⟨1, 1⟩) := by
  intro d
  have fits : d.Fits := by decide
  have found : wordAt d ⟨1, 2⟩ = pure (some ("x1", ⟨⟨1, 1⟩, ⟨1, 3⟩⟩)) := by
    rw [wordAt_eq fits, pure_inj]
    decide
  obtain ⟨-, -, same, -⟩ := wordAt_divides fits ⟨1, 2⟩
  exact ⟨fits, found, (same _ _ found).1⟩

/-- A word that is as long as a line that counts as empty has a range that holds none of it, and a
word on a line below those that count is missed. -/
theorem wordAt_misses_unseen :
    let long := Document.ofText (Text.longLine (2 ^ 32))
    let many := Document.ofText (Text.manyLines (2 ^ 32 - 2))
    wordAt long ⟨0, 0⟩ =
        pure (some (String.ofList (List.replicate (2 ^ 32) 'a'), ⟨.origin, .origin⟩)) ∧
      ¬Text.IsWholeWord (long.line 0) 0 0 ∧
      wordAt many ⟨1, 0⟩ = pure none ∧ many.clamp ⟨1, 0⟩ = ⟨1, 0⟩ ∧
        Text.IsWholeWord (many.line 1) 0 1 := by
  intro long many
  have wide := wordAt_longLine (n := 2 ^ 32) (by decide) (by decide) (by decide)
  exact ⟨wide, fun whole => Nat.lt_irrefl 0 whole.start_lt, wordAt_manyLines (by decide),
    Document.clamp_manyLines (by decide), Document.isWholeWord_manyLines _⟩

end Checked

end QmlAssist
