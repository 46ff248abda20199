import QmlAssist.Proofs.Document.Checked
import QmlAssist.Proofs.Document.NearestMatch
import QmlAssist.Proofs.Document.OutsideBraces

/-!
# Documents that do not fit

The sizes of a document are cut off to 32 bits, and the depth in closed blocks is counted with 32
bits.  This module follows the scans through documents for which that is not enough: a line whose
length is cut off to nothing is passed over, and so are all lines behind those whose number is left
of the number of lines; and a depth that cannot be counted is a fault.

## Main Definitions

* `Text.longLine`, `Text.manyLines` — texts with a long line and with many lines.
* `Text.closedTwice` — a text with many closing braces on lines of half that length.

## Main Statements

* `Checked.scanBackward_unseen` — a scan finds nothing on lines that count as empty.
* `Checked.scanBackward_longLine`, `Checked.scanBackward_manyLines` — such lines in the two texts.
* `Checked.findOutsideBraces_closedTwice` — the depth overflows.

## Design Notes

The texts are too large to be looked at character by character, so every fact about them is proved
for all sizes first.
-/

namespace QmlAssist

/-! ### Texts that are written line by line -/

namespace Document

theorem lines_ofText_unlines {lines : List (List Char)}
    (plain : ∀ line ∈ lines, '\n' ∉ line ∧ '\r' ∉ line) :
    (ofText (String.ofList (Text.unlines lines))).lines = lines ++ [[]] := by
  have same : ∀ line ∈ lines, dropReturn line = line := by
    intro line member
    have whole := dropReturn_append (plain line member).2 []
    rw [List.append_nil] at whole
    exact whole.trans (List.append_nil line)
  have kept : lines.map dropReturn = lines := (List.map_congr_left same).trans (List.map_id _)
  show (Text.pieces '\n' (String.ofList (Text.unlines lines)).toList).map dropReturn = _
  rw [String.toList_ofList, ← List.append_nil (Text.unlines lines),
    Text.pieces_unlines fun line member => (plain line member).1, List.map_append, kept]
  rfl

end Document

namespace Text

/-- A line of equal characters. -/
def longLine (n : Nat) : String :=
  String.ofList (unlines [List.replicate n 'a'])

/-- A character on the second line, with empty lines around it. -/
def manyLines (n : Nat) : String :=
  String.ofList (unlines ([] :: ['a'] :: List.replicate n []))

/-- A block that is opened, and two lines of closing braces. -/
def closedTwice (n : Nat) : String :=
  String.ofList (unlines [['{'], List.replicate n '}', List.replicate n '}'])

theorem lines_longLine (n : Nat) :
    (Document.ofText (longLine n)).lines = [List.replicate n 'a', []] := by
  apply Document.lines_ofText_unlines
  simp [List.mem_replicate]

theorem lines_manyLines (n : Nat) :
    (Document.ofText (manyLines n)).lines = [] :: ['a'] :: (List.replicate n [] ++ [[]]) := by
  apply Document.lines_ofText_unlines
  simp [List.mem_replicate]

theorem lines_closedTwice (n : Nat) :
    (Document.ofText (closedTwice n)).lines =
      [['{'], List.replicate n '}', List.replicate n '}', []] := by
  apply Document.lines_ofText_unlines
  simp [List.mem_replicate]

end Text

namespace Document

variable {n : Nat}

theorem clamp_longLine : (ofText (Text.longLine n)).clamp ⟨1, 0⟩ = ⟨1, 0⟩ := by
  apply clamp_of_inside
  · rw [lineCount, Text.lines_longLine]
    exact Nat.one_lt_two
  · exact Nat.zero_le _

theorem clamp_manyLines {line : Nat} (inside : line < n + 3) :
    (ofText (Text.manyLines n)).clamp ⟨line, 0⟩ = ⟨line, 0⟩ := by
  apply clamp_of_inside
  · rw [lineCount, Text.lines_manyLines]
    simp only [List.length_cons, List.length_append, List.length_replicate]
    exact inside
  · exact Nat.zero_le _

theorem mem_placedBefore_longLine (positive : 0 < n) :
    ('a', ⟨0, 1⟩) ∈ (ofText (Text.longLine n)).placedBefore ⟨1, 0⟩ := by
  rw [mem_placedBefore_iff, mem_placed_iff, clamp_longLine, Text.lines_longLine]
  refine ⟨⟨_, rfl, Nat.one_pos, List.getElem?_replicate_of_lt positive⟩, ?_⟩
  exact Position.le_iff.2 (Or.inl Nat.one_pos)

theorem mem_placedBefore_manyLines :
    ('a', ⟨1, 1⟩) ∈ (ofText (Text.manyLines n)).placedBefore ⟨2, 0⟩ := by
  rw [mem_placedBefore_iff, mem_placed_iff, clamp_manyLines (Nat.lt_add_left n (by decide)),
    Text.lines_manyLines]
  refine ⟨⟨_, rfl, Nat.one_pos, rfl⟩, ?_⟩
  exact Position.le_iff.2 (Or.inl Nat.one_lt_two)

/-- Where no brace is closed, every character of the kind stands outside. -/
theorem exists_standsOutside {d : Document} {pattern : Char → Bool} {p q : Position} {ch : Char}
    (before : (ch, q) ∈ d.placedBefore p) (kind : pattern ch = true)
    (closeless : '}' ∉ d.lines.flatten) :
    ∃ k, Text.StandsOutside pattern ((d.placedBefore p).map Prod.fst) k := by
  have chars : (d.placedBefore p).map Prod.fst <+: d.lines.flatten := by
    rw [← map_fst_placed]
    exact (d.placedBefore_isPrefix p).map Prod.fst
  obtain ⟨k, here⟩ := List.getElem?_of_mem (List.mem_map_of_mem (f := Prod.fst) before)
  refine ⟨k, ⟨ch, here, kind⟩, fun front part => ?_⟩
  have absent : '}' ∉ front := fun inFront =>
    closeless (chars.subset (List.mem_of_mem_drop (part.subset inFront)))
  rw [List.count_eq_zero.2 absent]
  exact Nat.zero_le _

theorem closeless_longLine : '}' ∉ (ofText (Text.longLine n)).lines.flatten := by
  rw [Text.lines_longLine]
  simp [List.mem_replicate]

theorem closeless_manyLines : '}' ∉ (ofText (Text.manyLines n)).lines.flatten := by
  rw [Text.lines_manyLines]
  simp

theorem clamp_closedTwice : (ofText (Text.closedTwice n)).clamp ⟨2, n⟩ = ⟨2, n⟩ := by
  apply clamp_of_inside
  · rw [lineCount, Text.lines_closedTwice]
    show 2 < 4
    decide
  · rw [lineLength, line, Text.lines_closedTwice]
    simp

theorem before_closedTwice :
    ((ofText (Text.closedTwice n)).cursor ⟨2, n⟩).before = List.replicate n '}' := by
  rw [cursor, clamp_closedTwice, line, Text.lines_closedTwice]
  simp

/-- Behind the one brace that is opened stands one that is closed. -/
theorem not_standsOutside_closedTwice (positive : 0 < n) (k : Nat) :
    ¬Text.StandsOutside (· == '{')
      (((ofText (Text.closedTwice n)).placedBefore ⟨2, n⟩).map Prod.fst) k := by
  have chars : ((ofText (Text.closedTwice n)).placedBefore ⟨2, n⟩).map Prod.fst =
      '{' :: List.replicate (n + n) '}' := by
    rw [placedBefore, clamp_closedTwice, map_fst_placed, line, Text.lines_closedTwice]
    simp
  rw [chars]
  rintro ⟨⟨ch, here, opening⟩, closed⟩
  cases k with
  | zero =>
      have surplus := closed ['}'] ?_
      · exact absurd surplus (by decide)
      · obtain ⟨m, size⟩ : ∃ m, n + n = m + 1 := ⟨n + n - 1, by omega⟩
        rw [size, List.replicate_succ]
        exact List.cons_prefix_cons.2 ⟨rfl, List.nil_prefix⟩
  | succ k =>
      rw [List.getElem?_cons_succ] at here
      have closing := List.eq_of_mem_replicate (List.mem_of_getElem? here)
      rw [closing] at opening
      exact absurd opening (by decide)

theorem isWholeWord_manyLines (n : Nat) :
    Text.IsWholeWord ((ofText (Text.manyLines n)).line 1) 0 1 := by
  have line_eq : (ofText (Text.manyLines n)).line 1 = [] ++ (['a'] ++ []) := by
    rw [line, Text.lines_manyLines]
    rfl
  rw [line_eq]
  apply (Text.isWholeWord_part_iff (List.cons_ne_nil _ _)).2
  refine ⟨?_, ?_, ?_⟩
  · intro c member
    rw [List.mem_singleton.1 member]
    decide
  · exact fun c last => absurd last (Option.not_mem_none c)
  · exact fun c first => absurd first (Option.not_mem_none c)

end Document

namespace Checked

open Run

theorem clamp_lineStart {d : Document} {n : Nat} (inside : n < lineCount d) :
    clamp d ⟨n, 0⟩ = ⟨n, 0⟩ := by
  have last : ¬lineCount d - 1 < n := by omega
  unfold clamp
  dsimp only
  rw [if_neg last, Nat.zero_min]

/-! ### Lines that count as empty -/

section Unseen

variable {d : Document} {σ : Type} {visit : σ → Char → Run (Option σ)} {p : Position}

theorem scanLines_unseen {n : Nat} (inside : n ≤ d.lines.length)
    (unseen : ∀ m < n, (if m = p.line then p.character else lineLength d m) = 0) (state : σ) :
    scanLines d visit p n state = pure .origin := by
  induction n with
  | zero => rfl
  | succ n ih =>
      have here : d.lines[n]? = some d.lines[n] := List.getElem?_eq_getElem inside
      rw [scanLines, unseen n (Nat.lt_succ_self n), get_of_getElem? here, pure_bind]
      exact ih (Nat.le_of_succ_le inside) fun m lt => unseen m (Nat.lt_succ_of_lt lt)

/-- A scan from the start of a line finds nothing if all lines above count as empty. -/
theorem scanBackward_unseen (inside : (clamp d p).line < d.lines.length)
    (column : (clamp d p).character = 0)
    (above : ∀ n < (clamp d p).line, lineLength d n = 0) (state : σ) :
    scanBackward d visit state p = pure .origin := by
  refine scanLines_unseen inside (fun n lt => ?_) state
  split
  next => exact column
  next other => exact above n (Nat.lt_of_le_of_ne (Nat.le_of_lt_succ lt) other)

end Unseen

variable {σ : Type} (visit : σ → Char → Run (Option σ)) (state : σ) {n : Nat}

theorem lineCount_longLine : lineCount (.ofText (Text.longLine n)) = 2 := by
  rw [lineCount, Text.lines_longLine]
  rfl

/-- A line whose length is cut off to nothing is not scanned from the line below. -/
theorem scanBackward_longLine (cut : truncate n = 0) :
    scanBackward (.ofText (Text.longLine n)) visit state ⟨1, 0⟩ = pure .origin := by
  have lines := Text.lines_longLine n
  have place : clamp (.ofText (Text.longLine n)) ⟨1, 0⟩ = ⟨1, 0⟩ :=
    clamp_lineStart (lineCount_longLine.symm ▸ Nat.one_lt_two)
  apply scanBackward_unseen
  · rw [place, lines]
    exact Nat.one_lt_two
  · rw [place]
  · rw [place]
    intro m first
    obtain rfl := Nat.lt_one_iff.1 first
    unfold lineLength
    rw [lines, List.getElem?_cons_zero]
    show truncate (List.replicate n 'a').length = 0
    rw [List.length_replicate, cut]

/-- If only the first line is left of the number of lines, every position below counts as its
end. -/
theorem clamp_manyLines (cut : truncate (n + 3) = 1) {line : Nat} (below : 0 < line) :
    clamp (.ofText (Text.manyLines n)) ⟨line, 0⟩ = .origin := by
  have lines := Text.lines_manyLines n
  have count : lineCount (.ofText (Text.manyLines n)) = 1 := by
    unfold lineCount
    rw [lines]
    simp only [List.length_cons, List.length_append, List.length_replicate]
    exact cut
  unfold clamp
  rw [count]
  dsimp only
  rw [if_pos below]
  unfold lineLength
  rw [lines]
  rfl

theorem scanBackward_manyLines (cut : truncate (n + 3) = 1) {line : Nat} (below : 0 < line) :
    scanBackward (.ofText (Text.manyLines n)) visit state ⟨line, 0⟩ = pure .origin := by
  have place := clamp_manyLines cut below
  apply scanBackward_unseen
  · rw [place, Text.lines_manyLines]
    exact Nat.succ_pos _
  · rw [place]
    rfl
  · rw [place]
    intro m first
    exact absurd first (Nat.not_lt_zero m)

/-- A word goes on to the end of its line, but the numbers of its range are cut off. -/
theorem wordAt_longLine (cut : truncate n = 0) (size : n < 2 ^ 64) (positive : 0 < n) :
    wordAt (.ofText (Text.longLine n)) ⟨0, 0⟩ =
      pure (some (String.ofList (List.replicate n 'a'), ⟨.origin, .origin⟩)) := by
  have place : clamp (.ofText (Text.longLine n)) ⟨0, 0⟩ = ⟨0, 0⟩ :=
    clamp_lineStart (lineCount_longLine.symm ▸ Nat.two_pos)
  have line : (Document.ofText (Text.longLine n)).lines[0]? = some (List.replicate n 'a') := by
    rw [Text.lines_longLine]
    rfl
  have isWord : ∀ ch ∈ List.replicate n 'a', isWordChar ch = true := by
    intro ch member
    rw [List.eq_of_mem_replicate member]
    decide
  have start : runStart (List.replicate n 'a') 0 = pure 0 := rfl
  have stop : runStop ([] ++ List.replicate n 'a' ++ []) [].length = _ :=
    runStop_part [] isWord (fun ch first => absurd first (Option.not_mem_none ch))
      (by simpa using size)
  have word := slice_part [] (List.replicate n 'a') []
  simp only [List.nil_append, List.append_nil, List.length_nil, Nat.zero_add,
    List.length_replicate] at stop word
  unfold wordAt
  rw [place]
  dsimp only
  rw [line]
  dsimp only
  rw [start, pure_bind, stop, pure_bind, if_neg (Nat.ne_of_lt positive), word, pure_bind, cut]
  rfl

/-- No word is found where every line but an empty one is left out. -/
theorem wordAt_manyLines (cut : truncate (n + 3) = 1) :
    wordAt (.ofText (Text.manyLines n)) ⟨1, 0⟩ = pure none := by
  have line : (Document.ofText (Text.manyLines n)).lines[Position.origin.line]? = some [] := by
    rw [Text.lines_manyLines]
    rfl
  have start : runStart [] Position.origin.character = pure 0 := rfl
  have stop : runStop [] Position.origin.character = pure 0 := by
    rw [runStop]
    rfl
  unfold wordAt
  rw [clamp_manyLines cut Nat.one_pos]
  dsimp only
  rw [line]
  dsimp only
  rw [start, pure_bind, stop, pure_bind, if_pos rfl]

/-! ### A depth that overflows -/

/-- A line of closing braces adds its length to the depth, or the depth overflows. -/
theorem scanLine_closing {line k depth : Nat} (inside : k ≤ n) (counted : depth < 2 ^ 32) :
    scanLine (fun depth ch =>
        if depth = 0 && ch == '{' then pure none else some <$> passBrace depth ch)
      (List.replicate n '}') line k depth =
      if depth + k < 2 ^ 32 then pure (.inr (depth + k)) else throw .overflow := by
  induction k generalizing depth with
  | zero =>
      rw [Nat.add_zero, if_pos counted]
      rfl
  | succ k ih =>
      have here : (List.replicate n '}')[k]? = some '}' :=
        List.getElem?_replicate_of_lt inside
      have opening : ('}' == '{') = false := by decide
      have step : passBrace depth '}' = add (2 ^ 32) depth 1 := rfl
      rw [scanLine, sub_succ, pure_bind, get_of_getElem? here, pure_bind, opening, Bool.and_false,
        if_neg Bool.false_ne_true, step, add]
      split
      next deeper =>
        show scanLine _ _ line k (depth + 1) = _
        rw [ih (Nat.le_of_succ_le inside) deeper, Nat.add_right_comm, Nat.add_assoc]
      next overflows =>
        rw [if_neg (by omega)]
        rfl

theorem fits_closedTwice (size : n < 2 ^ 32) : (Document.ofText (Text.closedTwice n)).Fits := by
  rw [Document.fits_iff, Document.lineCount, Text.lines_closedTwice]
  refine ⟨?_, ?_⟩
  · show 4 < 2 ^ 32
    decide
  · simpa using size

/-- The closing braces of two lines, each of which can be numbered, overflow the depth. -/
theorem findOutsideBraces_closedTwice (size : n < 2 ^ 32) (many : 2 ^ 32 ≤ n + n) :
    findOutsideBraces (.ofText (Text.closedTwice n)) (· == '{') ⟨2, n⟩ = throw .overflow := by
  have lines := Text.lines_closedTwice n
  have fits := fits_closedTwice size
  have place : clamp (.ofText (Text.closedTwice n)) ⟨2, n⟩ = ⟨2, n⟩ :=
    (clamp_eq fits _).trans Document.clamp_closedTwice
  have length : lineLength (.ofText (Text.closedTwice n)) 1 = n := by
    rw [lineLength_eq fits, Document.lineLength, Document.line, lines]
    exact List.length_replicate
  have last : (Document.ofText (Text.closedTwice n)).lines[2]? = some (List.replicate n '}') := by
    rw [lines]
    rfl
  have first : (Document.ofText (Text.closedTwice n)).lines[1]? = some (List.replicate n '}') := by
    rw [lines]
    rfl
  have upper : scanLine _ _ 1 n n = _ := scanLine_closing le_rfl size
  have lower : scanLine _ _ 2 n 0 = _ := scanLine_closing le_rfl (Nat.two_pow_pos 32)
  rw [Nat.zero_add, if_pos size] at lower
  rw [if_neg (Nat.not_lt.2 many)] at upper
  rw [findOutsideBraces, scanBackward, place]
  show scanLines _ _ ⟨2, n⟩ 3 0 = _
  rw [scanLines, if_pos rfl, get_of_getElem? last, pure_bind, lower, pure_bind]
  show scanLines _ _ ⟨2, n⟩ 2 n = _
  rw [scanLines, if_neg (by decide : 1 ≠ 2), length, get_of_getElem? first,
    pure_bind, upper]
  rfl

end Checked

end QmlAssist
