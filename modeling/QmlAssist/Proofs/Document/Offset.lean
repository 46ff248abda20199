import QmlAssist.Proofs.Document.Lines

/-!
# Byte offsets and columns

The place of a character is given in two ways.  A byte offset is turned into a position by
counting in the text in front of it, and a document keeps the character on some line at
some column.  This module says where the document keeps it, what is counted, and when the
two are the same.

## Main Definitions

* `Text.lastLine` — the unfinished line at the end of a text.

## Main Statements

* `Document.exists_lines_of_split` — where a document keeps a character of its text.
* `Position.ofOffset_append` — the position at the offset of that character.
* `Position.ofOffset_eq_iff` — when this is the place where it is kept.

## Design Notes

Both sides count the line feeds in front of the character.  They differ in the carriage
returns: a document drops one at the end of a line only, while the position leaves out all
that stand in front of the character on its line.
-/

namespace QmlAssist

namespace Text

/-- The unfinished line at the end of a text, which is all of it behind the last line
feed. -/
def lastLine (text : List Char) : List Char :=
  (text.reverse.takeWhile (· != '\n')).reverse

theorem lastLine_unlines {last : List Char} (feedless : '\n' ∉ last) (lines : List (List Char)) :
    lastLine (unlines lines ++ last) = last := by
  unfold lastLine
  rw [List.reverse_append, takeWhile_unlines feedless, List.reverse_reverse]

theorem not_mem_lastLine (text : List Char) : '\n' ∉ lastLine text := by
  intro member
  have inside := List.mem_takeWhile_imp (List.mem_reverse.1 member)
  simp at inside

theorem lastLine_suffix (text : List Char) : lastLine text <:+ text := by
  have front : text.reverse.takeWhile (· != '\n') <+: text.reverse := List.takeWhile_prefix _
  simpa [lastLine] using List.reverse_suffix.2 front

theorem length_filter_ne_return (line : List Char) :
    (line.filter (· != '\r')).length = line.length - line.count '\r' := by
  have parts : (line.filter (· != '\r')).length + line.count '\r' = line.length := by
    induction line with
    | nil => rfl
    | cons c line ih =>
        by_cases isReturn : c = '\r'
        · subst isReturn
          rw [List.filter_cons_of_neg (by simp), List.count_cons_self, List.length_cons]
          omega
        · rw [List.filter_cons_of_pos (by simpa using isReturn), List.count_cons_of_ne isReturn,
            List.length_cons, List.length_cons]
          omega
  omega

end Text

namespace Document

/-- Only the last character of a line can be dropped. -/
theorem dropReturn_append_cons (line : List Char) {c : Char} (other : c ≠ '\r')
    (rest : List Char) : dropReturn (line ++ c :: rest) = line ++ c :: dropReturn rest := by
  rw [← dropReturn_cons other, dropReturn, dropReturn, List.getLast?_append_of_ne_nil _ (by simp)]
  split
  · rw [List.dropLast_append_of_ne_nil (by simp)]
  · rfl

/-- A document keeps a character behind all lines that are finished in front of it, and
behind what stands in front of it on its own line. -/
theorem exists_lines_of_split {text : String} {front rest : List Char} {c : Char}
    (noReturn : c ≠ '\r') (noFeed : c ≠ '\n') (split : text.toList = front ++ c :: rest) :
    ∃ above further below,
      (ofText text).lines = above ++ (Text.lastLine front ++ c :: further) :: below ∧
        above.length = front.count '\n' := by
  obtain ⟨lines, last, rfl, feedless, feedless'⟩ := Text.exists_unlines front
  obtain ⟨piece, others, pieces⟩ := List.exists_cons_of_ne_nil (Text.pieces_ne_nil '\n' rest)
  refine ⟨lines.map dropReturn, dropReturn piece, others.map dropReturn, ?_, ?_⟩
  · -- the character goes on the line that the text in front of it leaves unfinished
    show (Text.pieces '\n' text.toList).map dropReturn = _
    rw [split, List.append_assoc, Text.pieces_unlines feedless, Text.pieces_append feedless',
      Text.pieces, if_neg noFeed, pieces, List.modifyHead_cons, List.modifyHead_cons,
      List.map_append, List.map_cons, dropReturn_append_cons _ noReturn,
      Text.lastLine_unlines feedless']
  · rw [List.length_map, List.count_append, Text.count_unlines feedless,
      List.count_eq_zero.2 feedless', Nat.add_zero]

/-- A line loses no other character than a carriage return. -/
theorem filter_dropReturn (line : List Char) :
    (dropReturn line).filter (· != '\r') = line.filter (· != '\r') := by
  unfold dropReturn
  split
  next last =>
    obtain ⟨front, rfl⟩ := List.getLast?_eq_some_iff.1 last
    rw [List.dropLast_concat, List.filter_append]
    exact (List.append_nil _).symm
  next => rfl

/-- The position that the front part of a text leads up to lies inside the document. -/
theorem after_inside {text : String} {before rest : List Char}
    (split : text.toList = before.reverse ++ rest) :
    (Position.after before).line < (ofText text).lineCount ∧
      (Position.after before).character ≤
        (ofText text).lineLength (Position.after before).line := by
  obtain ⟨lines, last, front, feedless, feedless'⟩ := Text.exists_unlines before.reverse
  obtain ⟨piece, others, pieces⟩ := List.exists_cons_of_ne_nil (Text.pieces_ne_nil '\n' rest)
  have documentLines : (ofText text).lines =
      lines.map dropReturn ++ dropReturn (last ++ piece) :: others.map dropReturn := by
    show (Text.pieces '\n' text.toList).map dropReturn = _
    rw [split, front, List.append_assoc, Text.pieces_unlines feedless, Text.pieces_append feedless',
      pieces, List.modifyHead_cons, List.map_append, List.map_cons]
  have place : Position.after before = ⟨lines.length, (last.filter (· != '\r')).length⟩ := by
    have unfinished := Text.takeWhile_unlines feedless' lines
    rw [← List.reverse_append, ← front, List.reverse_reverse] at unfinished
    rw [Position.after, unfinished, ← List.count_reverse, front, List.count_append,
      Text.count_unlines feedless, List.count_eq_zero.2 feedless', List.filter_reverse,
      List.length_reverse, Nat.add_zero]
  rw [place]
  have height : (lines.map dropReturn).length = lines.length := List.length_map _
  constructor
  · show lines.length < (ofText text).lines.length
    rw [documentLines, List.length_append, height]
    exact Nat.lt_add_of_pos_right (Nat.succ_pos _)
  · have line_eq : (ofText text).line lines.length = dropReturn (last ++ piece) := by
      rw [line, documentLines, List.getElem?_append_right (Nat.le_of_eq height), height,
        Nat.sub_self]
      rfl
    show (last.filter (· != '\r')).length ≤ ((ofText text).line lines.length).length
    calc (last.filter (· != '\r')).length
      _ ≤ ((last ++ piece).filter (· != '\r')).length := by
          rw [List.filter_append, List.length_append]
          exact Nat.le_add_right _ _
      _ = ((dropReturn (last ++ piece)).filter (· != '\r')).length := by rw [filter_dropReturn]
      _ ≤ (dropReturn (last ++ piece)).length := List.length_filter_le _ _
      _ = ((ofText text).line lines.length).length := by rw [line_eq]

end Document

namespace Position

/-- The bytes at the front of a text hold a part of it. -/
theorem takeBytes_isPrefix (size : Nat) (cs : List Char) : takeBytes size cs <+: cs := by
  induction cs generalizing size with
  | nil => exact List.prefix_rfl
  | cons c cs ih =>
      rw [takeBytes]
      split
      next => exact List.cons_prefix_cons.2 ⟨rfl, ih _⟩
      next => exact List.nil_prefix

/-- The bytes of the front part of a text hold just that part. -/
theorem takeBytes_append (front rest : List Char) :
    takeBytes (String.ofList front).utf8ByteSize (front ++ rest) = front := by
  induction front with
  | nil =>
      cases rest with
      | nil => rfl
      | cons c rest =>
          have wide : ¬c.utf8Size ≤ 0 := Nat.not_le.2 c.utf8Size_pos
          exact if_neg wide
  | cons c front ih =>
      have size : (String.ofList (c :: front)).utf8ByteSize =
          c.utf8Size + (String.ofList front).utf8ByteSize := by
        rw [← List.singleton_append, String.ofList_append, String.utf8ByteSize_append,
          ← String.singleton_eq_ofList, String.utf8ByteSize_singleton]
      rw [size, List.cons_append, takeBytes, if_pos (Nat.le_add_right _ _),
        Nat.add_sub_cancel_left, ih]

/-- The position at the end of the front part of a text: its line feeds are counted, and of
its unfinished line all characters but the carriage returns. -/
theorem ofOffset_append (front back : String) :
    ofOffset (front ++ back) front.utf8ByteSize =
      ⟨front.toList.count '\n',
        (Text.lastLine front.toList).length - (Text.lastLine front.toList).count '\r'⟩ := by
  have taken : takeBytes front.utf8ByteSize (front ++ back).toList = front.toList := by
    have cut := takeBytes_append front.toList back.toList
    rwa [String.ofList_toList, ← String.toList_append] at cut
  rw [ofOffset, taken, after, List.count_reverse, ← Text.length_filter_ne_return, Text.lastLine,
    List.filter_reverse, List.length_reverse]

/-- **When a byte offset leads to the character that starts there.**  A document keeps the
character on the line of its offset, behind all that stands in front of it on that line.
The position at the offset is too far left by the number of carriage returns among these,
so it is the place of the character exactly if there are none; in particular wherever
carriage returns stand in front of line feeds only. -/
theorem ofOffset_eq_iff {c : Char} (noReturn : c ≠ '\r') (noFeed : c ≠ '\n')
    (front back : String) :
    let text := front ++ (String.singleton c ++ back)
    let line := front.toList.count '\n'
    let inLine := Text.lastLine front.toList
    let found := ofOffset text front.utf8ByteSize
    (∃ further, (Document.ofText text).line line = inLine ++ c :: further) ∧
      ((Document.ofText text).cursor ⟨line, inLine.length + 1⟩).charBefore? = some c ∧
      found = ⟨line, inLine.length - inLine.count '\r'⟩ ∧
      (found = ⟨line, inLine.length⟩ ↔ '\r' ∉ inLine) ∧
      (Text.ReturnsEndLines text.toList → found = ⟨line, inLine.length⟩) := by
  intro text line inLine found
  have split : text.toList = front.toList ++ c :: back.toList := by simp [text]
  have counted : found = ⟨line, inLine.length - inLine.count '\r'⟩ := ofOffset_append _ _
  have agrees : found = ⟨line, inLine.length⟩ ↔ '\r' ∉ inLine := by
    have bound : inLine.count '\r' ≤ inLine.length := List.count_le_length
    rw [counted, Position.mk.injEq, ← List.count_eq_zero]
    omega
  obtain ⟨above, further, below, lines, height⟩ :=
    Document.exists_lines_of_split noReturn noFeed split
  refine ⟨⟨further, ?_⟩, ?_, counted, agrees, ?_⟩
  · show (Document.ofText text).lines[line]?.getD [] = _
    rw [lines, List.getElem?_append_right (Nat.le_of_eq height), height, Nat.sub_self]
    rfl
  · have regrouped : (Document.ofText text).lines =
        above ++ ((inLine ++ [c]) ++ further) :: below := by
      rw [lines, List.append_assoc, List.singleton_append]
    have cursor := Document.cursor_of_lines regrouped
    rw [height, List.length_append, List.length_singleton] at cursor
    rw [cursor]
    simp [Cursor.charBefore?]
  · intro returns
    obtain ⟨above', cut⟩ := Text.lastLine_suffix front.toList
    rw [split, ← cut, List.append_assoc] at returns
    refine agrees.2 (returns.of_append.not_mem (Text.not_mem_lastLine _) ?_)
    simpa using noFeed

/-- A character behind wide characters, on a line below one that ends with a carriage return
and a line feed. -/
theorem ofOffset_eq_iff_wide :
    ofOffset ("é\r\nßa" ++ (String.singleton 'x' ++ "\r\n")) 7 = ⟨1, 2⟩ ∧
      ((Document.ofText ("é\r\nßa" ++ (String.singleton 'x' ++ "\r\n"))).cursor
        ⟨1, 3⟩).charBefore? = some 'x' := by
  have place := ofOffset_eq_iff (c := 'x') (by decide) (by decide) "é\r\nßa" "\r\n"
  have inLine : Text.lastLine "é\r\nßa".toList = ['ß', 'a'] := by decide
  rw [inLine] at place
  exact ⟨place.2.2.2.1.2 (by decide), place.2.1⟩

/-- Behind a carriage return inside a line, the position is that of the character before. -/
theorem not_ofOffset_eq :
    let text := "a\r" ++ (String.singleton 'b' ++ "")
    let found := ofOffset text "a\r".utf8ByteSize
    (Document.ofText text).line 0 = ['a', '\r', 'b'] ∧
      ((Document.ofText text).cursor ⟨0, 2 + 1⟩).charBefore? = some 'b' ∧
      found = ⟨0, 1⟩ ∧ found ≠ ⟨0, 2⟩ ∧
      ((Document.ofText text).cursor ⟨found.line, found.character + 1⟩).charBefore? =
        some '\r' := by
  decide +kernel

end Position

end QmlAssist
