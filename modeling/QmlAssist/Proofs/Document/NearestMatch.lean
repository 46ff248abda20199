import Mathlib.Order.Bounds.Basic
import QmlAssist.Proofs.Document.Positions
import QmlAssist.Proofs.Document.ReadingOrder

/-!
# The nearest character of a kind

A search of a cursor goes back over one line after the other, from the column of the cursor on
its own line and from the ends of the lines above.  This module replaces the lines by one
sequence, the characters of the document in reading order, and says what is found in its terms:
the last character of the kind that stands at or before the position.

## Main Definitions

* `Document.IsReading` — a sequence lists the characters of a document in reading order.
* `Document.placesUpTo` — the places in reading order of the characters of a kind.
* `Document.nearest?` — the last character of a kind in reading order before a position.
* `Cursor.followed?` — the character that a cursor follows, with its position.

## Main Statements

* `Document.isReading_iff` — there is exactly one such sequence.
* `Document.getElem?_placedBefore_iff` — what lies before a position is a part of it.
* `Cursor.backward_induction` — going back from a cursor to the start of the document.
* `Cursor.find?_bind_followed?` — a search of a cursor is a search of the sequence from its end.
* `Cursor.nearest_in_reading_order` — which characters and positions are found.

## Design Notes

What a cursor finds is reported as a position, and nothing found as the origin.  The sequence has
no place for the origin, since the positions in it follow a character.  So the report tells the two
apart although it has no room for the difference.
-/

namespace QmlAssist

namespace Document

/-! ### Reading a document -/

/-- A sequence lists a document in reading order: it has each position of the document behind the
start of a line, with the character that this position follows, and the positions ascend. -/
structure IsReading (d : Document) (listing : List (Char × Position)) : Prop where
  ascending : listing.Pairwise fun x y => x.2 < y.2
  mem_iff : ∀ ch q, (ch, q) ∈ listing ↔
    q.line < d.lineCount ∧ 0 < q.character ∧ (d.line q.line)[q.character - 1]? = some ch

theorem mem_placedLine_iff {n : Nat} {chars : List Char} {ch : Char} {q : Position} :
    (ch, q) ∈ placedLine n chars ↔
      q.line = n ∧ 0 < q.character ∧ chars[q.character - 1]? = some ch := by
  obtain ⟨m, column⟩ := q
  unfold placedLine
  rw [List.mem_map]
  constructor
  · rintro ⟨⟨ch', k⟩, member, same⟩
    obtain ⟨rfl, place⟩ := Prod.mk.inj same
    obtain ⟨rfl, rfl⟩ := Position.mk.inj place
    exact ⟨rfl, Nat.succ_pos k, List.mem_zipIdx_iff_getElem?.1 member⟩
  · rintro ⟨rfl, positive, here⟩
    refine ⟨(ch, column - 1), List.mem_zipIdx_iff_getElem?.2 here, ?_⟩
    show (ch, Position.mk m (column - 1 + 1)) = (ch, Position.mk m column)
    rw [Nat.sub_add_cancel positive]

theorem mem_placed_iff {lines : List (List Char)} {ch : Char} {q : Position} :
    (ch, q) ∈ placed lines ↔
      ∃ chars, lines[q.line]? = some chars ∧ 0 < q.character ∧
        chars[q.character - 1]? = some ch := by
  unfold placed
  rw [List.mem_flatMap]
  constructor
  · rintro ⟨⟨chars, n⟩, member, inLine⟩
    obtain ⟨rfl, follows⟩ := mem_placedLine_iff.1 inLine
    exact ⟨chars, List.mem_zipIdx_iff_getElem?.1 member, follows⟩
  · rintro ⟨chars, here, follows⟩
    exact ⟨(chars, q.line), List.mem_zipIdx_iff_getElem?.2 here,
      mem_placedLine_iff.2 ⟨rfl, follows⟩⟩

theorem line_lt_of_mem_placed {lines : List (List Char)} {x : Char × Position}
    (member : x ∈ placed lines) : x.2.line < lines.length := by
  obtain ⟨line, here, -⟩ := mem_placed_iff.1 member
  exact (List.getElem?_eq_some_iff.1 here).1

theorem pairwise_placedLine (n : Nat) (line : List Char) :
    (placedLine n line).Pairwise fun x y => x.2 < y.2 := by
  induction line using List.reverseRecOn with
  | nil => exact List.Pairwise.nil
  | append_singleton line ch ih =>
      rw [placedLine_concat, List.pairwise_append]
      refine ⟨ih, List.pairwise_singleton _ _, ?_⟩
      rintro ⟨ch', q⟩ earlier y last
      obtain rfl := List.mem_singleton.1 last
      obtain ⟨sameLine, -, here⟩ := mem_placedLine_iff.1 earlier
      have column := (List.getElem?_eq_some_iff.1 here).1
      refine Position.lt_iff.2 (Or.inr ⟨sameLine, ?_⟩)
      show q.character < line.length + 1
      omega

/-- The positions of characters in reading order ascend. -/
theorem pairwise_placed (lines : List (List Char)) :
    (placed lines).Pairwise fun x y => x.2 < y.2 := by
  induction lines using List.reverseRecOn with
  | nil => exact List.Pairwise.nil
  | append_singleton lines line ih =>
      rw [placed_concat, List.pairwise_append]
      refine ⟨ih, pairwise_placedLine _ _, ?_⟩
      rintro x above ⟨ch, q⟩ inLine
      obtain ⟨number, -⟩ := mem_placedLine_iff.1 inLine
      have bound := line_lt_of_mem_placed above
      exact Position.lt_iff.2 (Or.inl (number ▸ bound))

theorem IsReading.nodup {d : Document} {listing : List (Char × Position)}
    (reading : d.IsReading listing) : listing.Nodup := by
  refine reading.ascending.imp ?_
  rintro x y earlier rfl
  exact lt_irrefl _ earlier

theorem isReading_placed (d : Document) : d.IsReading (placed d.lines) := by
  refine ⟨pairwise_placed d.lines, ?_⟩
  intro ch q
  rw [mem_placed_iff]
  constructor
  · rintro ⟨line, here, follows⟩
    have inside : q.line < d.lineCount := (List.getElem?_eq_some_iff.1 here).1
    rw [getElem?_lines inside, Option.some.injEq] at here
    rw [here]
    exact ⟨inside, follows⟩
  · rintro ⟨inside, follows⟩
    exact ⟨d.line q.line, getElem?_lines inside, follows⟩

/-- A document can be read in one way only. -/
theorem isReading_iff {d : Document} {listing : List (Char × Position)} :
    d.IsReading listing ↔ listing = placed d.lines := by
  constructor
  · intro reading
    have placed := d.isReading_placed
    have same : listing.Perm (Document.placed d.lines) := by
      rw [List.perm_ext_iff_of_nodup reading.nodup placed.nodup]
      rintro ⟨ch, q⟩
      rw [reading.mem_iff, placed.mem_iff]
    refine same.eq_of_pairwise ?_ reading.ascending placed.ascending
    intro x y _ _ before after
    exact absurd before (lt_asymm after)
  · rintro rfl
    exact d.isReading_placed

/-! ### The part before a position -/

theorem placedBefore_isPrefix (d : Document) (p : Position) :
    d.placedBefore p <+: placed d.lines := by
  obtain ⟨below, lines⟩ := Cursor.isIn_cursor d p
  rw [← Cursor.placed_cursor, lines]
  unfold Cursor.placed
  exact placed_isPrefix _ below (List.prefix_append _ _)

theorem mem_placedBefore_iff {d : Document} {p q : Position} {ch : Char} :
    (ch, q) ∈ d.placedBefore p ↔ (ch, q) ∈ placed d.lines ∧ q ≤ d.clamp p := by
  have inside : (d.clamp p).line < d.lines.length := d.line_clamp_lt p
  have count : (d.lines.take (d.clamp p).line).length = (d.clamp p).line := by
    rw [List.length_take]
    exact Nat.min_eq_left (Nat.le_of_lt inside)
  rw [placedBefore, placed_concat, List.mem_append, count, mem_placed_iff, mem_placedLine_iff,
    mem_placed_iff, Position.le_iff]
  constructor
  · rintro (⟨line, here, follows⟩ | ⟨number, positive, here⟩)
    · rw [List.getElem?_take] at here
      split at here
      next above => exact ⟨⟨line, here, follows⟩, Or.inl above⟩
      next => cases here
    · rw [List.getElem?_take] at here
      split at here
      next column =>
        rw [← number] at here
        exact ⟨⟨_, getElem?_lines (number ▸ inside), positive, here⟩, Or.inr ⟨number, by omega⟩⟩
      next => cases here
  · rintro ⟨⟨line, here, positive, follows⟩, above | ⟨number, column⟩⟩
    · refine Or.inl ⟨line, ?_, positive, follows⟩
      rwa [List.getElem?_take, if_pos above]
    · rw [number, getElem?_lines inside, Option.some.injEq] at here
      refine Or.inr ⟨number, positive, ?_⟩
      rwa [List.getElem?_take, if_pos (by omega), here]

/-- What lies before a position is the part of the sequence up to that position. -/
theorem getElem?_placedBefore_iff {d : Document} {p q : Position} {ch : Char} {k : Nat} :
    (d.placedBefore p)[k]? = some (ch, q) ↔
      (placed d.lines)[k]? = some (ch, q) ∧ q ≤ d.clamp p := by
  obtain ⟨rest, whole⟩ := d.placedBefore_isPrefix p
  have inWhole : ∀ {j : Nat}, (d.placedBefore p)[j]? = some (ch, q) →
      (placed d.lines)[j]? = some (ch, q) := by
    intro j here
    rw [← whole, List.getElem?_append_left (List.getElem?_eq_some_iff.1 here).1]
    exact here
  constructor
  · intro here
    exact ⟨inWhole here, (mem_placedBefore_iff.1 (List.mem_of_getElem? here)).2⟩
  · rintro ⟨here, le⟩
    -- the pair stands at some place of the part, and it stands at one place only
    have member := mem_placedBefore_iff.2 ⟨List.mem_of_getElem? here, le⟩
    obtain ⟨j, there⟩ := List.getElem?_of_mem member
    have bound := (List.getElem?_eq_some_iff.1 (inWhole there)).1
    have same := (inWhole there).trans here.symm
    rw [List.getElem?_inj bound d.isReading_placed.nodup] at same
    rwa [← same]

/-- The places in reading order, up to a position, at which a character of a kind stands. -/
def placesUpTo (d : Document) (stop : Position) (pattern : Char → Bool) : Set Nat :=
  { k | ∃ ch q, (placed d.lines)[k]? = some (ch, q) ∧ q ≤ stop ∧ pattern ch = true }

theorem placesUpTo_clamp (d : Document) (p : Position) (pattern : Char → Bool) :
    d.placesUpTo (d.clamp p) pattern =
      { k | ∃ x, (d.placedBefore p)[k]? = some x ∧ pattern x.1 = true } := by
  ext k
  constructor
  · rintro ⟨ch, q, here, le, kind⟩
    exact ⟨(ch, q), getElem?_placedBefore_iff.2 ⟨here, le⟩, kind⟩
  · rintro ⟨⟨ch, q⟩, here, kind⟩
    obtain ⟨inWhole, le⟩ := getElem?_placedBefore_iff.1 here
    exact ⟨ch, q, inWhole, le, kind⟩

end Document

namespace Text

/-- A search from the end of a sequence comes to an item of its kind behind which there is no
other one. -/
theorem exists_isGreatest_of_find?_reverse {α : Type} {kind : α → Bool} {items : List α} {item : α}
    (found : items.reverse.find? kind = some item) :
    ∃ k : Nat, IsGreatest { k : Nat | ∃ x, items[k]? = some x ∧ kind x = true } k ∧
      items[k]? = some item := by
  obtain ⟨isKind, near, rest, split, others⟩ := List.find?_eq_some_iff_append.1 found
  have whole : items = (rest.reverse ++ [item]) ++ near.reverse := by
    rw [← List.reverse_reverse items, split]
    simp
  have size : (rest.reverse ++ [item]).length = rest.length + 1 := by simp
  have here : items[rest.length]? = some item := by
    rw [whole, List.getElem?_append_left (by omega), ← List.length_reverse,
      List.getElem?_concat_length]
  refine ⟨rest.length, ⟨⟨item, here, isKind⟩, ?_⟩, here⟩
  rintro k ⟨x, there, isKind'⟩
  by_contra later
  -- behind the item there are only items that the search has passed
  rw [whole, List.getElem?_append_right (by omega)] at there
  have passed := others x (List.mem_reverse.1 (List.mem_of_getElem? there))
  rw [isKind'] at passed
  cases passed

theorem find?_reverse_eq_some_iff {α : Type} {kind : α → Bool} {items : List α} {item : α} :
    items.reverse.find? kind = some item ↔
      ∃ k : Nat, IsGreatest { k : Nat | ∃ x, items[k]? = some x ∧ kind x = true } k ∧
        items[k]? = some item := by
  refine ⟨exists_isGreatest_of_find?_reverse, ?_⟩
  rintro ⟨k, greatest, here⟩
  obtain ⟨x, member, isKind⟩ := greatest.1
  cases found : items.reverse.find? kind with
  | none =>
      have inside := List.mem_reverse.2 (List.mem_of_getElem? member)
      exact absurd isKind (List.find?_eq_none.1 found x inside)
  | some last =>
      obtain ⟨j, greatest', there⟩ := exists_isGreatest_of_find?_reverse found
      rwa [greatest.unique greatest', there] at here

end Text

namespace Cursor

open Document

variable {pattern : Char → Bool}

/-! ### Going back from a cursor -/

/-- What holds at the start of a document holds at every cursor, if it is handed on from the end
of a line to the start of the next one and over each character. -/
@[elab_as_elim]
theorem backward_induction {motive : Cursor → Prop}
    (start : ∀ after, motive ⟨[], [], after⟩)
    (lineStart : ∀ line above after, motive ⟨above, line.reverse, []⟩ →
      motive ⟨line :: above, [], after⟩)
    (character : ∀ above ch before after, motive ⟨above, before, ch :: after⟩ →
      motive ⟨above, ch :: before, after⟩)
    (c : Cursor) : motive c := by
  obtain ⟨above, before, after⟩ := c
  induction above generalizing before after with
  | nil =>
      induction before generalizing after with
      | nil => exact start after
      | cons ch before ih => exact character [] ch before after (ih (ch :: after))
  | cons line above ih =>
      induction before generalizing after with
      | nil => exact lineStart line above after (ih line.reverse [])
      | cons ch before ih' => exact character (line :: above) ch before after (ih' (ch :: after))

theorem find?_lineStart (line : List Char) (above : List (List Char)) (after : List Char) :
    find? pattern ⟨line :: above, [], after⟩ = find? pattern ⟨above, line.reverse, []⟩ :=
  rfl

theorem find?_character (above : List (List Char)) (ch : Char) (before after : List Char) :
    find? pattern ⟨above, ch :: before, after⟩ =
      if pattern ch then some ⟨above, ch :: before, after⟩
      else find? pattern ⟨above, before, ch :: after⟩ := by
  unfold find? search?
  rw [searchLine]
  by_cases kind : pattern ch = true
  · rw [if_pos kind, if_pos kind]
  · rw [if_neg kind, if_neg kind]

theorem placed_lineStart (line : List Char) (above : List (List Char)) (after : List Char) :
    placed ⟨line :: above, [], after⟩ = placed ⟨above, line.reverse, []⟩ := by
  unfold placed
  rw [List.reverse_nil, placed_concat, List.reverse_cons, List.reverse_reverse]
  exact List.append_nil _

theorem placed_character (above : List (List Char)) (ch : Char) (before after : List Char) :
    placed ⟨above, ch :: before, after⟩ =
      placed ⟨above, before, ch :: after⟩ ++ [(ch, ⟨above.length, before.length + 1⟩)] := by
  unfold placed
  rw [List.reverse_cons, placed_concat, placed_concat, placedLine_concat, List.append_assoc,
    List.length_reverse, List.length_reverse]

/-! ### What a search finds -/

/-- The character that a cursor follows on its line, with the position of the cursor. -/
def followed? (c : Cursor) : Option (Char × Position) :=
  c.charBefore?.map (·, c.position)

variable (pattern) in
/-- A search of a cursor is a search of the characters in reading order from their end. -/
theorem find?_bind_followed? (c : Cursor) :
    (c.find? pattern).bind followed? = c.placed.reverse.find? (pattern ·.1) := by
  induction c using backward_induction with
  | start after => rfl
  | lineStart line above after ih =>
      -- a line end has no place in reading order, and an empty line has none either
      rw [find?_lineStart, placed_lineStart]
      exact ih
  | character above ch before after ih =>
      rw [find?_character, placed_character, List.reverse_concat, List.find?_cons]
      by_cases kind : pattern ch = true
      · rw [if_pos kind, kind]
        rfl
      · rw [if_neg kind, Bool.eq_false_of_not_eq_true kind]
        exact ih

theorem exists_followed?_of_find? {c found : Cursor} (search : c.find? pattern = some found) :
    ∃ ch, found.followed? = some (ch, found.position) := by
  obtain ⟨ch, line, before⟩ := List.exists_cons_of_ne_nil (size_search?_le _ _ _ _ search).1
  refine ⟨ch, ?_⟩
  rw [followed?, charBefore?, before, List.head?_cons, Option.map_some]

/-- The position of what is found is the position in reading order. -/
theorem map_position_find? (c : Cursor) :
    (c.find? pattern).map position = (c.placed.reverse.find? (pattern ·.1)).map Prod.snd := by
  rw [← find?_bind_followed?]
  cases search : c.find? pattern with
  | none => rfl
  | some found =>
      obtain ⟨ch, follows⟩ := exists_followed?_of_find? search
      rw [Option.bind_some, follows, Option.map_some, Option.map_some]

/-- The nearest character that is not blank is the last one in reading order. -/
theorem nonBlankBefore?_eq (c : Cursor) :
    c.nonBlankBefore? = (c.placed.reverse.find? (!isBlank ·.1)).map fun x =>
      (x.1, ⟨x.2.line, x.2.character - 1⟩) := by
  rw [← find?_bind_followed? (!isBlank ·), nonBlankBefore?]
  cases search : c.find? (!isBlank ·) with
  | none => rfl
  | some found =>
      show (found.charBefore?.bind fun ch => some (ch, found.stepBack.position)) = _
      rw [position_stepBack, Option.bind_some, followed?]
      cases found.charBefore? with
      | none => rfl
      | some ch => rfl

end Cursor

namespace Document

/-! ### The nearest character before a position -/

/-- The last character of a kind before a position, with the position after it. -/
def nearest? (d : Document) (pattern : Char → Bool) (p : Position) : Option (Char × Position) :=
  (d.placedBefore p).reverse.find? (pattern ·.1)

variable {d : Document} {pattern : Char → Bool} {p q : Position} {ch : Char}

theorem nearest?_eq_some_iff :
    d.nearest? pattern p = some (ch, q) ↔
      ∃ k : Nat, IsGreatest (d.placesUpTo (d.clamp p) pattern) k ∧
        (placed d.lines)[k]? = some (ch, q) := by
  unfold nearest?
  rw [Text.find?_reverse_eq_some_iff, ← placesUpTo_clamp]
  constructor
  · rintro ⟨k, greatest, here⟩
    exact ⟨k, greatest, (getElem?_placedBefore_iff.1 here).1⟩
  · rintro ⟨k, greatest, here⟩
    obtain ⟨ch', q', here', le, -⟩ := greatest.1
    obtain ⟨rfl, rfl⟩ := Prod.mk.inj (Option.some.inj (here'.symm.trans here))
    exact ⟨k, greatest, getElem?_placedBefore_iff.2 ⟨here, le⟩⟩

theorem nearest?_eq_none_iff :
    d.nearest? pattern p = none ↔
      ∀ ch q, (ch, q) ∈ placed d.lines → q ≤ d.clamp p → pattern ch = false := by
  unfold nearest?
  rw [List.find?_eq_none]
  constructor
  · intro others ch q member le
    have before := List.mem_reverse.2 (mem_placedBefore_iff.2 ⟨member, le⟩)
    exact Bool.eq_false_of_not_eq_true (others (ch, q) before)
  · rintro others ⟨ch, q⟩ before
    obtain ⟨member, le⟩ := mem_placedBefore_iff.1 (List.mem_reverse.1 before)
    rw [others ch q member le]
    exact Bool.false_ne_true

theorem placesUpTo_eq_empty_iff :
    d.placesUpTo (d.clamp p) pattern = ∅ ↔ d.nearest? pattern p = none := by
  rw [nearest?_eq_none_iff, Set.eq_empty_iff_forall_notMem]
  constructor
  · intro empty ch q member le
    obtain ⟨k, here⟩ := List.getElem?_of_mem member
    exact Bool.eq_false_of_not_eq_true fun kind => empty k ⟨ch, q, here, le, kind⟩
  · rintro others k ⟨ch, q, here, le, kind⟩
    rw [others ch q (List.mem_of_getElem? here) le] at kind
    cases kind

theorem character_pos_of_nearest? (found : d.nearest? pattern p = some (ch, q)) :
    0 < q.character := by
  obtain ⟨k, -, here⟩ := nearest?_eq_some_iff.1 found
  have member := (d.isReading_placed.mem_iff ch q).1 (List.mem_of_getElem? here)
  exact member.2.1

end Document

namespace Cursor

open Document

section Nearest

variable {d : Document} {p q : Position} {ch : Char}

theorem map_position_find?_cursor (pattern : Char → Bool) :
    ((d.cursor p).find? pattern).map position = (d.nearest? pattern p).map Prod.snd := by
  rw [map_position_find?, placed_cursor]
  rfl

theorem find?_cursor_eq_none_iff {pattern : Char → Bool} :
    (d.cursor p).find? pattern = none ↔ d.nearest? pattern p = none := by
  rw [← Option.map_eq_none_iff, map_position_find?_cursor, Option.map_eq_none_iff]

theorem nonBlankBefore?_cursor :
    (d.cursor p).nonBlankBefore? =
      (d.nearest? (!isBlank ·) p).map fun x => (x.1, ⟨x.2.line, x.2.character - 1⟩) := by
  rw [nonBlankBefore?_eq, placed_cursor]
  rfl

theorem nonBlankBefore?_cursor_eq_some_iff :
    (d.cursor p).nonBlankBefore? = some (ch, q) ↔
      d.nearest? (!isBlank ·) p = some (ch, ⟨q.line, q.character + 1⟩) := by
  rw [nonBlankBefore?_cursor, Option.map_eq_some_iff]
  constructor
  · rintro ⟨⟨ch', q'⟩, found, same⟩
    have positive := character_pos_of_nearest? found
    obtain ⟨rfl, rfl⟩ := Prod.mk.inj same
    rw [found, Nat.sub_add_cancel positive]
  · intro found
    exact ⟨_, found, rfl⟩

theorem nonBlankBefore?_cursor_eq_none_iff :
    (d.cursor p).nonBlankBefore? = none ↔
      ∀ ch q, (ch, q) ∈ Document.placed d.lines → q ≤ d.clamp p → isBlank ch = true := by
  rw [nonBlankBefore?_cursor, Option.map_eq_none_iff, nearest?_eq_none_iff]
  simp only [Bool.not_eq_false']

end Nearest

/-- **The nearest character of a kind is the last one in reading order.**  A document is read in
exactly one way.  A search reports the position at the greatest place, up to the clamped position,
at which a character of its kind stands, and the origin exactly if there is none; what is found is
never at the origin.  The character before a position that is not blank is the last such character
in reading order, given with the position in front of it, and it is missing exactly if all
characters up to there are blank. -/
theorem nearest_in_reading_order (text : String) (p : Position) (pattern : Char → Bool) :
    let d := Document.ofText text
    let reading := Document.placed d.lines
    let places := d.placesUpTo (d.clamp p)
    let report := Position.ofSearch (((d.cursor p).find? pattern).map position)
    (∀ listing, d.IsReading listing ↔ listing = reading) ∧
      (report = .origin ↔ places pattern = ∅) ∧
      (places pattern ≠ ∅ →
        ∃ k ch, IsGreatest (places pattern) k ∧ reading[k]? = some (ch, report)) ∧
      (∀ found, (d.cursor p).find? pattern = some found → found.position ≠ .origin) ∧
      ((d.cursor p).nonBlankBefore? = none ↔
        ∀ ch q, (ch, q) ∈ reading → q ≤ d.clamp p → isBlank ch = true) ∧
      ∀ ch q, (d.cursor p).nonBlankBefore? = some (ch, q) ↔
        ∃ k, IsGreatest (places (!isBlank ·)) k ∧
          reading[k]? = some (ch, ⟨q.line, q.character + 1⟩) := by
  intro d reading places report
  have nothing : report = .origin ↔ d.nearest? pattern p = none :=
    ofSearch_eq_origin_iff.trans find?_cursor_eq_none_iff
  refine ⟨fun _ => isReading_iff, nothing.trans placesUpTo_eq_empty_iff.symm, ?_, ?_,
    nonBlankBefore?_cursor_eq_none_iff, ?_⟩
  · intro occupied
    obtain ⟨⟨ch, q⟩, nearest⟩ := Option.ne_none_iff_exists'.1 (mt placesUpTo_eq_empty_iff.2 occupied)
    obtain ⟨k, greatest, here⟩ := nearest?_eq_some_iff.1 nearest
    have reported : report = q := by
      show Position.ofSearch _ = q
      rw [map_position_find?_cursor, nearest]
      rfl
    exact ⟨k, ch, greatest, reported ▸ here⟩
  · intro found search atOrigin
    have reported : report = found.position := by
      show Position.ofSearch _ = found.position
      rw [search]
      rfl
    have missed := ofSearch_eq_origin_iff.1 (reported.trans atOrigin)
    cases missed.symm.trans search
  · intro ch q
    rw [nonBlankBefore?_cursor_eq_some_iff, nearest?_eq_some_iff]

end Cursor

end QmlAssist
