import QmlAssist.Proofs.Document.Positions
import QmlAssist.Proofs.Text.Occurrence

/-!
# Whole words of a line

A cursor finds the word that it touches by going left and right from where it stands.  This
module says which stretches of a line can be found in this way: the whole words, which are the
longest stretches of word characters.  A line is thereby divided into whole words and what lies
between them, and all cursors agree on this division.

## Main Definitions

* `Text.SpellsWord` — a stretch of a line consists of word characters.
* `Text.IsWholeWord` — there is no longer stretch around it that does.
* `Cursor.Touches` — how a line divides around a cursor.

## Main Statements

* `Text.isWholeWord_part_iff` — a whole word is what stands between two characters of another kind.
* `Text.IsWholeWord.eq_or_apart` — two whole words are equal, or something lies between them.
* `Cursor.Touches.wordAt?`, `Cursor.Touches.wordBefore` — what a cursor finds.
* `Document.wordAt?_divides_line` — the words that are found are the whole words.
-/

namespace QmlAssist

namespace Text

/-! ### Stretches of a line -/

/-- The characters of a line between two columns are word characters. -/
def SpellsWord (cs : List Char) (start stop : Nat) : Prop :=
  stop ≤ cs.length ∧
    ∀ k, start ≤ k → k < stop → ∃ ch, cs[k]? = some ch ∧ isWordChar ch = true

/-- A longest stretch of word characters of a line, which is not empty. -/
structure IsWholeWord (cs : List Char) (start stop : Nat) : Prop where
  start_lt : start < stop
  spells : SpellsWord cs start stop
  longest : ∀ start' ≤ start, ∀ stop' ≥ stop, SpellsWord cs start' stop' →
    start' = start ∧ stop' = stop

variable {cs : List Char} {start stop start' stop' : Nat}

/-- Stretches that overlap or touch make up one stretch. -/
theorem SpellsWord.join (spells : SpellsWord cs start stop)
    (spells' : SpellsWord cs start' stop') (touch : start' ≤ stop) (touch' : start ≤ stop') :
    SpellsWord cs (min start start') (max stop stop') := by
  refine ⟨Nat.max_le.2 ⟨spells.1, spells'.1⟩, ?_⟩
  intro k after before
  by_cases inside : start ≤ k ∧ k < stop
  · exact spells.2 k inside.1 inside.2
  · exact spells'.2 k (by omega) (by omega)

theorem SpellsWord.single {k : Nat} {ch : Char} (here : cs[k]? = some ch)
    (word : isWordChar ch = true) : SpellsWord cs k (k + 1) := by
  refine ⟨(List.getElem?_eq_some_iff.1 here).1, ?_⟩
  intro k' after before
  obtain rfl : k' = k := by omega
  exact ⟨ch, here, word⟩

namespace IsWholeWord

variable (whole : IsWholeWord cs start stop)

include whole

/-- A stretch that touches a whole word lies in it. -/
theorem of_touches (spells' : SpellsWord cs start' stop') (touch : start' ≤ stop)
    (touch' : start ≤ stop') : start ≤ start' ∧ stop' ≤ stop := by
  have joined := whole.longest _ (Nat.min_le_left start start') _ (Nat.le_max_left stop stop')
    (whole.spells.join spells' touch touch')
  omega

theorem isWordChar_of_getElem?_stop {ch : Char} (here : cs[stop]? = some ch) :
    isWordChar ch = false := by
  by_contra word
  have inside := whole.of_touches (SpellsWord.single here (by simpa using word)) le_rfl
    (Nat.le_succ_of_le (Nat.le_of_lt whole.start_lt))
  omega

theorem isWordChar_of_getElem?_start {k : Nat} {ch : Char} (before : k + 1 = start)
    (here : cs[k]? = some ch) : isWordChar ch = false := by
  have nonempty := whole.start_lt
  by_contra word
  have inside := whole.of_touches (SpellsWord.single here (by simpa using word))
    (by omega) (by omega)
  omega

/-- Two whole words of a line are equal, or a character of another kind lies between them. -/
theorem eq_or_apart (whole' : IsWholeWord cs start' stop') :
    (start = start' ∧ stop = stop') ∨
      ∃ k ch, cs[k]? = some ch ∧ isWordChar ch = false ∧
        ((stop ≤ k ∧ k < start') ∨ (stop' ≤ k ∧ k < start)) := by
  have nonempty := whole.start_lt
  have nonempty' := whole'.start_lt
  have inside := whole.spells.1
  have inside' := whole'.spells.1
  by_cases before : stop < start'
  · have here : cs[stop]? = some cs[stop] := List.getElem?_eq_getElem (by omega)
    exact Or.inr ⟨stop, _, here, whole.isWordChar_of_getElem?_stop here,
      Or.inl ⟨le_rfl, before⟩⟩
  by_cases behind : stop' < start
  · have here : cs[stop']? = some cs[stop'] := List.getElem?_eq_getElem (by omega)
    exact Or.inr ⟨stop', _, here, whole'.isWordChar_of_getElem?_stop here,
      Or.inr ⟨le_rfl, behind⟩⟩
  · -- they touch, so each of them lies in the other
    have one := whole.of_touches whole'.spells (by omega) (by omega)
    have other := whole'.of_touches whole.spells (by omega) (by omega)
    exact Or.inl (by omega)

end IsWholeWord

/-- In a line that is divided, a part spells a word if it consists of word characters. -/
theorem spellsWord_part_iff (front word back : List Char) :
    SpellsWord (front ++ (word ++ back)) front.length (front.length + word.length) ↔
      ∀ c ∈ word, isWordChar c = true := by
  have part : ∀ k, front.length ≤ k → k < front.length + word.length →
      (front ++ (word ++ back))[k]? = word[k - front.length]? := by
    intro k after before
    rw [List.getElem?_append_right after, List.getElem?_append_left (by omega)]
  constructor
  · rintro ⟨-, spells⟩ c member
    obtain ⟨k, bound, rfl⟩ := List.mem_iff_getElem.1 member
    obtain ⟨ch, here, isWord⟩ := spells (front.length + k) (by omega) (by omega)
    rw [part _ (by omega) (by omega), Nat.add_sub_cancel_left, List.getElem?_eq_getElem bound]
      at here
    rwa [Option.some.inj here]
  · intro isWord
    refine ⟨by simp, ?_⟩
    intro k after before
    have bound : k - front.length < word.length := by omega
    refine ⟨_, ?_, isWord _ (List.getElem_mem bound)⟩
    rw [part k after before, List.getElem?_eq_getElem bound]

/-- A whole word is a word that stands between two characters of another kind, or at an end of
the line. -/
theorem isWholeWord_part_iff {front word back : List Char} (nonempty : word ≠ []) :
    IsWholeWord (front ++ (word ++ back)) front.length (front.length + word.length) ↔
      (∀ c ∈ word, isWordChar c = true) ∧ (∀ c ∈ front.getLast?, isWordChar c = false) ∧
        ∀ c ∈ back.head?, isWordChar c = false := by
  have behind : (front ++ (word ++ back))[front.length + word.length]? = back.head? := by
    rw [← List.append_assoc, ← List.length_append, List.getElem?_append_right le_rfl,
      Nat.sub_self, List.head?_eq_getElem?]
  have positive : 0 < word.length := List.length_pos_iff.2 nonempty
  constructor
  · intro whole
    refine ⟨(spellsWord_part_iff front word back).1 whole.spells, ?_, ?_⟩
    · intro c last
      obtain ⟨inner, rfl⟩ := List.getLast?_eq_some_iff.1 last
      refine whole.isWordChar_of_getElem?_start (k := inner.length) (by simp) ?_
      rw [List.append_assoc, List.getElem?_append_right le_rfl, Nat.sub_self]
      rfl
    · intro c first
      exact whole.isWordChar_of_getElem?_stop (behind.trans first)
  · rintro ⟨isWord, frontStops, backStops⟩
    refine ⟨by omega, (spellsWord_part_iff front word back).2 isWord, ?_⟩
    rintro start below stop above ⟨-, spells⟩
    constructor
    · -- otherwise the front would end with a character of the word
      by_contra other
      obtain ⟨ch, here, isWord'⟩ := spells (front.length - 1) (by omega) (by omega)
      rw [List.getElem?_append_left (by omega), ← List.getLast?_eq_getElem?] at here
      rw [frontStops ch here] at isWord'
      cases isWord'
    · by_contra other
      obtain ⟨ch, here, isWord'⟩ := spells (front.length + word.length) (by omega) (by omega)
      rw [backStops ch (behind.symm.trans here)] at isWord'
      cases isWord'

/-- Every whole word divides its line. -/
theorem IsWholeWord.exists_parts (whole : IsWholeWord cs start stop) :
    ∃ front word back, cs = front ++ (word ++ back) ∧ front.length = start ∧
      front.length + word.length = stop ∧ word ≠ [] := by
  have nonempty := whole.start_lt
  have inside := whole.spells.1
  have rest : cs.drop stop = (cs.drop start).drop (stop - start) := by
    rw [List.drop_drop]
    congr 1
    omega
  have length : ((cs.drop start).take (stop - start)).length = stop - start := by
    rw [List.length_take, List.length_drop]
    omega
  have front : (cs.take start).length = start := by
    rw [List.length_take]
    omega
  refine ⟨cs.take start, (cs.drop start).take (stop - start), cs.drop stop, ?_, front, ?_, ?_⟩
  · rw [rest, List.take_append_drop, List.take_append_drop]
  · omega
  · rw [← List.length_pos_iff]
    omega

end Text

namespace Cursor

/-! ### The word that a cursor touches -/

/-- The line of a cursor divides into four parts: the word that the cursor touches, if there is
one, on both sides of the cursor, and what stands in front of that word and behind it. -/
structure Touches (c : Cursor) (front left right back : List Char) : Prop where
  before_eq : c.before = left.reverse ++ front.reverse
  after_eq : c.after = right ++ back
  isWord_left : ∀ ch ∈ left, isWordChar ch = true
  isWord_right : ∀ ch ∈ right, isWordChar ch = true
  front_stops : ∀ ch ∈ front.getLast?, isWordChar ch = false
  back_stops : ∀ ch ∈ back.head?, isWordChar ch = false

/-- Every cursor divides its line in this way. -/
theorem exists_touches (c : Cursor) : ∃ front left right back, c.Touches front left right back := by
  obtain ⟨isWord, stops⟩ := Text.takeWhile_dropWhile_run isWordChar c.before
  obtain ⟨isWord', stops'⟩ := Text.takeWhile_dropWhile_run isWordChar c.after
  refine ⟨(c.before.dropWhile isWordChar).reverse, (c.before.takeWhile isWordChar).reverse,
    c.after.takeWhile isWordChar, c.after.dropWhile isWordChar, ?_, ?_, ?_, isWord', ?_, stops'⟩
  · rw [List.reverse_reverse, List.reverse_reverse, List.takeWhile_append_dropWhile]
  · exact List.takeWhile_append_dropWhile.symm
  · intro ch member
    exact isWord ch (List.mem_reverse.1 member)
  · rw [List.getLast?_reverse]
    exact stops

namespace Touches

variable {c : Cursor} {front left right back : List Char}
  (touches : c.Touches front left right back)

include touches

theorem takeWhile_dropWhile_before :
    c.before.takeWhile isWordChar = left.reverse ∧
      c.before.dropWhile isWordChar = front.reverse := by
  have isWord : ∀ ch ∈ left.reverse, isWordChar ch = true := by
    intro ch member
    exact touches.isWord_left ch (List.mem_reverse.1 member)
  have stops : ∀ ch ∈ front.reverse.head?, isWordChar ch = false := by
    rw [List.head?_reverse]
    exact touches.front_stops
  rw [touches.before_eq]
  exact ⟨Text.takeWhile_run isWord stops, Text.dropWhile_run isWord stops⟩

theorem wordBefore : c.wordBefore = String.ofList left := by
  rw [Cursor.wordBefore, touches.takeWhile_dropWhile_before.1, List.reverse_reverse]

theorem wordStart : c.wordStart = ⟨c.above.length, front.length⟩ := by
  rw [Cursor.wordStart, touches.takeWhile_dropWhile_before.2, List.length_reverse]

theorem wordAt? : c.wordAt? =
    if left ++ right = [] then none
    else some (String.ofList (left ++ right),
      ⟨⟨c.above.length, front.length⟩,
        ⟨c.above.length, front.length + (left ++ right).length⟩⟩) := by
  have inside : c.after.takeWhile isWordChar = right := by
    rw [touches.after_eq]
    exact Text.takeWhile_run touches.isWord_right touches.back_stops
  have column : c.before.length + right.length = front.length + (left ++ right).length := by
    rw [touches.before_eq, List.length_append, List.length_append, List.length_reverse,
      List.length_reverse]
    omega
  simp only [Cursor.wordAt?, touches.takeWhile_dropWhile_before.1, inside, touches.wordStart,
    column, List.reverse_reverse, List.reverse_eq_nil_iff, List.append_eq_nil_iff]

end Touches

end Cursor

/-! ### The words of a document -/

namespace Document

/-- The cursor at a place of a line that is divided there. -/
theorem cursor_of_line {d : Document} {n : Nat} {front back : List Char} (inside : n < d.lineCount)
    (line : d.line n = front ++ back) :
    d.cursor ⟨n, front.length⟩ = ⟨(d.lines.take n).reverse, front.reverse, back⟩ := by
  have bound : n < d.lines.length := inside
  have lines : d.lines = d.lines.take n ++ (front ++ back) :: d.lines.drop (n + 1) := by
    rw [← line, Document.line, List.getElem?_eq_getElem bound, Option.getD_some,
      List.getElem_cons_drop, List.take_append_drop]
  have cursor := cursor_of_lines lines
  rwa [List.length_take, Nat.min_eq_left (Nat.le_of_lt bound)] at cursor

/-- What a cursor finds that touches a whole word. -/
theorem words_of_isWholeWord {d : Document} {n start stop q : Nat} (inside : n < d.lineCount)
    (whole : Text.IsWholeWord (d.line n) start stop) (after : start ≤ q) (before : q ≤ stop) :
    let c := d.cursor ⟨n, q⟩
    let word := (d.line n).extract start stop
    c.wordAt? = some (String.ofList word, ⟨⟨n, start⟩, ⟨n, stop⟩⟩) ∧
      c.wordBefore = String.ofList (word.take (q - start)) ∧ c.wordStart = ⟨n, start⟩ := by
  obtain ⟨front, word, back, line, rfl, rfl, nonempty⟩ := whole.exists_parts
  rw [line] at whole
  obtain ⟨isWord, frontStops, backStops⟩ := (Text.isWholeWord_part_iff nonempty).1 whole
  have extract : (d.line n).extract front.length (front.length + word.length) = word := by
    rw [line]
    simp
  have halves : word.take (q - front.length) ++ word.drop (q - front.length) = word :=
    List.take_append_drop _ _
  have regrouped : d.line n = (front ++ word.take (q - front.length)) ++
      (word.drop (q - front.length) ++ back) := by
    rw [line, List.append_assoc, ← List.append_assoc (word.take _), halves]
  have column : (front ++ word.take (q - front.length)).length = q := by
    rw [List.length_append, List.length_take]
    omega
  have cursor := cursor_of_line inside regrouped
  rw [column] at cursor
  have touches : (d.cursor ⟨n, q⟩).Touches front (word.take (q - front.length))
      (word.drop (q - front.length)) back := by
    rw [cursor]
    exact ⟨List.reverse_append, rfl, fun ch member => isWord ch (List.mem_of_mem_take member),
      fun ch member => isWord ch (List.mem_of_mem_drop member), frontStops, backStops⟩
  have height : (d.cursor ⟨n, q⟩).above.length = n := by
    have bound : n ≤ d.lines.length := Nat.le_of_lt inside
    rw [cursor, List.length_reverse, List.length_take, Nat.min_eq_left bound]
  intro c word'
  simp only [c, word', extract, touches.wordBefore, touches.wordStart, touches.wordAt?, halves,
    if_neg nonempty, height, true_and]

/-- What a cursor finds is a whole word that it touches. -/
theorem exists_isWholeWord_of_wordAt? {d : Document} {p : Position} {word : String} {range : Range}
    (found : (d.cursor p).wordAt? = some (word, range)) :
    ∃ start stop, Text.IsWholeWord (d.line (d.clamp p).line) start stop ∧
      start ≤ (d.clamp p).character ∧ (d.clamp p).character ≤ stop := by
  obtain ⟨front, left, right, back, touches⟩ := (d.cursor p).exists_touches
  have nonempty : left ++ right ≠ [] := by
    intro empty
    rw [touches.wordAt?, if_pos empty] at found
    cases found
  have line : d.line (d.clamp p).line = front ++ ((left ++ right) ++ back) := by
    have halves : (d.cursor p).before.reverse ++ (d.cursor p).after = d.line (d.clamp p).line := by
      rw [cursor, List.reverse_reverse, List.take_append_drop]
    rw [← halves, touches.before_eq, touches.after_eq]
    simp
  have column : (d.clamp p).character = front.length + left.length := by
    rw [← Cursor.position_cursor]
    show (d.cursor p).before.length = _
    rw [touches.before_eq, List.length_append, List.length_reverse, List.length_reverse,
      Nat.add_comm]
  refine ⟨front.length, front.length + (left ++ right).length, ?_, ?_, ?_⟩
  · rw [line, Text.isWholeWord_part_iff nonempty]
    refine ⟨?_, touches.front_stops, touches.back_stops⟩
    intro ch member
    rcases List.mem_append.1 member with inLeft | inRight
    · exact touches.isWord_left ch inLeft
    · exact touches.isWord_right ch inRight
  · omega
  · rw [List.length_append]
    omega

/-- The word at a position is the whole word that the position touches. -/
theorem wordAt?_cursor_eq_some_iff {d : Document} {p : Position} {word : String} {range : Range} :
    (d.cursor p).wordAt? = some (word, range) ↔
      ∃ start stop, Text.IsWholeWord (d.line (d.clamp p).line) start stop ∧
        start ≤ (d.clamp p).character ∧ (d.clamp p).character ≤ stop ∧
        word = String.ofList ((d.line (d.clamp p).line).extract start stop) ∧
        range = ⟨⟨(d.clamp p).line, start⟩, ⟨(d.clamp p).line, stop⟩⟩ := by
  constructor
  · intro found
    obtain ⟨start, stop, whole, after, before⟩ := exists_isWholeWord_of_wordAt? found
    have here := (words_of_isWholeWord (d.line_clamp_lt p) whole after before).1
    rw [Cursor.cursor_clamp, found, Option.some.injEq, Prod.mk.injEq] at here
    exact ⟨start, stop, whole, after, before, here⟩
  · rintro ⟨start, stop, whole, after, before, rfl, rfl⟩
    rw [← Cursor.cursor_clamp]
    exact (words_of_isWholeWord (d.line_clamp_lt p) whole after before).1

/-- **Words divide a line.**  At a position inside a document or not, the word that is found is
the whole word that the nearest position of the document touches, with its range, and nothing is
found if there is none.  Every cursor from the start of the range to its end finds the same word
with the same range.  The word before the end of the range is all of it, and the word before any
other cursor in the range is its part up to there, with the same start.  The ranges that two
cursors on one line find are the same, or a character that is no word character lies between
them. -/
theorem wordAt?_divides_line (d : Document) (p : Position) :
    let n := (d.clamp p).line
    (∀ word range, (d.cursor p).wordAt? = some (word, range) ↔
      ∃ start stop, Text.IsWholeWord (d.line n) start stop ∧
        start ≤ (d.clamp p).character ∧ (d.clamp p).character ≤ stop ∧
        word = String.ofList ((d.line n).extract start stop) ∧
        range = ⟨⟨n, start⟩, ⟨n, stop⟩⟩) ∧
    (∀ word range, (d.cursor p).wordAt? = some (word, range) →
      (d.cursor range.stop).wordBefore = word ∧ (d.cursor range.stop).wordStart = range.start ∧
      ∀ q, range.start.character ≤ q → q ≤ range.stop.character →
        (d.cursor ⟨n, q⟩).wordAt? = some (word, range) ∧
        (d.cursor ⟨n, q⟩).wordBefore =
          String.ofList (word.toList.take (q - range.start.character)) ∧
        (d.cursor ⟨n, q⟩).wordStart = range.start) ∧
    ∀ p' word range word' range', (d.clamp p').line = n →
      (d.cursor p).wordAt? = some (word, range) → (d.cursor p').wordAt? = some (word', range') →
      (word = word' ∧ range = range') ∨
        ∃ k ch, (d.line n)[k]? = some ch ∧ isWordChar ch = false ∧
          ((range.stop.character ≤ k ∧ k < range'.start.character) ∨
            (range'.stop.character ≤ k ∧ k < range.start.character)) := by
  intro n
  refine ⟨fun word range => wordAt?_cursor_eq_some_iff, ?_, ?_⟩
  · intro word range found
    obtain ⟨start, stop, whole, -, -, rfl, rfl⟩ := wordAt?_cursor_eq_some_iff.1 found
    have nonempty := whole.start_lt
    have finds := fun q => words_of_isWholeWord (q := q) (d.line_clamp_lt p) whole
    obtain ⟨-, wordBefore, wordStart⟩ := finds stop (Nat.le_of_lt nonempty) le_rfl
    rw [List.take_of_length_le (List.length_take_le _ _)] at wordBefore
    refine ⟨wordBefore, wordStart, ?_⟩
    rw [String.toList_ofList]
    exact finds
  · intro p' word range word' range' sameLine found found'
    obtain ⟨start, stop, whole, -, -, rfl, rfl⟩ := wordAt?_cursor_eq_some_iff.1 found
    obtain ⟨start', stop', whole', -, -, rfl, rfl⟩ := wordAt?_cursor_eq_some_iff.1 found'
    rw [sameLine] at whole' ⊢
    rcases whole.eq_or_apart whole' with ⟨rfl, rfl⟩ | apart
    · exact Or.inl ⟨rfl, rfl⟩
    · exact Or.inr apart

end Document

end QmlAssist
