import QmlAssist.Proofs.Analysis.Checked
import QmlAssist.Proofs.Document.Oversize

/-!
# Every cursor is safe

Completions and hovers are asked for at any position, inside the document or not, and a program
answers them by going from position to position with checked numbers.  This module shows that no
position leads to a fault, as long as the document can be numbered and the closing braces in front
of the position can be counted.

## Main Definitions

* `Checked.GivesAnswers`, `Checked.SeesNearest`, `Checked.StaysInside` — what is safe about a
  position.

## Main Statements

* `Checked.every_cursor_is_safe` — all of this for every position.
* `Checked.complete_overflows` — behind too many closing braces a completion is not answered.

## Design Notes

The bounds on lines and columns do not bound the closing braces: two lines of half as many as there
are numbers come to too many.  What runs as at the nearest position, and which positions are
reported, does not depend on their number.
-/

namespace QmlAssist

namespace Checked

open Run

/-! ### Positions outside the document -/

section Clamp

variable {d : Document} (fits : d.Fits) (p : Position)

include fits

theorem scanBackward_clamp {σ : Type} (visit : σ → Char → Run (Option σ)) (state : σ) :
    scanBackward d visit state (d.clamp p) = scanBackward d visit state p := by
  rw [scanBackward, scanBackward, clamp_eq fits, clamp_eq fits, d.clamp_clamp]

theorem enclosingType_clamp (isType : String → Bool) :
    enclosingType d isType (d.clamp p) = enclosingType d isType p := by
  rw [enclosingType, enclosingType.eq_1 d isType p, findOutsideBraces, findOutsideBraces,
    scanBackward_clamp fits, clamp_eq fits, clamp_eq fits, d.clamp_clamp]

end Clamp

/-! ### Positions that are reported -/

section Places

variable {d : Document} {p : Position}

/-- A search reports a position inside the document, at or before its own. -/
theorem contains_search? {σ : Type} (step : σ → Char → Option σ) (state : σ) :
    d.Contains (.ofSearch (((d.cursor p).search? step state).map Cursor.position)) ∧
      Position.ofSearch (((d.cursor p).search? step state).map Cursor.position) ≤ d.clamp p := by
  cases search : (d.cursor p).search? step state with
  | none => exact ⟨⟨d.lineCount_pos, Nat.zero_le _⟩, Position.origin_le _⟩
  | some found =>
      rw [← Cursor.position_cursor]
      exact ⟨contains_of_isIn ((Cursor.isIn_cursor d p).search? search),
        Cursor.position_search?_le search⟩

theorem contains_wordStart :
    d.Contains (d.cursor p).wordStart ∧ (d.cursor p).wordStart ≤ d.clamp p := by
  have isIn := Cursor.isIn_cursor d p
  rw [← Cursor.position_cursor]
  refine ⟨contains_of_isIn (isIn.of_before List.takeWhile_append_dropWhile.symm), ?_⟩
  exact Position.le_iff.2 (Or.inr ⟨rfl, List.length_dropWhile_le _ _⟩)

theorem contains_of_wordAt? {word : String} {range : Range}
    (found : (d.cursor p).wordAt? = some (word, range)) :
    d.Contains range.start ∧ d.Contains range.stop ∧ range.start ≤ d.clamp p ∧
      d.clamp p ≤ range.stop := by
  obtain ⟨start, stop, whole, after, before, -, rfl⟩ :=
    Document.wordAt?_cursor_eq_some_iff.1 found
  have inside := d.line_clamp_lt p
  have stopInside : stop ≤ d.lineLength (d.clamp p).line := whole.spells.1
  exact ⟨⟨inside, (after.trans before).trans stopInside⟩, ⟨inside, stopInside⟩,
    Position.le_iff.2 (Or.inr ⟨rfl, after⟩), Position.le_iff.2 (Or.inr ⟨rfl, before⟩)⟩

end Places

/-! ### Safety -/

/-- At a position no operation faults, and each of them gives what the cursor finds. -/
structure GivesAnswers (d : Document) (p : Position) : Prop where
  charBefore : charBefore d p = pure (d.cursor p).charBefore?
  find : ∀ pattern, find d pattern p =
    pure (.ofSearch (((d.cursor p).find? pattern).map Cursor.position))
  findOutsideBraces : ∀ pattern, findOutsideBraces d pattern p =
    pure (.ofSearch (((d.cursor p).findOutsideBraces? pattern).map Cursor.position))
  wordBefore : wordBefore d p = pure ((d.cursor p).wordBefore, (d.cursor p).wordStart)
  nonBlankBefore : nonBlankBefore d p = pure (d.cursor p).nonBlankBefore?
  wordAt : wordAt d p = pure (d.cursor p).wordAt?
  context : context d p = pure (d.cursor p).context
  enclosingType : ∀ a : Analysis,
    enclosingType d a.isTypeName p = pure (a.enclosingType? (d.cursor p))

/-- At a position every operation runs as it does at the nearest position inside the document. -/
structure SeesNearest (d : Document) (p : Position) : Prop where
  charBefore : charBefore d p = charBefore d (d.clamp p)
  find : ∀ pattern, find d pattern p = find d pattern (d.clamp p)
  findOutsideBraces : ∀ pattern,
    findOutsideBraces d pattern p = findOutsideBraces d pattern (d.clamp p)
  wordBefore : wordBefore d p = wordBefore d (d.clamp p)
  nonBlankBefore : nonBlankBefore d p = nonBlankBefore d (d.clamp p)
  wordAt : wordAt d p = wordAt d (d.clamp p)
  context : context d p = context d (d.clamp p)
  enclosingType : ∀ isType, enclosingType d isType p = enclosingType d isType (d.clamp p)

/-- Every position that is reported lies inside the document, and none that is found backward lies
behind the nearest position inside the document. -/
structure StaysInside (d : Document) (p : Position) : Prop where
  find : ∀ pattern q, find d pattern p = pure q → d.Contains q ∧ q ≤ d.clamp p
  findOutsideBraces : ∀ pattern q, findOutsideBraces d pattern p = pure q →
    d.Contains q ∧ q ≤ d.clamp p
  wordBefore : ∀ word start, wordBefore d p = pure (word, start) →
    d.Contains start ∧ start ≤ d.clamp p
  nonBlankBefore : ∀ ch place, nonBlankBefore d p = pure (some (ch, place)) →
    d.Contains place ∧ place ≤ d.clamp p
  wordAt : ∀ word range, wordAt d p = pure (some (word, range)) →
    d.Contains range.start ∧ d.Contains range.stop ∧ range.start ≤ d.clamp p ∧
      d.clamp p ≤ range.stop

section Safety

variable {d : Document} (fits : d.Fits) (p : Position)

include fits

theorem givesAnswers {p : Position} (few : d.closingBraces p < 2 ^ 32) : GivesAnswers d p where
  charBefore := charBefore_eq fits p
  find pattern := find_eq fits pattern p
  findOutsideBraces pattern :=
    (findOutsideBraces_givesUnless fits pattern p).eq_pure (Nat.not_le.2 few)
  wordBefore := wordBefore_eq fits p
  nonBlankBefore := nonBlankBefore_eq fits p
  wordAt := wordAt_eq fits p
  context := context_eq fits p
  enclosingType a := (enclosingType_givesUnless fits a p).eq_pure (Nat.not_le.2 few)

theorem seesNearest : SeesNearest d p where
  charBefore := by rw [charBefore_eq fits, charBefore_eq fits, Cursor.cursor_clamp]
  find pattern := (scanBackward_clamp fits p _ _).symm
  findOutsideBraces pattern := (scanBackward_clamp fits p _ _).symm
  wordBefore := by rw [wordBefore_eq fits, wordBefore_eq fits, Cursor.cursor_clamp]
  nonBlankBefore := by rw [nonBlankBefore_eq fits, nonBlankBefore_eq fits, Cursor.cursor_clamp]
  wordAt := by rw [wordAt_eq fits, wordAt_eq fits, Cursor.cursor_clamp]
  context := by rw [context_eq fits, context_eq fits, Cursor.cursor_clamp]
  enclosingType isType := (enclosingType_clamp fits p isType).symm

theorem staysInside : StaysInside d p where
  find pattern q runs := by
    rw [find_eq fits, pure_inj] at runs
    exact runs ▸ contains_search? _ _
  findOutsideBraces pattern q runs := by
    rw [(findOutsideBraces_givesUnless fits pattern p).eq_of_pure runs]
    exact contains_search? _ _
  wordBefore word start runs := by
    rw [wordBefore_eq fits, pure_inj, Prod.mk.injEq] at runs
    exact runs.2 ▸ contains_wordStart
  nonBlankBefore ch place runs := by
    rw [nonBlankBefore_eq fits, pure_inj] at runs
    obtain ⟨⟨inside, column⟩, backward⟩ := contains_of_nonBlankBefore? runs
    refine ⟨⟨inside, Nat.le_of_succ_le column⟩, le_trans ?_ backward⟩
    exact Position.le_iff.2 (Or.inr ⟨rfl, Nat.le_succ _⟩)
  wordAt word range runs := by
    rw [wordAt_eq fits, pure_inj] at runs
    exact contains_of_wordAt? runs

end Safety

/-- **Every cursor is safe.**  In a text whose lines, and the characters of each line, can be
numbered, a position of any two numbers with fewer than `2 ^ 32` closing braces in front of it leads
to no fault: no difference is negative, no sum overflows and no index is out of range.  Every
operation gives what the cursor finds there and runs as it does at the nearest position inside the
document, and the positions that it reports lie inside the document. -/
theorem every_cursor_is_safe {text : String} (fits : (Document.ofText text).Fits) {p : Position}
    (few : (Document.ofText text).closingBraces p < 2 ^ 32) :
    let d := Document.ofText text
    GivesAnswers d p ∧ SeesNearest d p ∧ StaysInside d p ∧
      ∀ a : Analysis, a.text = text →
        complete a p = pure (a.complete p) ∧ complete a p = complete a (d.clamp p) ∧
          hover a p = pure (a.hover? p) ∧ hover a p = hover a (d.clamp p) ∧
          ∀ h, hover a p = pure (some h) → d.Contains h.range.start ∧ d.Contains h.range.stop := by
  intro d
  refine ⟨givesAnswers fits few, seesNearest fits p, staysInside fits p, ?_⟩
  rintro a rfl
  have nearest := seesNearest fits p
  refine ⟨(complete_givesUnless fits p).eq_pure (Nat.not_le.2 few), ?_, hover_eq fits p, ?_, ?_⟩
  · rw [complete, complete, ← nearest.context, ← nearest.enclosingType]
  · rw [hover, hover, ← nearest.wordAt]
  · intro h runs
    rw [hover_eq fits, pure_inj] at runs
    obtain ⟨⟨word, range⟩, found, rest⟩ := Option.bind_eq_some_iff.1 runs
    obtain ⟨value, -, shown⟩ := Option.bind_eq_some_iff.1 rest
    obtain rfl := Option.some.inj shown
    obtain ⟨start, stop, -⟩ := contains_of_wordAt? found
    exact ⟨start, stop⟩

/-- Far behind the end of a text, the cursor stands at its end. -/
theorem every_cursor_is_safe_far :
    let text := "import M\nItem \x7b\n  row."
    let far : Position := ⟨2 ^ 32 - 1, 2 ^ 32 - 1⟩
    let a := Analysis.ofText (.ofTypeName "Item") text
    (Document.ofText text).Fits ∧ (Document.ofText text).closingBraces far < 2 ^ 32 ∧
      a.text = text ∧
      context (Document.ofText text) far = pure (.memberAccess "row") ∧
      enclosingType (Document.ofText text) a.isTypeName far = pure (some "Item") ∧
      findOutsideBraces (Document.ofText text) (· == '{') far = pure ⟨1, 6⟩ ∧
      hover a far = pure none := by
  intro text far a
  have fits : (Document.ofText text).Fits := by decide +kernel
  have few : (Document.ofText text).closingBraces far < 2 ^ 32 := by decide +kernel
  have same : a.text = text := by decide +kernel
  obtain ⟨gives, -, -, requests⟩ := every_cursor_is_safe fits few
  obtain ⟨-, -, hover, -⟩ := requests a same
  refine ⟨fits, few, same, ?_, ?_, ?_, ?_⟩
  · rw [gives.context, pure_inj]
    decide +kernel
  · rw [gives.enclosingType a, pure_inj]
    decide +kernel
  · rw [gives.findOutsideBraces, pure_inj]
    decide +kernel
  · rw [hover, pure_inj]
    decide +kernel

/-! ### Too many closing braces -/

/-- Behind a closing brace anything may stand. -/
theorem context_closing (before : List Char) : Context.ofLine ('}' :: before) = .general := by
  have isWord : isWordChar '}' = false := by decide
  have isPath : Context.isPathChar '}' = false := by decide
  have isBlank_ : isBlank '}' = false := by decide
  simp [Context.ofLine, Context.endsInImport, isWord, isPath, isBlank_]

/-- A completion behind the closing braces overflows the depth. -/
theorem complete_closedTwice {n : Nat} (size : n < 2 ^ 32) (many : 2 ^ 32 ≤ n + n) {a : Analysis}
    (text : a.text = Text.closedTwice n) : complete a ⟨2, n⟩ = throw .overflow := by
  have fits := fits_closedTwice size
  have anything : context (.ofText (Text.closedTwice n)) ⟨2, n⟩ = pure .general := by
    rw [context_eq fits, Cursor.context, Document.before_closedTwice]
    obtain ⟨m, rfl⟩ : ∃ m, n = m + 1 := ⟨n - 1, by omega⟩
    rw [List.replicate_succ, context_closing]
  unfold complete
  dsimp only
  rw [text, anything, pure_bind]
  dsimp only
  rw [enclosingType, findOutsideBraces_closedTwice size many, throw_bind]
  rfl

/-- **The bounds on lines and columns are not enough.**  A text can be numbered, but the depth in
closed blocks overflows at its end, so a completion there is not answered. -/
theorem complete_overflows :
    let text := Text.closedTwice (2 ^ 31)
    (Document.ofText text).Fits ∧
      findOutsideBraces (.ofText text) (· == '{') ⟨2, 2 ^ 31⟩ = throw .overflow ∧
      complete (.ofText .empty text) ⟨2, 2 ^ 31⟩ = throw .overflow :=
  ⟨fits_closedTwice (by decide), findOutsideBraces_closedTwice (by decide) (by decide),
    complete_closedTwice (by decide) (by decide) rfl⟩

end Checked

end QmlAssist
