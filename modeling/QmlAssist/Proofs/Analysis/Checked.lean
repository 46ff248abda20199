import QmlAssist.Analysis.Checked
import QmlAssist.Proofs.Analysis.Climbing
import QmlAssist.Proofs.Catalog.Load
import QmlAssist.Proofs.Completion.Context
import QmlAssist.Proofs.Document.Checked
import QmlAssist.Proofs.Document.NearestMatch
import QmlAssist.Proofs.Document.Offset

/-!
# Checked analysis comes to the analysis

An analysis with numbers of 32 bits goes from position to position of a document.  This module
shows that it ends without a fault, and that it comes to the same contexts, types, bindings and
answers as the analysis of the text around a cursor, for documents whose lines and columns can be
numbered and whose closing braces can be counted.

## Main Definitions

* `Document.Countable` — the documents for which 32 bits are enough.

## Main Statements

* `Checked.context_eq` — the context is that of the cursor.
* `Checked.enclosingType_givesUnless` — the search for the enclosing type ends, with the type that
  is reported.
* `Checked.ofOffset_eq` — the position at a byte offset is not cut off.
* `Checked.ofText_eq` — the analysis of a text is the same.
* `Checked.complete_givesUnless`, `Checked.hover_eq` — and so are the answers.

## Design Notes

The origin, which stands for a search that finds nothing, never comes to be decremented: a
decrement follows the test of a character in front of the position, and there is none in front of
the origin.  The search for the enclosing type goes on from the origin like from any other position,
and finds no word there.

All that is proved of `Analysis.ofText`, `Analysis.update`, `Analysis.complete` and
`Analysis.hover?` holds of the checked program through the equations of this module.
-/

namespace QmlAssist

namespace Checked

open Run

/-! ### Contexts -/

section Context

variable {d : Document} (fits : d.Fits) {c : Cursor} (isIn : c.IsIn d)

include fits isIn

theorem charBefore_of_isIn :
    charBefore d ⟨c.above.length, c.before.length⟩ = pure c.before.head? := by
  have position : (⟨c.above.length, c.before.length⟩ : Position) = c.position := rfl
  rw [position, charBefore_eq fits, isIn.cursor_position, Cursor.charBefore?]

/-- The induction is along the line before the cursor, from the nearest character on. -/
theorem pathStart_eq :
    pathStart d c.above.length c.before.length =
      pure ⟨c.above.length, (c.before.dropWhile Context.isPathChar).length⟩ := by
  have here := charBefore_of_isIn fits isIn
  cases c with
  | mk above before after =>
      induction before generalizing after with
      | nil =>
          rw [pathStart.eq_def, here, pure_bind]
          rfl
      | cons ch rest ih =>
          rw [pathStart.eq_def, here, pure_bind]
          show (if Context.isPathChar ch then pathStart d above.length rest.length else _) = _
          split
          next isPath =>
            have earlier := isIn.of_before List.singleton_append.symm
            rw [List.dropWhile_cons_of_pos isPath]
            exact ih _ earlier (charBefore_of_isIn fits earlier)
          next other => rw [List.dropWhile_cons_of_neg other]

theorem importBefore_eq :
    importBefore d c.position =
      pure (Context.endsInImport (c.before.dropWhile Context.isPathChar)) := by
  obtain ⟨start, startIn, line, place_eq, before⟩ : ∃ start : Cursor, start.IsIn d ∧
      start.position.line = c.position.line ∧
      start.position = ⟨c.above.length, (c.before.dropWhile Context.isPathChar).length⟩ ∧
      start.before = c.before.dropWhile Context.isPathChar :=
    ⟨_, isIn.of_before List.takeWhile_append_dropWhile.symm, rfl, rfl, rfl⟩
  have path := pathStart_eq fits isIn
  rw [importBefore, Cursor.position, path, pure_bind, nonBlankBefore_eq fits, pure_bind,
    ← place_eq, ← before, ← Document.importBefore_position startIn, Document.importBefore, line]
  cases search : (d.cursor start.position).nonBlankBefore? with
  | none => rfl
  | some found =>
      obtain ⟨ch, place⟩ := found
      obtain ⟨⟨-, column⟩, -⟩ := contains_of_nonBlankBefore? search
      have sum : add UInt32.size place.character 1 = pure (place.character + 1) :=
        add_of_lt (Nat.lt_of_le_of_lt column (fits.lineLength_lt _))
      show (if place.line = c.position.line ∧ isWordChar ch = true then _ else _) = _
      split
      next same =>
        rw [sum, pure_bind, wordBefore_eq fits, pure_bind]
        simp [same]
      next other =>
        have fails : (place.line == c.position.line && isWordChar ch) = false := by
          simpa [← Bool.not_eq_true] using other
        show pure false = pure (place.line == c.position.line && isWordChar ch && _)
        rw [fails, Bool.false_and]

end Context

theorem context_eq {d : Document} (fits : d.Fits) (p : Position) :
    context d p = pure (d.cursor p).context := by
  have isIn := Cursor.isIn_cursor d p
  rw [context, wordBefore_eq fits, pure_bind]
  generalize d.cursor p = c at isIn
  obtain ⟨start, startIn, place_eq, before⟩ : ∃ start : Cursor, start.IsIn d ∧
      c.wordStart = start.position ∧ start.before = c.before.dropWhile isWordChar :=
    ⟨_, isIn.of_before List.takeWhile_append_dropWhile.symm, rfl, rfl⟩
  rw [Cursor.context, Context.ofLine, ← before]
  dsimp only
  rw [place_eq, importBefore_eq fits startIn, pure_bind]
  split
  next => rfl
  next =>
    rw [charBefore_eq fits, pure_bind, startIn.cursor_position, Cursor.charBefore?]
    cases line : start.before with
    | nil => rfl
    | cons ch beforeDot =>
        by_cases dot : ch = '.'
        · subst dot
          have back := startIn.of_before (line.trans List.singleton_append.symm)
          have column : start.position.character = beforeDot.length + 1 := by
            rw [Cursor.position, line, List.length_cons]
          have subject : d.cursor ⟨start.position.line, beforeDot.length⟩ = _ :=
            back.cursor_position
          rw [List.head?_cons, if_pos rfl, column, sub_succ, pure_bind, wordBefore_eq fits,
            pure_bind, subject]
          rfl
        · rw [List.head?_cons, if_neg (by simpa using dot)]
          split
          next isDot => exact absurd (List.cons.inj isDot).1 dot
          next => rfl

/-! ### Enclosing types -/

/-- No more closing braces stand before what a search finds. -/
theorem closingBraces_search?_le {σ : Type} (step : σ → Char → Option σ) (state : σ)
    (d : Document) (p : Position) :
    d.closingBraces (.ofSearch (((d.cursor p).search? step state).map Cursor.position)) ≤
      d.closingBraces p := by
  cases search : (d.cursor p).search? step state with
  | none =>
      obtain ⟨above, before⟩ := d.cursor_origin
      have none : d.closingBraces .origin = 0 := by
        rw [d.closingBraces_eq, Cursor.spelled, above, before]
        rfl
      exact none.trans_le (Nat.zero_le _)
  | some found =>
      have isIn := (Cursor.isIn_cursor d p).search? search
      rw [Option.map_some, Position.ofSearch, Option.getD_some, d.closingBraces_eq,
        d.closingBraces_eq, isIn.cursor_position, ← Cursor.reverse_map_fst_placed,
        ← Cursor.reverse_map_fst_placed, List.count_reverse, List.count_reverse]
      exact ((Cursor.placed_isPrefix_of_search? search).map Prod.fst).sublist.count_le _

theorem closingBraces_headEnd_le (d : Document) (p : Position) :
    d.closingBraces (d.headEnd p) ≤ d.closingBraces p :=
  (closingBraces_search?_le _ _ d _).trans (closingBraces_search?_le _ _ d p)

/-- The search for the enclosing type ends, and gives the type that is reported.  The induction
is along the positions that it goes on from. -/
theorem enclosingType_givesUnless {d : Document} (fits : d.Fits) (a : Analysis) (p : Position) :
    (enclosingType d a.isTypeName p).GivesUnless (a.enclosingType? (d.cursor p))
      (2 ^ 32 ≤ d.closingBraces p) := by
  induction p using WellFoundedLT.induction with
  | ind p ih =>
      have back := closingBraces_headEnd_le d p
      rw [enclosingType]
      refine (findOutsideBraces_givesUnless fits _ p).bind ?_
      have comesTo : find d isWordChar (.ofSearch
          (((d.cursor p).findOutsideBraces? (· == '{')).map Cursor.position)) =
            pure (d.headEnd p) := find_eq fits _ _
      rw [comesTo, pure_bind, wordBefore_eq fits, pure_bind]
      cases found : (d.cursor p).enclosing? with
      | none =>
          rw [Document.headEnd_of_none found, d.wordBefore_cursor_origin,
            Analysis.enclosingType?_of_none found]
          exact Or.inl rfl
      | some outer =>
          obtain ⟨isIn, earlier, word⟩ :=
            Cursor.isIn_lt_of_enclosing?_eq_some (Cursor.isIn_cursor d p) found
          rw [Cursor.position_cursor] at earlier
          rw [Document.headEnd_of_some found] at back ⊢
          rw [isIn.cursor_position, Analysis.enclosingType?_of_some found]
          dsimp only
          rw [if_neg word]
          cases isType : a.isTypeName outer.wordBefore with
          | true => exact Or.inl rfl
          | false =>
              have next := ih _ (lt_of_lt_of_le earlier (Position.clamp_le d p))
              rw [isIn.cursor_position] at next
              show Run.GivesUnless (if outer.position.Before (clamp d p) then _ else _) _ _
              rw [clamp_eq fits, if_pos (Position.before_iff.2 earlier)]
              exact next.mono fun exceeds => exceeds.trans back

/-! ### Requests -/

section Request

variable {a : Analysis} (fits : (Document.ofText a.text).Fits) (p : Position)

include fits

theorem complete_givesUnless :
    (complete a p).GivesUnless (a.complete p)
      (2 ^ 32 ≤ (Document.ofText a.text).closingBraces p) := by
  rw [complete, Analysis.complete, context_eq fits, pure_bind]
  cases ((Document.ofText a.text).cursor p).context with
  | memberAccess subject => exact Or.inl rfl
  | importPath => exact Or.inl rfl
  | general =>
      refine (enclosingType_givesUnless fits a p).bind ?_
      rw [Analysis.blockCandidates]
      cases a.enclosingType? ((Document.ofText a.text).cursor p) with
      | none => exact Or.inl rfl
      | some type => exact Or.inl rfl

theorem hover_eq : hover a p = pure (a.hover? p) := by
  rw [hover, wordAt_eq fits, pure_bind, Analysis.hover?]
  cases ((Document.ofText a.text).cursor p).wordAt? with
  | none => rfl
  | some found =>
      obtain ⟨word, range⟩ := found
      show pure ((Hover.markdown? (a.referenceUrls word)).map _) =
        pure ((Hover.markdown? (a.referenceUrls word)).bind _)
      cases Hover.markdown? (a.referenceUrls word) <;> rfl

end Request

/-! ### Analysis of a text -/

end Checked

/-- The documents for which numbers of 32 bits are enough: lines and columns can be numbered, and
closing braces can be counted. -/
structure Document.Countable (d : Document) : Prop extends d.Fits where
  closing_lt : d.lines.flatten.count '}' < 2 ^ 32

theorem Document.Countable.closingBraces_lt {d : Document} (countable : d.Countable)
    (p : Position) : d.closingBraces p < 2 ^ 32 := by
  have part := ((d.placedBefore_isPrefix p).map Prod.fst).sublist.count_le '}'
  rw [Document.map_fst_placed] at part
  exact Nat.lt_of_le_of_lt part countable.closing_lt

/-- A declaration starts behind a part of the text. -/
theorem Declaration.exists_start_of_mem {text : String} {declaration : Declaration}
    (member : declaration ∈ Declaration.all text) :
    ∃ before rest, text.toList = before.reverse ++ rest ∧
      declaration.start = Position.after before := by
  obtain ⟨front, rest, length, split, found⟩ := Text.exists_of_mem_occurrencesAfter member
  refine ⟨front.reverse, rest, by rw [List.reverse_reverse, split], ?_⟩
  rw [List.append_nil, pattern] at found
  obtain ⟨afterWord, -, found⟩ := Option.bind_eq_some_iff.1 found
  obtain ⟨afterColon, -, found⟩ := Option.bind_eq_some_iff.1 found
  dsimp only at found
  split at found
  next => cases found
  next =>
    obtain ⟨rfl, -⟩ := Prod.mk.inj (Option.some.inj found)
    rfl

namespace Checked

open Run

section Position

variable {text : String} (fits : (Document.ofText text).Fits)

include fits

/-- The position that a part of a text leads up to is not cut off. -/
theorem truncated_after {before rest : List Char} (split : text.toList = before.reverse ++ rest) :
    truncated (.after before) = .after before := by
  obtain ⟨line, character⟩ := Document.after_inside split
  rw [truncated, truncate_of_lt (Nat.lt_trans line fits.lineCount_lt),
    truncate_of_lt (Nat.lt_of_le_of_lt character (fits.lineLength_lt _))]

theorem ofOffset_eq (offset : Nat) : ofOffset text offset = .ofOffset text offset := by
  obtain ⟨rest, split⟩ := Position.takeBytes_isPrefix offset text.toList
  exact truncated_after fits (by rw [List.reverse_reverse, split])

end Position

section Analysis

theorem enclosingType_eq {d : Document} (countable : d.Countable) (a : Analysis) (p : Position) :
    enclosingType d a.isTypeName p = pure (a.enclosingType? (d.cursor p)) :=
  (enclosingType_givesUnless countable.toFits a p).eq_pure
    (Nat.not_le.2 (countable.closingBraces_lt p))

theorem findBindings_eq {a : Analysis} (countable : (Document.ofText a.text).Countable) :
    findBindings a = pure a.findBindings := by
  let found := fun declaration : Declaration =>
    (a.enclosingType? ((Document.ofText a.text).cursor declaration.start)).map
      (Binding.mk declaration.id)
  have runs : (Declaration.all a.text).mapM (fun declaration => do
      let type ← enclosingType (Document.ofText a.text) a.isTypeName (truncated declaration.start)
      return type.map (Binding.mk declaration.id)) =
        (.ok ((Declaration.all a.text).map found) : Run (List (Option Binding))) := by
    rw [mapM_eq_ok_iff, List.forall₂_map_right_iff, List.forall₂_same]
    intro declaration member
    obtain ⟨before, rest, split, start⟩ := Declaration.exists_start_of_mem member
    rw [start, truncated_after countable.toFits split, enclosingType_eq countable, pure_bind,
      ← start]
    rfl
  unfold findBindings
  dsimp only
  rw [runs]
  show (pure (((Declaration.all a.text).map found).filterMap id) : Run (List Binding)) = _
  rw [List.filterMap_map]
  rfl

theorem resolveIds_eq {a : Analysis} (countable : (Document.ofText a.text).Countable) :
    resolveIds a = pure a.resolveIds := by
  unfold resolveIds
  rw [findBindings_eq countable, pure_bind]
  rfl

/-- The analysis of another text is the same. -/
theorem update_eq {text : String} (countable : (Document.ofText text).Countable) (a : Analysis) :
    update a text = pure (a.update text) := by
  have same : ({ a with text := text }.resolveImports).text = text := rfl
  unfold update Analysis.update
  rw [resolveIds_eq]
  rwa [same]

/-- **The analysis of a text is the same with numbers of 32 bits.** -/
theorem ofText_eq {text : String} (countable : (Document.ofText text).Countable)
    (catalog : Catalog) : ofText catalog text = pure (.ofText catalog text) :=
  update_eq countable ⟨catalog, text, [], [], [], []⟩

theorem complete_eq {a : Analysis} (countable : (Document.ofText a.text).Countable)
    (p : Position) : complete a p = pure (a.complete p) :=
  (complete_givesUnless countable.toFits p).eq_pure
    (Nat.not_le.2 (countable.closingBraces_lt p))

end Analysis

end Checked

end QmlAssist
