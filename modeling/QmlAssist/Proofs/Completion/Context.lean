import QmlAssist.Completion.Context
import QmlAssist.Proofs.Document.Positions
import QmlAssist.Proofs.Text.Occurrence

/-!
# The grammar of completion contexts

What a completion offers is decided by the end of the line before the cursor.  This module
gives the ends of lines that ask for modules and for members as a grammar that is read
forward, and shows that the context is exactly what this grammar says.

## Main Definitions

* `Document.lineBefore` — the part of a line that stands before a position.
* `Context.AsksForModules`, `Context.AsksForMembers` — the two kinds of ends of a line.
* `Document.searchedContext` — the context as searches of the document find it.

## Main Statements

* `Context.asksForModules_iff`, `Context.ofLine_eq_memberAccess_iff` — each kind of end is what
  the context of a line looks for.
* `Document.searchedContext_eq` — searches that leave the line find nothing else.
* `Cursor.context_eq_iff` — the context at a position, and what it depends on.

## Design Notes

A line is read backward from the cursor, so each part of it is a longest run, while the grammar
asks only that each part is a run.  The two agree because every part is followed by a character
that cannot belong to it: blanks spell no path, and the text in front of a word does not end in
a word character.
-/

namespace QmlAssist

/-- A text that does not end inside a word. -/
def Text.EndsOutsideWord (text : List Char) : Prop :=
  ∀ c ∈ text.getLast?, isWordChar c = false

namespace Context

/-- A line that ends in the word `import`, blanks, and what there is of a dotted path. -/
def AsksForModules (line : List Char) : Prop :=
  ∃ front blanks path, line = front ++ "import".toList ++ blanks ++ path ∧
    Text.EndsOutsideWord front ∧ blanks ≠ [] ∧ (∀ c ∈ blanks, isBlank c = true) ∧
    ∀ c ∈ path, isWordChar c = true ∨ c = '.'

/-- A line that ends in a subject, a dot, and what there is of a word.  The subject may be
empty. -/
def AsksForMembers (line : List Char) (subject : String) : Prop :=
  ∃ front word, line = front ++ subject.toList ++ ['.'] ++ word ∧
    Text.EndsOutsideWord front ∧ (∀ c ∈ subject.toList, isWordChar c = true) ∧
    ∀ c ∈ word, isWordChar c = true

/-! ### Paths and blanks -/

theorem isPathChar_eq_true_iff {c : Char} :
    isPathChar c = true ↔ isWordChar c = true ∨ c = '.' := by
  rw [isPathChar, Bool.or_eq_true, beq_iff_eq]

theorem isPathChar_of_isBlank {c : Char} (blank : isBlank c = true) : isPathChar c = false := by
  have other : c ≠ '.' := by
    rintro rfl
    exact absurd blank (by decide)
  rw [isPathChar, isWordChar_of_isBlank blank, Bool.false_or, beq_eq_false_iff_ne]
  exact other

/-- A word in front of a dotted path belongs to the path. -/
theorem dropWhile_isPathChar_dropWhile (before : List Char) :
    (before.dropWhile isWordChar).dropWhile isPathChar = before.dropWhile isPathChar := by
  obtain ⟨inside, -⟩ := Text.takeWhile_dropWhile_run isWordChar before
  conv_rhs => rw [← List.takeWhile_append_dropWhile (p := isWordChar) (l := before)]
  rw [List.dropWhile_append_of_pos]
  intro c member
  exact isPathChar_eq_true_iff.2 (Or.inl (inside c member))

/-! ### Lines that ask for modules -/

theorem endsInImport_iff {before : List Char} :
    endsInImport before = true ↔
      ∃ blanks rest, before = blanks ++ ("import".toList.reverse ++ rest) ∧
        (∀ c ∈ blanks, isBlank c = true) ∧ ∀ c ∈ rest.head?, isWordChar c = false := by
  unfold endsInImport
  rw [beq_iff_eq]
  constructor
  · intro word
    obtain ⟨rest, behind, -, stops⟩ := Text.takeWhile_eq_iff.1 word
    obtain ⟨blanks, whole, areBlank, -⟩ := Text.dropWhile_eq_iff.1 behind
    exact ⟨blanks, rest, whole, areBlank, stops⟩
  · rintro ⟨blanks, rest, rfl, areBlank, stops⟩
    have visible : ∀ c ∈ ("import".toList.reverse ++ rest).head?, isBlank c = false := by
      rintro c ⟨⟩
      decide
    have letters : ∀ c ∈ "import".toList.reverse, isWordChar c = true :=
      List.all_eq_true.1 (by decide)
    rw [Text.dropWhile_run areBlank visible]
    exact Text.takeWhile_run letters stops

/-- Read backward, a line asks for modules if in front of its path it ends in `import`. -/
theorem asksForModules_iff {line : List Char} :
    AsksForModules line ↔ endsInImport (line.reverse.dropWhile isPathChar) = true := by
  rw [endsInImport_iff]
  constructor
  · rintro ⟨front, blanks, path, rfl, outside, nonempty, areBlank, isPath⟩
    refine ⟨blanks.reverse, front.reverse, ?_, by simpa using areBlank, ?_⟩
    · -- the path is all of its run, since a blank stands in front of it
      rw [Text.dropWhile_eq_iff]
      refine ⟨path.reverse, by simp, ?_, ?_⟩
      · intro c member
        exact isPathChar_eq_true_iff.2 (isPath c (List.mem_reverse.1 member))
      · obtain ⟨blank, others, reversed⟩ :=
          List.exists_cons_of_ne_nil (List.reverse_ne_nil_iff.2 nonempty)
        rw [reversed]
        rintro c ⟨⟩
        refine isPathChar_of_isBlank (areBlank _ (List.mem_reverse.1 ?_))
        rw [reversed]
        exact List.mem_cons_self
    · rw [List.head?_reverse]
      exact outside
  · rintro ⟨blanks, rest, behind, areBlank, stops⟩
    obtain ⟨path, whole, isPath, stopsPath⟩ := Text.dropWhile_eq_iff.1 behind
    refine ⟨rest.reverse, blanks.reverse, path.reverse, ?_, ?_, ?_, by simpa using areBlank, ?_⟩
    · rw [← List.reverse_inj, whole]
      simp
    · rw [Text.EndsOutsideWord, List.getLast?_reverse]
      exact stops
    · -- without blanks the path would go on with the letters of `import`
      intro none
      rw [List.reverse_eq_nil_iff.1 none] at stopsPath
      exact absurd (stopsPath 't' rfl) (by decide)
    · intro c member
      exact isPathChar_eq_true_iff.1 (isPath c (List.mem_reverse.1 member))

theorem ofLine_eq_importPath_iff {line : List Char} :
    ofLine line.reverse = .importPath ↔ AsksForModules line := by
  rw [asksForModules_iff, ← dropWhile_isPathChar_dropWhile, ofLine]
  split
  next asks => exact iff_of_true rfl asks
  next asksNot =>
    refine iff_of_false ?_ asksNot
    split
    · exact nofun
    · exact nofun

/-! ### Lines that ask for members -/

/-- Read backward, a line asks for the members of a subject if a dot stands in front of its last
word, and the subject is the word in front of the dot. -/
theorem asksForMembers_iff {line : List Char} {subject : String} :
    AsksForMembers line subject ↔
      ∃ beforeDot, line.reverse.dropWhile isWordChar = '.' :: beforeDot ∧
        String.ofList (beforeDot.takeWhile isWordChar).reverse = subject := by
  constructor
  · rintro ⟨front, word, rfl, outside, isSubject, isWord⟩
    refine ⟨subject.toList.reverse ++ front.reverse, ?_, ?_⟩
    · rw [Text.dropWhile_eq_iff]
      refine ⟨word.reverse, by simp, by simpa using isWord, ?_⟩
      rintro c ⟨⟩
      decide
    · rw [Text.takeWhile_run (by simpa using isSubject), List.reverse_reverse, String.ofList_toList]
      rw [List.head?_reverse]
      exact outside
  · rintro ⟨beforeDot, behind, rfl⟩
    obtain ⟨word, whole, isWord, -⟩ := Text.dropWhile_eq_iff.1 behind
    obtain ⟨isSubject, stops⟩ := Text.takeWhile_dropWhile_run isWordChar beforeDot
    refine ⟨(beforeDot.dropWhile isWordChar).reverse, word.reverse, ?_, ?_, ?_, ?_⟩
    · rw [← List.reverse_inj, whole, String.toList_ofList]
      simp
    · rw [Text.EndsOutsideWord, List.getLast?_reverse]
      exact stops
    · rw [String.toList_ofList]
      simpa using isSubject
    · simpa using isWord

theorem ofLine_eq_memberAccess_iff {line : List Char} {subject : String} :
    ofLine line.reverse = .memberAccess subject ↔
      ¬AsksForModules line ∧ AsksForMembers line subject := by
  rw [asksForModules_iff, ← dropWhile_isPathChar_dropWhile, asksForMembers_iff, ofLine]
  split
  next asks => exact iff_of_false nofun fun both => both.1 asks
  next asksNot =>
    split
    next beforeDot behind =>
      rw [Context.memberAccess.injEq]
      constructor
      · rintro rfl
        exact ⟨asksNot, beforeDot, behind, rfl⟩
      · rintro ⟨-, other, behind', rfl⟩
        obtain ⟨-, rfl⟩ := List.cons.inj (behind.symm.trans behind')
        rfl
    next noDot =>
      refine iff_of_false nofun ?_
      rintro ⟨-, beforeDot, behind, -⟩
      exact noDot beforeDot behind

theorem ofLine_eq_general_iff {line : List Char} :
    ofLine line.reverse = .general ↔
      ¬AsksForModules line ∧ ∀ subject, ¬AsksForMembers line subject := by
  cases context : ofLine line.reverse with
  | importPath =>
      refine iff_of_false nofun ?_
      rintro ⟨asksNot, -⟩
      exact asksNot (ofLine_eq_importPath_iff.1 context)
  | memberAccess subject =>
      refine iff_of_false nofun ?_
      rintro ⟨-, asksNot⟩
      exact asksNot subject (ofLine_eq_memberAccess_iff.1 context).2
  | general =>
      have noModules : ¬AsksForModules line := by
        rw [← ofLine_eq_importPath_iff, context]
        exact nofun
      refine iff_of_true rfl ⟨noModules, ?_⟩
      intro subject asks
      have access := ofLine_eq_memberAccess_iff.2 ⟨noModules, asks⟩
      rw [context] at access
      cases access

end Context

/-! ### The same by searches -/

namespace Cursor

theorem wordBefore_eq_iff {c : Cursor} {word : String} :
    c.wordBefore = word ↔ c.before.takeWhile isWordChar = word.toList.reverse := by
  rw [wordBefore, ← String.toList_inj, String.toList_ofList, List.reverse_eq_iff]

/-- The nearest character that is not blank, if there is one before the cursor on its line. -/
theorem nonBlankBefore?_of_line {c : Cursor} {ch : Char} {rest : List Char}
    (visible : c.before.dropWhile isBlank = ch :: rest) :
    c.nonBlankBefore? = some (ch, ⟨c.above.length, rest.length⟩) := by
  have kind : (fun ch => !(!isBlank ch)) = isBlank := by
    funext ch
    exact Bool.not_not _
  have inLine : c.before.dropWhile (fun ch => !(!isBlank ch)) = ch :: rest := by
    rw [kind]
    exact visible
  rw [nonBlankBefore?, find?_of_line (inLine ▸ List.cons_ne_nil ch rest), inLine]
  rfl

/-- If there is none, what is found stands on a line above. -/
theorem line_nonBlankBefore?_lt {c : Cursor} {ch : Char} {place : Position}
    (invisible : c.before.dropWhile isBlank = [])
    (search : c.nonBlankBefore? = some (ch, place)) : place.line < c.above.length := by
  obtain ⟨found, atFound, here⟩ := Option.bind_eq_some_iff.1 search
  obtain ⟨other, -, same⟩ := Option.bind_eq_some_iff.1 here
  obtain ⟨-, rfl⟩ := Prod.mk.inj (Option.some.inj same)
  have earlier := length_above_lt_of_find? (by simpa using invisible) atFound
  have line : found.stepBack.above = found.above := by
    obtain ⟨above, before, after⟩ := found
    cases before <;> rfl
  show found.stepBack.above.length < c.above.length
  rw [line]
  exact earlier

end Cursor

namespace Document

/-- The part of a line that stands before a position. -/
def lineBefore (d : Document) (p : Position) : List Char :=
  (d.line (d.clamp p).line).take (d.clamp p).character

theorem context_cursor (d : Document) (p : Position) :
    (d.cursor p).context = Context.ofLine (d.lineBefore p).reverse := rfl

/-- Whether the word `import` stands before a position, blanks apart.  The nearest character
that is not blank may be found on a line above, so its line has to be compared. -/
def importBefore (d : Document) (p : Position) : Bool :=
  match (d.cursor p).nonBlankBefore? with
  | none => false
  | some (ch, place) =>
      place.line == p.line && isWordChar ch &&
        (d.cursor ⟨place.line, place.character + 1⟩).wordBefore == "import"

/-- The context at a position, found by going from position to position: to the start of the
word, to the start of the dotted path, and behind the dot. -/
def searchedContext (d : Document) (p : Position) : Context :=
  let start := (d.cursor p).wordStart
  let pathLength := ((d.cursor start).before.takeWhile Context.isPathChar).length
  if d.importBefore ⟨start.line, start.character - pathLength⟩ then .importPath
  else if (d.cursor start).charBefore? = some '.' then
    .memberAccess (d.cursor ⟨start.line, start.character - 1⟩).wordBefore
  else .general

/-- On the line of the cursor, the search comes to the word that `endsInImport` looks at; if it
leads to a line above, there is no such word. -/
theorem importBefore_position {d : Document} {c : Cursor} (isIn : c.IsIn d) :
    d.importBefore c.position = Context.endsInImport c.before := by
  unfold importBefore Context.endsInImport
  rw [isIn.cursor_position]
  cases visible : c.before.dropWhile isBlank with
  | nil =>
      cases search : c.nonBlankBefore? with
      | none => rfl
      | some found =>
          obtain ⟨ch, place⟩ := found
          have earlier := Cursor.line_nonBlankBefore?_lt visible search
          have other : (place.line == c.position.line) = false :=
            beq_eq_false_iff_ne.2 (Nat.ne_of_lt earlier)
          simp only [other, Bool.false_and]
          rfl
  | cons ch rest =>
      have whole : c.before = c.before.takeWhile isBlank ++ ch :: rest := by
        rw [← visible, List.takeWhile_append_dropWhile]
      have atWord := isIn.cursor_of_before whole
      rw [List.length_cons] at atWord
      rw [Cursor.nonBlankBefore?_of_line visible, Bool.eq_iff_iff]
      simp only [atWord, Bool.and_eq_true, beq_iff_eq, Cursor.wordBefore_eq_iff]
      constructor
      · exact And.right
      · intro word
        refine ⟨⟨rfl, ?_⟩, word⟩
        by_contra other
        rw [List.takeWhile_cons_of_neg other] at word
        exact absurd word (by decide)

/-- The same in front of the dotted path that ends at a cursor. -/
theorem importBefore_path {d : Document} {c : Cursor} (isIn : c.IsIn d) :
    d.importBefore ⟨c.above.length,
        c.before.length - (c.before.takeWhile Context.isPathChar).length⟩ =
      Context.endsInImport (c.before.dropWhile Context.isPathChar) := by
  have whole : c.before.takeWhile Context.isPathChar ++ c.before.dropWhile Context.isPathChar =
      c.before := List.takeWhile_append_dropWhile
  have count := congrArg List.length whole
  rw [List.length_append] at count
  have start : c.before.length - (c.before.takeWhile Context.isPathChar).length =
      (c.before.dropWhile Context.isPathChar).length := by
    omega
  rw [start]
  exact importBefore_position (isIn.of_before whole.symm)

/-- Searches that leave the line change nothing. -/
theorem searchedContext_eq (d : Document) (p : Position) :
    d.searchedContext p = (d.cursor p).context := by
  have isIn := Cursor.isIn_cursor d p
  unfold searchedContext
  generalize d.cursor p = c at isIn
  have whole : c.before = c.before.takeWhile isWordChar ++ c.before.dropWhile isWordChar :=
    List.takeWhile_append_dropWhile.symm
  have inFront := isIn.of_before whole
  have atStart : d.cursor c.wordStart = _ := inFront.cursor_position
  simp only [atStart]
  show (if d.importBefore ⟨c.above.length, (c.before.dropWhile isWordChar).length -
      ((c.before.dropWhile isWordChar).takeWhile Context.isPathChar).length⟩ = true then _ else _) =
    Context.ofLine c.before
  rw [importBefore_path inFront, Context.ofLine]
  split
  next => rfl
  next =>
    cases behind : c.before.dropWhile isWordChar with
    | nil => rfl
    | cons ch beforeDot =>
        by_cases dot : ch = '.'
        · subst dot
          rw [behind, List.append_cons] at whole
          have atDot := isIn.cursor_of_before whole
          show Context.memberAccess (d.cursor
            ⟨c.above.length, (c.before.dropWhile isWordChar).length - 1⟩).wordBefore = _
          rw [behind, List.length_cons, Nat.add_sub_cancel, atDot]
          rfl
        · have noDot : ¬some ch = some '.' := fun same => dot (Option.some.inj same)
          show (if some ch = some '.' then _ else Context.general) = _
          rw [if_neg noDot]
          split
          next same => exact absurd (List.cons.inj same).1 dot
          next => rfl

end Document

/-! ### The context at a position -/

/-- **The context is that of its grammar.**  At every position of every text, the context is
decided by the part of the line before the position: it is a module path if this part ends in the
word `import`, blanks and a dotted path; else a member access if it ends in a subject, a dot and
a word; and else anything.  Searches that go on to other lines find the same, and so does every
other position behind the same part of a line, in whatever text. -/
theorem Cursor.context_eq_iff (text : String) (p : Position) :
    let d := Document.ofText text
    let line := d.lineBefore p
    let context := (d.cursor p).context
    (context = .importPath ↔ Context.AsksForModules line) ∧
      (∀ subject, context = .memberAccess subject ↔
        ¬Context.AsksForModules line ∧ Context.AsksForMembers line subject) ∧
      (context = .general ↔
        ¬Context.AsksForModules line ∧ ∀ subject, ¬Context.AsksForMembers line subject) ∧
      d.searchedContext p = context ∧
      ∀ otherText q, (Document.ofText otherText).lineBefore q = line →
        ((Document.ofText otherText).cursor q).context = context := by
  intro d line context
  refine ⟨Context.ofLine_eq_importPath_iff, fun subject => Context.ofLine_eq_memberAccess_iff,
    Context.ofLine_eq_general_iff, d.searchedContext_eq p, ?_⟩
  intro otherText q same
  rw [Document.context_cursor, same]
  rfl

end QmlAssist
