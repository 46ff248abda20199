import QmlAssist.Proofs.Analysis.Climbing
import QmlAssist.Proofs.Catalog.Export
import QmlAssist.Proofs.Completion.Context
import QmlAssist.Proofs.Document.Offset
import QmlAssist.Proofs.Document.WholeWord
import QmlAssist.Proofs.Reference.Hover

/-!
# Names where they are written

A component has a name and an id is a name, and both are spelled with name characters.  Where a
name is written in a document, a cursor sees it through words, which are spelled with word
characters.  This module says when the two agree: a name is seen whole at the place where it is
written exactly if its characters are word characters too.  Then it can be hovered, it is found
in front of its block, and its members are offered behind a dot.  Otherwise no cursor of any
document sees it.

## Main Definitions

* `Document.placeAfter` — the place of a document behind a front part of its text.
* `IsAcceptedName` — a name that some export or some declaration has.
* `StandsApart` — what may stand around a name.
* `SeenWhole` — cursors at the place of a name see all of it and nothing else.

## Main Statements

* `Document.exists_line_of_split` — the line on which a document keeps a part of its text.
* `seenWhole_iff` — a name is seen whole if it is spelled with word characters.
* `seenWhole_iff_isWordChar` — the same, with what it means for an analysis.
-/

namespace QmlAssist

/-! ### Places of a text -/

namespace Text

theorem lastLine_append {middle : List Char} (feedless : '\n' ∉ middle) (front : List Char) :
    lastLine (front ++ middle) = lastLine front ++ middle := by
  unfold lastLine
  rw [List.reverse_append, List.takeWhile_append_of_pos, List.reverse_append,
    List.reverse_reverse]
  intro c member
  rw [bne_iff_ne]
  rintro rfl
  exact feedless (List.mem_reverse.1 member)

/-- The first piece of a text is its beginning. -/
theorem isPrefix_of_pieces {separator : Char} {cs piece : List Char} {others : List (List Char)}
    (cut : pieces separator cs = piece :: others) : piece <+: cs := by
  rw [← intercalate_pieces separator cs, cut]
  cases others with
  | nil => rw [List.intercalate_singleton]
  | cons other others =>
      rw [List.intercalate_cons_cons, List.append_assoc]
      exact List.prefix_append _ _

end Text

namespace Document

/-- The place of a document behind a front part of its text: its line feeds are counted, and the
characters of its unfinished line. -/
def placeAfter (front : String) : Position :=
  ⟨front.toList.count '\n', (Text.lastLine front.toList).length⟩

theorem placeAfter_append {front part : String} (feedless : '\n' ∉ part.toList) :
    placeAfter (front ++ part) =
      ⟨front.toList.count '\n', (Text.lastLine front.toList ++ part.toList).length⟩ := by
  rw [placeAfter, String.toList_append, List.count_append, List.count_eq_zero.2 feedless,
    Nat.add_zero, Text.lastLine_append feedless]

/-- A part of a text that holds no line ends is kept on one line, behind what its line begins
with and in front of more of the text. -/
theorem exists_line_of_split {text : String} {front middle rest : List Char}
    (split : text.toList = front ++ (middle ++ rest)) (feedless : '\n' ∉ middle)
    (returnless : '\r' ∉ middle) (nonempty : middle ≠ []) :
    front.count '\n' < (ofText text).lineCount ∧ ∃ back, back <+: rest ∧
      (ofText text).line (front.count '\n') = Text.lastLine front ++ (middle ++ back) := by
  obtain ⟨lines, last, rfl, feedless', feedless''⟩ := Text.exists_unlines front
  obtain ⟨piece, others, pieces⟩ := List.exists_cons_of_ne_nil (Text.pieces_ne_nil '\n' rest)
  have kept : dropReturn (last ++ (middle ++ piece)) = last ++ (middle ++ dropReturn piece) := by
    obtain ⟨c, more, rfl⟩ := List.exists_cons_of_ne_nil nonempty
    have other : c ≠ '\r' := fun same => returnless (by simp [same])
    rw [List.cons_append, dropReturn_append_cons last other,
      dropReturn_append fun member => returnless (List.mem_cons_of_mem _ member), List.cons_append]
  have allLines : (ofText text).lines = lines.map dropReturn ++
      (last ++ (middle ++ dropReturn piece)) :: others.map dropReturn := by
    show (Text.pieces '\n' text.toList).map dropReturn = _
    rw [split, List.append_assoc, Text.pieces_unlines feedless', Text.pieces_append feedless'',
      Text.pieces_append feedless, pieces, List.modifyHead_cons, List.modifyHead_cons,
      List.map_append, List.map_cons, kept]
  have height : (Text.unlines lines ++ last).count '\n' = (lines.map dropReturn).length := by
    rw [List.count_append, Text.count_unlines feedless', List.count_eq_zero.2 feedless'',
      Nat.add_zero, List.length_map]
  refine ⟨?_, dropReturn piece, ?_, ?_⟩
  · show _ < (ofText text).lines.length
    rw [height, allLines, List.length_append, List.length_cons]
    omega
  · have shorter : dropReturn piece <+: piece := by
      unfold dropReturn
      split
      · exact List.dropLast_prefix piece
      · exact List.prefix_refl piece
    exact shorter.trans (Text.isPrefix_of_pieces pieces)
  · rw [height, line, allLines, List.getElem?_append_right le_rfl, Nat.sub_self,
      Text.lastLine_unlines feedless'']
    rfl

end Document

/-! ### Names -/

/-- A name that a component has in some export, or that some declaration gives to a block. -/
def IsAcceptedName (name : String) : Prop :=
  (∃ text e, Export.parse? text = some e ∧ e.component = name) ∨
    ∃ text, ∃ d ∈ Declaration.all text, d.id = name

theorem Declaration.isName_of_mem_all {text : String} {d : Declaration}
    (member : d ∈ all text) : IsName d.id.toList := by
  refine Text.forall_mem_occurrencesAfter (P := fun d => IsName d.id.toList) ?_ _ _ _ d member
  intro before cs value length found
  simp only [pattern, Option.bind_eq_bind, Option.bind_eq_some_iff,
    Option.ite_none_left_eq_some, not_or, Option.some.injEq, Prod.mk.injEq] at found
  obtain ⟨afterWord, -, afterColon, -, ⟨-, nonempty⟩, rfl, -⟩ := found
  rw [String.toList_ofList]
  exact ⟨nonempty, List.all_takeWhile⟩

theorem IsAcceptedName.isName {name : String} (accepted : IsAcceptedName name) :
    IsName name.toList := by
  rcases accepted with ⟨text, e, parsed, rfl⟩ | ⟨text, d, member, rfl⟩
  · exact (Export.parse?_eq_some_iff.1 parsed).1.2.2.1
  · exact Declaration.isName_of_mem_all member

/-- A name holds no line ends. -/
theorem IsName.endless {name : List Char} (isName : IsName name) : '\n' ∉ name ∧ '\r' ∉ name :=
  ⟨isName.not_mem (by decide), isName.not_mem (by decide)⟩

/-- The text around a name keeps it apart: in front of it is nothing or a space, and behind it
nothing, a space, a dot or an opening brace. -/
structure StandsApart (before after : String) : Prop where
  behind : ∀ ch ∈ before.toList.getLast?, ch = ' '
  inFront : ∀ ch ∈ after.toList.head?, ch = ' ' ∨ ch = '.' ∨ ch = '{'

instance (before after : String) : Decidable (StandsApart before after) :=
  decidable_of_iff (before.toList.getLast?.all (· == ' ') = true ∧
    after.toList.head?.all (fun ch => ch == ' ' || ch == '.' || ch == '{') = true) <| by
  simp only [Option.all_eq_true, Bool.or_eq_true, beq_iff_eq, or_assoc]
  exact ⟨fun ⟨behind, inFront⟩ => ⟨behind, inFront⟩, fun ⟨behind, inFront⟩ => ⟨behind, inFront⟩⟩

/-- At the place of a name in a text, from its start to its end, cursors see the name and its
range, and at its end the name stands before the cursor. -/
structure SeenWhole (before name after : String) : Prop where
  wordAt? : ∀ part rest, name = part ++ rest →
    ((Document.ofText (before ++ name ++ after)).cursor
        (Document.placeAfter (before ++ part))).wordAt? =
      some (name, ⟨Document.placeAfter before, Document.placeAfter (before ++ name)⟩)
  wordBefore : ((Document.ofText (before ++ name ++ after)).cursor
    (Document.placeAfter (before ++ name))).wordBefore = name
  wordStart : ((Document.ofText (before ++ name ++ after)).cursor
    (Document.placeAfter (before ++ name))).wordStart = Document.placeAfter before

/-! ### Cursors see words -/

theorem Cursor.isWordChar_of_mem_wordBefore {c : Cursor} {ch : Char}
    (member : ch ∈ c.wordBefore.toList) : isWordChar ch = true := by
  rw [wordBefore, String.toList_ofList, List.mem_reverse] at member
  exact List.mem_takeWhile_imp member

theorem Cursor.isWordChar_of_wordAt? {c : Cursor} {word : String} {range : Range}
    (found : c.wordAt? = some (word, range)) {ch : Char} (member : ch ∈ word.toList) :
    isWordChar ch = true := by
  obtain ⟨front, left, right, back, touches⟩ := c.exists_touches
  rw [touches.wordAt?, Option.ite_none_left_eq_some, Option.some.injEq, Prod.mk.injEq] at found
  obtain ⟨-, rfl, -⟩ := found
  rw [String.toList_ofList, List.mem_append] at member
  rcases member with inLeft | inRight
  · exact touches.isWord_left ch inLeft
  · exact touches.isWord_right ch inRight

/-- A name that is no word is seen by no cursor of any document, whatever is in scope. -/
theorem unseen_of_not_isWordChar {name : String}
    (noWord : ¬∀ ch ∈ name.toList, isWordChar ch = true) (d : Document) (p : Position) :
    (∀ range, (d.cursor p).wordAt? ≠ some (name, range)) ∧ (d.cursor p).wordBefore ≠ name ∧
      (∀ a : Analysis, a.enclosingType? (d.cursor p) ≠ some name) ∧
      (d.cursor p).context ≠ .memberAccess name := by
  refine ⟨?_, ?_, ?_, ?_⟩
  · intro range found
    exact noWord fun _ => Cursor.isWordChar_of_wordAt? found
  · rintro rfl
    exact noWord fun _ => Cursor.isWordChar_of_mem_wordBefore
  · intro a found
    obtain ⟨⟨stop, -, rfl⟩, -⟩ := Analysis.exists_stop_of_enclosingType?_eq_some found
    exact noWord fun _ => Cursor.isWordChar_of_mem_wordBefore
  · intro context
    rw [Document.context_cursor, Context.ofLine_eq_memberAccess_iff] at context
    obtain ⟨-, front, word, -, -, isSubject, -⟩ := context
    exact noWord isSubject

/-! ### Words where they are written -/

section Written

variable {before name after : String}

/-- In front of a name that stands apart, its line ends outside of words. -/
theorem StandsApart.lastLine_stops (apart : StandsApart before after) :
    ∀ ch ∈ (Text.lastLine before.toList).getLast?, isWordChar ch = false := by
  intro ch last
  obtain ⟨above, whole⟩ := Text.lastLine_suffix before.toList
  have nonempty : Text.lastLine before.toList ≠ [] := by
    intro empty
    rw [empty] at last
    cases last
  rw [← List.getLast?_append_of_ne_nil above nonempty, whole] at last
  rw [apart.behind ch last]
  decide

theorem StandsApart.stops_of_isPrefix (apart : StandsApart before after) {back : List Char}
    (part : back <+: after.toList) : ∀ ch ∈ back.head?, isWordChar ch = false := by
  intro ch first
  obtain ⟨rest, whole⟩ := part
  have head : ch ∈ after.toList.head? := by
    rw [← whole, List.head?_append, Option.mem_def.1 first]
    rfl
  rcases apart.inFront ch head with rfl | rfl | rfl
  · decide
  · decide
  · decide

/-- Where a word stands apart, its line holds it as a whole word. -/
theorem StandsApart.exists_isWholeWord (apart : StandsApart before after)
    (isName : IsName name.toList) (isWord : ∀ ch ∈ name.toList, isWordChar ch = true) :
    let d := Document.ofText (before ++ name ++ after)
    let n := before.toList.count '\n'
    let start := (Text.lastLine before.toList).length
    let stop := start + name.toList.length
    n < d.lineCount ∧ Text.IsWholeWord (d.line n) start stop ∧
      (d.line n).extract start stop = name.toList := by
  have split : (before ++ name ++ after).toList =
      before.toList ++ (name.toList ++ after.toList) := by
    rw [String.toList_append, String.toList_append, List.append_assoc]
  obtain ⟨inside, back, part, line⟩ :=
    Document.exists_line_of_split split isName.endless.1 isName.endless.2 isName.1
  refine ⟨inside, ?_, ?_⟩
  · rw [line, Text.isWholeWord_part_iff isName.1]
    exact ⟨isWord, apart.lastLine_stops, apart.stops_of_isPrefix part⟩
  · rw [line]
    simp

/-- A name that stands apart is seen whole exactly if it is a word. -/
theorem seenWhole_iff (apart : StandsApart before after) (isName : IsName name.toList) :
    SeenWhole before name after ↔ ∀ ch ∈ name.toList, isWordChar ch = true := by
  have placeAfter : ∀ part rest, name = part ++ rest →
      Document.placeAfter (before ++ part) =
        ⟨before.toList.count '\n', (Text.lastLine before.toList).length + part.toList.length⟩ := by
    rintro part rest rfl
    rw [Document.placeAfter_append, List.length_append]
    intro member
    exact isName.endless.1 (by rw [String.toList_append]; exact List.mem_append_left _ member)
  constructor
  · intro seen
    rw [← seen.wordBefore]
    exact fun ch => Cursor.isWordChar_of_mem_wordBefore
  · intro isWord
    obtain ⟨inside, whole, extract⟩ := apart.exists_isWholeWord isName isWord
    have finds := fun q => Document.words_of_isWholeWord (q := q) inside whole
    have atEnd := placeAfter name "" String.append_empty.symm
    simp only [extract, String.ofList_toList] at finds
    obtain ⟨-, wordBefore, wordStart⟩ := finds _ (Nat.le_add_right _ name.toList.length) le_rfl
    rw [Nat.add_sub_cancel_left, List.take_length, String.ofList_toList] at wordBefore
    refine ⟨?_, ?_, ?_⟩
    · intro part rest cut
      have shorter : part.toList.length ≤ name.toList.length := by
        rw [cut, String.toList_append, List.length_append]
        exact Nat.le_add_right _ _
      rw [placeAfter part rest cut, atEnd]
      exact (finds _ (Nat.le_add_right _ _) (Nat.add_le_add_left shorter _)).1
    · rw [atEnd]
      exact wordBefore
    · rw [atEnd]
      exact wordStart

end Written

/-! ### What an analysis makes of a word -/

/-- The cursor behind a stretch of text without line ends has that stretch before it, and in
front of it what the line begins with. -/
theorem Document.before_cursor_placeAfter (front : String) {written : String} (rest : String)
    (feedless : '\n' ∉ written.toList) (returnless : '\r' ∉ written.toList)
    (nonempty : written ≠ "") :
    ((ofText (front ++ written ++ rest)).cursor (placeAfter (front ++ written))).before =
      written.toList.reverse ++ (Text.lastLine front.toList).reverse := by
  have split : (front ++ written ++ rest).toList =
      front.toList ++ (written.toList ++ rest.toList) := by
    rw [String.toList_append, String.toList_append, List.append_assoc]
  obtain ⟨inside, back, -, line⟩ :=
    exists_line_of_split split feedless returnless (by simpa using nonempty)
  rw [← List.append_assoc] at line
  rw [placeAfter_append feedless, cursor_of_line inside line, List.reverse_append]

/-- Behind the brace of a block, the innermost enclosing word is the one in front of the
brace. -/
theorem Analysis.enclosingType?_header {a : Analysis} {c : Cursor} {gap front : List Char}
    {word : String} (before : c.before = '{' :: (gap ++ (word.toList.reverse ++ front)))
    (wordless : ∀ ch ∈ gap, isWordChar ch = false) (nonempty : word.toList ≠ [])
    (isWord : ∀ ch ∈ word.toList, isWordChar ch = true)
    (stops : ∀ ch ∈ front.head?, isWordChar ch = false) (isType : a.isTypeName word = true) :
    a.enclosingType? c = some word := by
  have atBrace : c.findOutsideBraces? (· == '{') = some c := by
    obtain ⟨above, line, after⟩ := c
    obtain rfl : line = _ := before
    rfl
  have isWord' : ∀ ch ∈ word.toList.reverse, isWordChar ch = true := by
    intro ch member
    exact isWord ch (List.mem_reverse.1 member)
  -- between the brace and the word there is nothing that a search for words stops at
  have nearest : c.before.dropWhile (!isWordChar ·) = word.toList.reverse ++ front := by
    have passed : ∀ ch ∈ '{' :: gap, (!isWordChar ch) = true := by
      rw [List.forall_mem_cons]
      exact ⟨by decide, fun ch member => by rw [wordless ch member]; rfl⟩
    rw [before, ← List.cons_append]
    refine Text.dropWhile_run passed ?_
    obtain ⟨last, inner, reversed⟩ :=
      List.exists_cons_of_ne_nil (List.reverse_ne_nil_iff.2 nonempty)
    rw [reversed]
    rintro ch ⟨⟩
    rw [isWord' last (by rw [reversed]; exact List.mem_cons_self)]
    rfl
  have atWord : c.find? isWordChar = some ⟨c.above, word.toList.reverse ++ front,
      (c.before.takeWhile (!isWordChar ·)).reverse ++ c.after⟩ := by
    rw [← nearest]
    refine Cursor.find?_of_line ?_
    rw [nearest]
    exact List.append_ne_nil_of_left_ne_nil (List.reverse_ne_nil_iff.2 nonempty) front
  have found : c.enclosing? = c.find? isWordChar := by
    rw [Cursor.enclosing?, atBrace]
    exact Cursor.find?_stepBack before (by decide)
  have header : Cursor.wordBefore ⟨c.above, word.toList.reverse ++ front,
      (c.before.takeWhile (!isWordChar ·)).reverse ++ c.after⟩ = word := by
    rw [Cursor.wordBefore, Text.takeWhile_run isWord' stops, List.reverse_reverse,
      String.ofList_toList]
  rw [enclosingType?_of_some (found.trans atWord), header, if_pos isType]

section Seen

variable {before name after : String} (apart : StandsApart before after)
  (isName : IsName name.toList) (seen : SeenWhole before name after)
  {a : Analysis} (text : a.text = before ++ name ++ after)

include seen text

/-- A type that is seen whole can be hovered. -/
theorem SeenWhole.hover? (isType : a.isTypeName name = true) {part rest : String}
    (cut : name = part ++ rest) :
    ∃ h, a.hover? (Document.placeAfter (before ++ part)) = some h ∧
      h.range = ⟨Document.placeAfter before, Document.placeAfter (before ++ name)⟩ := by
  refine ⟨⟨_, _⟩, Analysis.hover?_eq_some_iff.2
    ⟨name, ?_, isType, _, a.firstOccurrences_referenceUrls name, rfl⟩, rfl⟩
  rw [text]
  exact seen.wordAt? part rest cut

include apart isName

/-- A type that is seen whole in front of a brace is the type of the block. -/
theorem SeenWhole.enclosingType? (isType : a.isTypeName name = true) {gap rest : String}
    (block : after = gap ++ "\x7b" ++ rest) (spaces : ∀ ch ∈ gap.toList, ch = ' ') :
    a.enclosingType? ((Document.ofText a.text).cursor
      (Document.placeAfter (before ++ (name ++ gap ++ "\x7b")))) = some name := by
  have header : (name ++ gap ++ "\x7b").toList = name.toList ++ (gap.toList ++ ['{']) := by
    simp
  have endless : ∀ ch, ch = '\n' ∨ ch = '\r' → ch ∉ (name ++ gap ++ "\x7b").toList := by
    intro ch lineEnd member
    rw [header, List.mem_append, List.mem_append, List.mem_singleton] at member
    rcases member with inName | inGap | rfl
    · rcases lineEnd with rfl | rfl
      · exact isName.endless.1 inName
      · exact isName.endless.2 inName
    · rw [spaces ch inGap] at lineEnd
      exact absurd lineEnd (by decide)
    · exact absurd lineEnd (by decide)
  have whole : a.text = before ++ (name ++ gap ++ "\x7b") ++ rest := by
    rw [text, block]
    simp only [String.append_assoc]
  have line : ((Document.ofText a.text).cursor
      (Document.placeAfter (before ++ (name ++ gap ++ "\x7b")))).before =
        '{' :: (gap.toList.reverse ++ (name.toList.reverse ++
          (Text.lastLine before.toList).reverse)) := by
    rw [whole, Document.before_cursor_placeAfter before rest (endless '\n' (Or.inl rfl))
      (endless '\r' (Or.inr rfl)) (by simp), header]
    simp
  refine Analysis.enclosingType?_header line ?_ isName.1 ((seenWhole_iff apart isName).1 seen) ?_
    isType
  · intro ch member
    rw [spaces ch (List.mem_reverse.1 member)]
    decide
  · rw [List.head?_reverse]
    exact apart.lastLine_stops

/-- Behind a dot, the members of what is seen whole in front of it are offered, except in an
import. -/
theorem SeenWhole.complete {rest : String} (dotted : after = "." ++ rest)
    (noImport : ¬Context.AsksForModules (Text.lastLine (before ++ (name ++ ".")).toList)) :
    a.complete (Document.placeAfter (before ++ (name ++ "."))) = a.subjectMembers name := by
  have endless : '\n' ∉ (name ++ ".").toList ∧ '\r' ∉ (name ++ ".").toList := by
    simpa using isName.endless
  have whole : a.text = before ++ (name ++ ".") ++ rest := by
    rw [text, dotted]
    simp only [String.append_assoc]
  have line := Document.before_cursor_placeAfter before rest endless.1 endless.2 (by simp)
  have lastLine : Text.lastLine (before ++ (name ++ ".")).toList =
      Text.lastLine before.toList ++ (name ++ ".").toList := by
    rw [String.toList_append, Text.lastLine_append endless.1]
  have asks : Context.AsksForMembers (Text.lastLine (before ++ (name ++ ".")).toList) name := by
    refine ⟨Text.lastLine before.toList, [], ?_, apart.lastLine_stops,
      (seenWhole_iff apart isName).1 seen, List.forall_mem_nil _⟩
    rw [lastLine]
    simp
  have context : ((Document.ofText a.text).cursor
      (Document.placeAfter (before ++ (name ++ ".")))).context = .memberAccess name := by
    rw [whole, Cursor.context, line, ← List.reverse_append, ← lastLine,
      Context.ofLine_eq_memberAccess_iff]
    exact ⟨noImport, asks⟩
  simp only [Analysis.complete, context]

end Seen

/-- **When a written name is seen.**  A name that an export or a declaration has is seen whole
where it stands apart exactly if it is spelled with word characters.  A name that is seen whole
serves an analysis of the text: if it is the name of a type, it can be hovered at each of its
characters, and it is the type of the block that it stands in front of; and its members are
offered behind a dot.  A name with any other character is seen by no cursor of any document, as
the name of a type, as the type of a block or as the subject of a dot. -/
theorem seenWhole_iff_isWordChar {name : String} (accepted : IsAcceptedName name) :
    (∀ before after, StandsApart before after →
      (SeenWhole before name after ↔ ∀ ch ∈ name.toList, isWordChar ch = true)) ∧
    (∀ before after, StandsApart before after → SeenWhole before name after →
      ∀ a : Analysis, a.text = before ++ name ++ after →
      (a.isTypeName name = true → ∀ part rest, name = part ++ rest →
        ∃ h, a.hover? (Document.placeAfter (before ++ part)) = some h ∧
          h.range = ⟨Document.placeAfter before, Document.placeAfter (before ++ name)⟩) ∧
      (a.isTypeName name = true → ∀ gap rest, after = gap ++ "\x7b" ++ rest →
        (∀ ch ∈ gap.toList, ch = ' ') →
        a.enclosingType? ((Document.ofText a.text).cursor
          (Document.placeAfter (before ++ (name ++ gap ++ "\x7b")))) = some name) ∧
      ∀ rest, after = "." ++ rest →
        ¬Context.AsksForModules (Text.lastLine (before ++ (name ++ ".")).toList) →
        a.complete (Document.placeAfter (before ++ (name ++ "."))) = a.subjectMembers name) ∧
    ((¬∀ ch ∈ name.toList, isWordChar ch = true) → ∀ (d : Document) (p : Position),
      (∀ range, (d.cursor p).wordAt? ≠ some (name, range)) ∧ (d.cursor p).wordBefore ≠ name ∧
      (∀ a : Analysis, a.enclosingType? (d.cursor p) ≠ some name) ∧
      (d.cursor p).context ≠ .memberAccess name) := by
  have isName := accepted.isName
  refine ⟨fun before after apart => seenWhole_iff apart isName, ?_, unseen_of_not_isWordChar⟩
  intro before after apart seen a text
  refine ⟨?_, ?_, ?_⟩
  · intro isType part rest cut
    exact seen.hover? text isType cut
  · intro isType gap rest block spaces
    exact seen.enclosingType? apart isName text isType block spaces
  · intro rest dotted noImport
    exact seen.complete apart isName text dotted noImport

/-- A name with letters outside ASCII, in front of its block. -/
theorem seenWhole_iff_isWordChar_accents :
    let text := "import M\n " ++ "Été" ++ " \x7b"
    let a := Analysis.ofText (Catalog.ofTypeName "Été") text
    IsAcceptedName "Été" ∧ StandsApart "import M\n " " \x7b" ∧
      SeenWhole "import M\n " "Été" " \x7b" ∧
      (∃ h, a.hover? ⟨1, 2⟩ = some h ∧ h.range = ⟨⟨1, 1⟩, ⟨1, 4⟩⟩) ∧
      a.enclosingType? ((Document.ofText text).cursor ⟨1, 6⟩) = some "Été" := by
  intro text a
  have accepted : IsAcceptedName "Été" :=
    Or.inl ⟨"M/Été 1", ⟨["M"], "Été", "1"⟩, by decide +kernel, rfl⟩
  have apart : StandsApart "import M\n " " \x7b" := by decide +kernel
  have isType : a.isTypeName "Été" = true := by decide +kernel
  obtain ⟨whole, serves, -⟩ := seenWhole_iff_isWordChar accepted
  have seen := (whole _ _ apart).2 (List.all_eq_true.1 (by decide +kernel))
  obtain ⟨hovered, found, -⟩ := serves _ _ apart seen a rfl
  refine ⟨accepted, apart, seen, ?_, ?_⟩
  · exact hovered isType "É" "té" (by decide)
  · exact found isType " " "" (by decide) (by simp)

/-- A letter with a combining accent is accepted as a name, and cursors see the letter alone: its
type is not hovered, and is not found in front of its block. -/
theorem not_seenWhole :
    let text := "import M\nE\u0301 \x7b"
    let a := Analysis.ofText (Catalog.ofTypeName "E\u0301") text
    IsAcceptedName "E\u0301" ∧ StandsApart "" "" ∧ ¬SeenWhole "" "E\u0301" "" ∧
      ((Document.ofText "E\u0301").cursor ⟨0, 0⟩).wordAt? = some ("E", ⟨⟨0, 0⟩, ⟨0, 1⟩⟩) ∧
      a.isTypeName "E\u0301" = true ∧ a.hover? ⟨1, 0⟩ = none ∧
      a.enclosingType? ((Document.ofText text).cursor ⟨1, 4⟩) = none := by
  intro text a
  have shown : ((Document.ofText "E\u0301").cursor ⟨0, 0⟩).wordAt? =
      some ("E", ⟨⟨0, 0⟩, ⟨0, 1⟩⟩) := by
    decide +kernel
  refine ⟨Or.inl ⟨"M/E\u0301 1", ⟨["M"], "E\u0301", "1"⟩, by decide +kernel, rfl⟩,
    by decide, ?_, shown, by decide +kernel, by decide +kernel, by decide +kernel⟩
  intro seen
  have whole : ((Document.ofText "E\u0301").cursor ⟨0, 0⟩).wordAt? =
      some ("E\u0301", ⟨⟨0, 0⟩, ⟨0, 2⟩⟩) := seen.wordAt? "" "E\u0301" rfl
  rw [shown] at whole
  exact absurd whole (by decide)

end QmlAssist
