import Mathlib.Order.Bounds.Basic
import QmlAssist.Proofs.Document.ReadingOrder

/-!
# Characters outside closed blocks

A search that passes over closed blocks counts braces while it reads backward, and never below
zero.  This module says which character it finds, without counting: the last one of its kind
behind which no block is closed that was not opened there.  For opening braces that is the
innermost brace that a matcher which reads forward has left open.

## Main Definitions

* `Text.closedDepth` — the count with which a search leaves a text in front.
* `Text.StandsOutside` — a character of a kind that stands outside closed blocks.
* `Text.braceStack` — the places of the braces that a matcher has left open.

## Main Statements

* `Text.closedDepth_le_iff` — the count in terms of the braces of the parts of a text.
* `Text.isGreatest_of_searchBack` — a search finds the last character that stands outside.
* `Text.braceStack_eq` — the matcher leaves open what `Text.openBlocks` says.
* `Cursor.position_findOutsideBraces?` — the position that a cursor's search reports.

## Design Notes

Because the count stops at zero, a surplus of opening braces is forgotten, and only what lies
between a brace and the place that the search has come to can still hide that place.  So the
count is at most `depth` exactly if every front part of what was read has at most `depth` more
closing than opening braces; the bound is part of the statement, since an opening brace lowers
the count and the induction needs the statement for the bound above.
-/

namespace QmlAssist

namespace Text

/-! ### Counting braces backward -/

/-- The depth in closed blocks at the front of a text that is read backward. -/
def closedDepth (text : List Char) : Nat :=
  text.foldr (fun ch depth => Cursor.passBrace depth ch) 0

@[simp]
theorem closedDepth_nil : closedDepth [] = 0 := rfl

theorem closedDepth_cons (ch : Char) (text : List Char) :
    closedDepth (ch :: text) = Cursor.passBrace (closedDepth text) ch := rfl

theorem forall_prefix_cons_iff {ch : Char} {text : List Char} {depth : Nat} :
    (∀ front, front <+: ch :: text → front.count '}' ≤ front.count '{' + depth) ↔
      ∀ front, front <+: text → (ch :: front).count '}' ≤ (ch :: front).count '{' + depth := by
  constructor
  · intro bound front part
    exact bound _ (List.cons_prefix_cons.2 ⟨rfl, part⟩)
  · intro bound front part
    rcases List.prefix_cons_iff.1 part with rfl | ⟨rest, rfl, inside⟩
    · exact Nat.zero_le _
    · exact bound rest inside

/-- The depth is bounded exactly if the surplus of closing braces is, in every part that the
text begins with. -/
theorem closedDepth_le_iff {text : List Char} {depth : Nat} :
    closedDepth text ≤ depth ↔
      ∀ front, front <+: text → front.count '}' ≤ front.count '{' + depth := by
  induction text generalizing depth with
  | nil => simp
  | cons ch text ih =>
      rw [closedDepth_cons, forall_prefix_cons_iff, Cursor.passBrace]
      by_cases closing : ch = '}'
      · subst closing
        rw [if_pos rfl]
        cases depth with
        | zero =>
            -- the brace alone is a part with a surplus
            refine iff_of_false (Nat.not_succ_le_zero _) ?_
            intro bound
            exact absurd (bound [] List.nil_prefix) (by decide)
        | succ depth =>
            rw [Nat.succ_le_succ_iff, ih]
            refine forall₂_congr fun front _ => ?_
            rw [List.count_cons_self, List.count_cons_of_ne (by decide)]
            omega
      by_cases opening : ch = '{'
      · subst opening
        rw [if_neg closing, if_pos rfl, Nat.sub_le_iff_le_add, ih]
        refine forall₂_congr fun front _ => ?_
        rw [List.count_cons_self, List.count_cons_of_ne closing]
        omega
      · rw [if_neg closing, if_neg opening, ih]
        refine forall₂_congr fun front _ => ?_
        rw [List.count_cons_of_ne closing, List.count_cons_of_ne opening]

/-! ### Characters that stand outside -/

/-- The character at a place is of a kind, and what follows it closes no block that it does
not open: no part that follows directly has more closing than opening braces. -/
def StandsOutside (pattern : Char → Bool) (text : List Char) (k : Nat) : Prop :=
  (∃ ch, text[k]? = some ch ∧ pattern ch = true) ∧
    ∀ front, front <+: text.drop (k + 1) → front.count '}' ≤ front.count '{'

variable {pattern : Char → Bool}

theorem standsOutside_append_iff {front rest : List Char} {ch : Char} :
    StandsOutside pattern (front ++ ch :: rest) front.length ↔
      closedDepth rest = 0 ∧ pattern ch = true := by
  have behind : (front ++ ch :: rest).drop (front.length + 1) = rest := by simp
  rw [StandsOutside, behind, ← Nat.le_zero, closedDepth_le_iff]
  simp [and_comm]

theorem StandsOutside.lt_length {text : List Char} {k : Nat}
    (stands : StandsOutside pattern text k) : k < text.length := by
  obtain ⟨⟨ch, here, -⟩, -⟩ := stands
  exact (List.getElem?_eq_some_iff.1 here).1

/-- One step of a search that passes over closed blocks. -/
def outsideStep (pattern : Char → Bool) (depth : Nat) (ch : Char) : Option Nat :=
  if depth = 0 && pattern ch then none else some (Cursor.passBrace depth ch)

/-- A search ends at a character that stands outside, or goes on with the depth in front of
it.  What was read before is `rest`. -/
theorem searchBack_outsideStep_cons (ch : Char) (before rest : List Char) :
    searchBack (outsideStep pattern) (closedDepth rest) (ch :: before) =
      if closedDepth rest = 0 ∧ pattern ch = true then some (ch :: before)
      else searchBack (outsideStep pattern) (closedDepth (ch :: rest)) before := by
  rw [searchBack, outsideStep]
  by_cases ends : closedDepth rest = 0 ∧ pattern ch = true
  · simp [ends]
  · have goesOn : (decide (closedDepth rest = 0) && pattern ch) = false := by
      simpa using ends
    rw [if_neg ends, goesOn]
    rfl

section Search

variable {before rest : List Char}

theorem not_standsOutside_of_searchBack
    (missed : searchBack (outsideStep pattern) (closedDepth rest) before = none) :
    ∀ k < before.length, ¬StandsOutside pattern (before.reverse ++ rest) k := by
  induction before generalizing rest with
  | nil => simp
  | cons ch before ih =>
      rw [searchBack_outsideStep_cons] at missed
      split at missed
      next => cases missed
      next inside =>
        intro k lt
        rw [List.reverse_cons, List.append_assoc, List.singleton_append]
        rcases Nat.lt_succ_iff_lt_or_eq.1 lt with earlier | rfl
        · exact ih missed k earlier
        · rwa [← List.length_reverse, standsOutside_append_iff]

/-- A search finds the last of the characters that stand outside.  The induction is along the
search, which has read `rest` when it comes to the end of `before`. -/
theorem isGreatest_of_searchBack {ch : Char} {found : List Char}
    (search : searchBack (outsideStep pattern) (closedDepth rest) before = some (ch :: found)) :
    IsGreatest { k | k < before.length ∧ StandsOutside pattern (before.reverse ++ rest) k }
      found.length := by
  induction before generalizing rest with
  | nil => cases search
  | cons first before ih =>
      rw [searchBack_outsideStep_cons] at search
      rw [List.reverse_cons, List.append_assoc, List.singleton_append]
      split at search
      next outside =>
        obtain ⟨rfl, rfl⟩ := List.cons.inj (Option.some.inj search)
        refine ⟨⟨Nat.lt_succ_self _, ?_⟩, fun k stands => Nat.le_of_lt_succ stands.1⟩
        rwa [← List.length_reverse, standsOutside_append_iff]
      next inside =>
        obtain ⟨⟨lt, stands⟩, greatest⟩ := ih search
        refine ⟨⟨Nat.lt_succ_of_lt lt, stands⟩, ?_⟩
        rintro k ⟨bound, other⟩
        rcases Nat.lt_succ_iff_lt_or_eq.1 bound with earlier | rfl
        · exact greatest ⟨earlier, other⟩
        · rw [← List.length_reverse, standsOutside_append_iff] at other
          exact absurd other inside

end Search

/-- A search of a whole text finds the last character that stands outside, if there is one. -/
theorem searchBack_outsideStep_reverse (text : List Char) :
    (searchBack (outsideStep pattern) 0 text.reverse = none →
        ∀ k, ¬StandsOutside pattern text k) ∧
      ∀ ch found, searchBack (outsideStep pattern) 0 text.reverse = some (ch :: found) →
        IsGreatest { k | StandsOutside pattern text k } found.length := by
  have whole : text.reverse.reverse ++ [] = text := by
    rw [List.reverse_reverse, List.append_nil]
  rw [← closedDepth_nil]
  constructor
  · intro missed k stands
    have lt : k < text.reverse.length := by
      rw [List.length_reverse]
      exact stands.lt_length
    exact not_standsOutside_of_searchBack missed k lt (whole.symm ▸ stands)
  · intro ch found search
    have greatest := isGreatest_of_searchBack search
    rw [whole, List.length_reverse] at greatest
    refine ⟨greatest.1.2, fun k stands => greatest.2 ⟨stands.lt_length, stands⟩⟩

/-! ### The matcher of braces -/

/-- One step of a matcher of braces that reads forward. -/
def matchBrace (stack : List Nat) : Char × Nat → List Nat
  | (ch, place) =>
      if ch = '{' then place :: stack
      else if ch = '}' then stack.tail
      else stack

/-- The places of the braces that a matcher has left open, the innermost first. -/
def braceStack (text : List Char) : List Nat :=
  text.zipIdx.foldl matchBrace []

/-- The matcher leaves open the blocks of the text. -/
theorem braceStack_eq (text : List Char) :
    braceStack text = (openBlocks text.reverse).map List.length := by
  induction text using List.reverseRecOn with
  | nil => rfl
  | append_singleton text ch ih =>
      have step : braceStack (text ++ [ch]) = matchBrace (braceStack text) (ch, text.length) := by
        unfold braceStack
        rw [List.zipIdx_append, List.foldl_append, Nat.zero_add]
        rfl
      rw [step, ih, List.reverse_append, List.reverse_singleton, List.singleton_append, matchBrace,
        openBlocks]
      split
      · rw [List.map_cons, List.length_reverse]
      · split
        · exact List.map_tail.symm
        · rfl

/-- A search for opening braces comes to the innermost block that is left open. -/
theorem searchBack_outsideStep_open (text : List Char) :
    searchBack (outsideStep (· == '{')) 0 text.reverse =
      (openBlocks text.reverse).head?.map ('{' :: ·) := by
  rw [List.head?_eq_getElem?]
  exact searchBack_openBlocks 0 text.reverse

end Text

/-! ### Searches of a cursor -/

namespace Cursor

open Text

variable {pattern : Char → Bool} {c found : Cursor}

/-- What a cursor finds outside closed blocks is the last character that stands outside. -/
theorem exists_of_findOutsideBraces?_eq_some (search : c.findOutsideBraces? pattern = some found) :
    ∃ k ch, IsGreatest { k | StandsOutside pattern (c.placed.map Prod.fst) k } k ∧
      c.placed[k]? = some (ch, found.position) := by
  obtain ⟨ch, text, flat, here⟩ := exists_of_search?_eq_some search
  exact ⟨text.length, ch, (searchBack_outsideStep_reverse _).2 ch text flat, here⟩

theorem findOutsideBraces?_eq_none_iff :
    c.findOutsideBraces? pattern = none ↔
      ∀ k, ¬StandsOutside pattern (c.placed.map Prod.fst) k := by
  constructor
  · intro search
    have flat := map_spelled_search?_placed (outsideStep pattern) 0 c
    rw [show c.search? (outsideStep pattern) 0 = none from search, Option.map_none] at flat
    exact (searchBack_outsideStep_reverse _).1 flat.symm
  · intro allInside
    cases search : c.findOutsideBraces? pattern with
    | none => rfl
    | some found =>
        obtain ⟨k, ch, greatest, -⟩ := exists_of_findOutsideBraces?_eq_some search
        exact absurd greatest.1 (allInside k)

theorem findOutsideBraces?_open_eq_none_iff :
    c.findOutsideBraces? (· == '{') = none ↔ braceStack (c.placed.map Prod.fst) = [] := by
  have flat := map_spelled_search?_placed (outsideStep (· == '{')) 0 c
  rw [searchBack_outsideStep_open] at flat
  rw [braceStack_eq, List.map_eq_nil_iff, ← List.head?_eq_none_iff]
  constructor
  · intro search
    rw [show c.search? (outsideStep (· == '{')) 0 = none from search, Option.map_none] at flat
    exact Option.map_eq_none_iff.1 flat.symm
  · intro empty
    rw [empty, Option.map_none] at flat
    exact Option.map_eq_none_iff.1 flat

theorem getElem?_of_findOutsideBraces?_open {top : Nat} {outer : List Nat}
    (search : c.findOutsideBraces? (· == '{') = some found)
    (stack : braceStack (c.placed.map Prod.fst) = top :: outer) :
    c.placed[top]? = some ('{', found.position) := by
  obtain ⟨ch, text, flat, here⟩ := exists_of_search?_eq_some search
  rw [braceStack_eq, List.map_eq_cons_iff] at stack
  obtain ⟨block, blocks, blocks_eq, rfl, -⟩ := stack
  have atBrace := searchBack_outsideStep_open (c.placed.map Prod.fst)
  rw [blocks_eq, List.head?_cons, Option.map_some] at atBrace
  obtain ⟨rfl, rfl⟩ := List.cons.inj (Option.some.inj (flat.symm.trans atBrace))
  exact here

/-- **What a search outside closed blocks finds.**  Take the characters of a text before a
position in reading order.  The search reports the position after the last character of its
kind behind which no part has more closing than opening braces, and the origin exactly if
there is none.  A search for opening braces reports the one on top of the stack of a matcher
that reads these characters forward, and the origin exactly if the stack is empty. -/
theorem position_findOutsideBraces? (text : String) (p : Position) (pattern : Char → Bool) :
    let d := Document.ofText text
    let placed := d.placedBefore p
    let chars := placed.map Prod.fst
    let report := fun pattern =>
      Position.ofSearch (((d.cursor p).findOutsideBraces? pattern).map position)
    (report pattern = .origin ↔ ∀ k, ¬StandsOutside pattern chars k) ∧
      (report pattern ≠ .origin →
        ∃ k ch, IsGreatest { k | StandsOutside pattern chars k } k ∧
          placed[k]? = some (ch, report pattern)) ∧
      (report (· == '{') = .origin ↔ braceStack chars = []) ∧
      ∀ top outer, braceStack chars = top :: outer →
        placed[top]? = some ('{', report (· == '{')) := by
  intro d
  rw [← placed_cursor]
  intro placed chars report
  have nothing : ∀ pattern, report pattern = .origin ↔
      (d.cursor p).findOutsideBraces? pattern = none := fun _ => ofSearch_eq_origin_iff
  have something : ∀ pattern, report pattern ≠ .origin →
      ∃ found, (d.cursor p).findOutsideBraces? pattern = some found ∧
        report pattern = found.position := by
    intro pattern reported
    obtain ⟨found, search⟩ := Option.ne_none_iff_exists'.1 (mt (nothing pattern).2 reported)
    refine ⟨found, search, ?_⟩
    simp only [report, search]
    rfl
  have empty : report (· == '{') = .origin ↔ braceStack chars = [] :=
    (nothing _).trans findOutsideBraces?_open_eq_none_iff
  refine ⟨(nothing pattern).trans findOutsideBraces?_eq_none_iff, ?_, empty, ?_⟩
  · intro reported
    obtain ⟨found, search, position_eq⟩ := something pattern reported
    rw [position_eq]
    exact exists_of_findOutsideBraces?_eq_some search
  · intro top outer stack
    have reported : report (· == '{') ≠ .origin := by
      rw [ne_eq, empty, stack]
      exact List.cons_ne_nil _ _
    obtain ⟨found, search, position_eq⟩ := something _ reported
    rw [position_eq]
    exact getElem?_of_findOutsideBraces?_open search stack

end Cursor

end QmlAssist
