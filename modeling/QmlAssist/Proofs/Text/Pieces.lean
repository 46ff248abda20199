import QmlAssist.Proofs.Text.Occurrence
import QmlAssist.Text.Pieces

/-!
# Laws of trimming and cutting

Each function that takes a text apart is told by how its parts make up the text again.  What
the parts may hold is part of the law, so a text can be taken apart in one way only.

## Main Statements

* `cut_eq_some_iff` — the first part of a cut is free of the separator.
* `pieces_eq_iff` — the pieces of a text are free of the separator, and joined they are the text.
* `trim_eq_iff` — a trimmed text lies between blanks and has none at its ends.
-/

namespace QmlAssist.Text

/-! ### Cutting at the first separator -/

theorem cut_eq_some_iff {separator : Char} {cs front back : List Char} :
    cut separator cs = some (front, back) ↔
      separator ∉ front ∧ cs = front ++ separator :: back := by
  constructor
  · intro found
    obtain ⟨before, stops⟩ := takeWhile_dropWhile_run (· != separator) cs
    have whole := List.takeWhile_append_dropWhile (p := (· != separator)) (l := cs)
    rw [cut] at found
    split at found
    next => cases found
    next first rest after =>
      rw [after] at stops whole
      obtain rfl : first = separator := by simpa using stops first rfl
      rw [Option.some.injEq, Prod.mk.injEq] at found
      obtain ⟨rfl, rfl⟩ := found
      refine ⟨fun member => ?_, whole.symm⟩
      simpa using before _ member
  · rintro ⟨absent, rfl⟩
    have before : ∀ c ∈ front, (c != separator) = true := by
      intro c member
      rw [bne_iff_ne]
      rintro rfl
      exact absent member
    have stops : ∀ c ∈ (separator :: back).head?, (c != separator) = false := by simp
    rw [cut, dropWhile_run before stops, takeWhile_run before stops]

/-! ### Pieces between separators -/

/-- Pieces are what the list library splits a text into. -/
theorem pieces_eq_splitOn (separator : Char) (cs : List Char) :
    pieces separator cs = cs.splitOn separator := by
  induction cs with
  | nil => rw [pieces, List.splitOn_nil]
  | cons c rest ih =>
      rw [pieces, ih, List.splitOn_cons_eq_if_modifyHead]
      simp only [beq_iff_eq]

theorem intercalate_pieces (separator : Char) (cs : List Char) :
    [separator].intercalate (pieces separator cs) = cs := by
  rw [pieces_eq_splitOn, List.intercalate_splitOn]

theorem pieces_intercalate {separator : Char} {parts : List (List Char)} (nonempty : parts ≠ [])
    (absent : ∀ part ∈ parts, separator ∉ part) :
    pieces separator ([separator].intercalate parts) = parts := by
  rw [pieces_eq_splitOn, List.splitOn_intercalate separator absent nonempty]

theorem not_mem_of_mem_pieces {separator : Char} {cs piece : List Char}
    (member : piece ∈ pieces separator cs) : separator ∉ piece := by
  induction cs generalizing piece with
  | nil =>
      rw [pieces, List.mem_singleton] at member
      rw [member]
      exact List.not_mem_nil
  | cons c rest ih =>
      obtain ⟨first, others, split⟩ := List.exists_cons_of_ne_nil (pieces_ne_nil separator rest)
      rw [split] at ih
      rw [pieces, split] at member
      split at member
      next =>
        rcases List.mem_cons.1 member with rfl | later
        · exact List.not_mem_nil
        · exact ih later
      next other =>
        rcases List.mem_cons.1 member with rfl | later
        · simp only [List.mem_cons, not_or]
          exact ⟨Ne.symm other, ih List.mem_cons_self⟩
        · exact ih (List.mem_cons_of_mem _ later)

theorem pieces_eq_iff {separator : Char} {cs : List Char} {parts : List (List Char)} :
    pieces separator cs = parts ↔
      parts ≠ [] ∧ (∀ part ∈ parts, separator ∉ part) ∧ cs = [separator].intercalate parts := by
  constructor
  · rintro rfl
    exact ⟨pieces_ne_nil _ _, fun _ => not_mem_of_mem_pieces, (intercalate_pieces _ _).symm⟩
  · rintro ⟨nonempty, absent, rfl⟩
    exact pieces_intercalate nonempty absent

theorem mem_intercalate {separator c : Char} {parts : List (List Char)}
    (member : c ∈ [separator].intercalate parts) : c = separator ∨ ∃ part ∈ parts, c ∈ part := by
  induction parts with
  | nil => cases member
  | cons part parts ih =>
      cases parts with
      | nil =>
          rw [List.intercalate_singleton] at member
          exact Or.inr ⟨part, List.mem_cons_self, member⟩
      | cons next parts =>
          rw [List.intercalate_cons_cons, List.append_assoc, List.mem_append, List.mem_append,
            List.mem_singleton] at member
          rcases member with here | isSeparator | later
          · exact Or.inr ⟨part, List.mem_cons_self, here⟩
          · exact Or.inl isSeparator
          · refine (ih later).imp_right ?_
            rintro ⟨found, among, inside⟩
            exact ⟨found, List.mem_cons_of_mem _ among, inside⟩

theorem mem_intercalate_of_mem {separator c : Char} {parts : List (List Char)} {part : List Char}
    (among : part ∈ parts) (inside : c ∈ part) : c ∈ [separator].intercalate parts := by
  induction parts with
  | nil => cases among
  | cons first parts ih =>
      cases parts with
      | nil =>
          rw [List.mem_singleton.1 among] at inside
          rwa [List.intercalate_singleton]
      | cons next parts =>
          rw [List.intercalate_cons_cons, List.append_assoc]
          rcases List.mem_cons.1 among with rfl | later
          · exact List.mem_append_left _ inside
          · exact List.mem_append_right _ (List.mem_append_right _ (ih later))

theorem intercalate_concat {separator : Char} {parts : List (List Char)} (nonempty : parts ≠ [])
    (last : List Char) :
    [separator].intercalate (parts ++ [last]) =
      [separator].intercalate parts ++ separator :: last := by
  induction parts with
  | nil => exact absurd rfl nonempty
  | cons part parts ih =>
      cases parts with
      | nil =>
          rw [List.singleton_append, List.intercalate_cons_cons, List.intercalate_singleton,
            List.intercalate_singleton, List.append_assoc, List.singleton_append]
      | cons next parts =>
          have later := ih (List.cons_ne_nil next parts)
          rw [List.cons_append] at later
          rw [List.cons_append, List.cons_append, List.intercalate_cons_cons, later,
            List.intercalate_cons_cons]
          simp only [List.append_assoc]

/-- Behind its last separator, a text has its last piece. -/
theorem pieces_append_cons {separator : Char} {part : List Char} (absent : separator ∉ part)
    (front : List Char) :
    pieces separator (front ++ separator :: part) = pieces separator front ++ [part] := by
  rw [pieces_eq_iff]
  refine ⟨by simp, ?_, ?_⟩
  · rw [List.forall_mem_append]
    exact ⟨fun _ => not_mem_of_mem_pieces, List.forall_mem_singleton.2 absent⟩
  · rw [intercalate_concat (pieces_ne_nil separator front), intercalate_pieces]

/-- Joined texts that are free of the separator can be told apart. -/
theorem intercalate_inj {separator : Char} {parts parts' : List (List Char)}
    (nonempty : parts ≠ []) (nonempty' : parts' ≠ [])
    (absent : ∀ part ∈ parts, separator ∉ part) (absent' : ∀ part ∈ parts', separator ∉ part)
    (joined : [separator].intercalate parts = [separator].intercalate parts') :
    parts = parts' := by
  rw [← pieces_intercalate nonempty absent, joined, pieces_intercalate nonempty' absent']

/-! ### Trimming -/

theorem trim_eq_iff {cs core : List Char} :
    trim cs = core ↔ ∃ before after, cs = before ++ (core ++ after) ∧
      (∀ c ∈ before, isBlank c = true) ∧ (∀ c ∈ after, isBlank c = true) ∧
      (∀ c ∈ core.head?, isBlank c = false) ∧ ∀ c ∈ core.getLast?, isBlank c = false := by
  constructor
  · intro trimmed
    obtain ⟨before, whole, blank, visible⟩ := dropWhile_eq_iff.1 (rfl : trimStart cs = trimStart cs)
    obtain ⟨after, rest, blank', visible'⟩ := dropWhile_eq_iff.1 (List.reverse_eq_iff.1 trimmed)
    have rest : trimStart cs = core ++ after.reverse := by
      rw [← List.reverse_reverse core, ← List.reverse_append, ← rest, List.reverse_reverse]
    rw [rest] at whole visible
    refine ⟨before, after.reverse, whole, blank, by simpa using blank', ?_, ?_⟩
    · intro c first
      exact visible c (by rw [List.head?_append, Option.mem_def.1 first]; rfl)
    · rwa [List.head?_reverse] at visible'
  · rintro ⟨before, after, rfl, blank, blank', visible, visible'⟩
    rw [trim, trimStart, trimStart]
    cases core with
    | nil =>
        -- nothing is left, so it does not matter where the blanks are divided
        have allBlank : ∀ c ∈ before ++ after, isBlank c = true :=
          List.forall_mem_append.2 ⟨blank, blank'⟩
        have empty : (before ++ ([] ++ after)).dropWhile isBlank = [] :=
          dropWhile_eq_iff.2 ⟨before ++ after, by simp, allBlank, by simp⟩
        rw [empty]
        rfl
    | cons c core =>
        have ahead : ∀ d ∈ (c :: core ++ after).head?, isBlank d = false := visible
        rw [dropWhile_run blank ahead, List.reverse_append,
          dropWhile_run (by simpa using blank') (by rwa [List.head?_reverse]), List.reverse_reverse]

end QmlAssist.Text
