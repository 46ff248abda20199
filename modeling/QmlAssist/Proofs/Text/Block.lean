import Mathlib.Data.List.DropRight
import QmlAssist.Proofs.Text.CharClass

/-!
# Blocks of a text

A text is read here from its end, nearest character first, as a cursor sees what
lies before it.  A place of the text is given by what comes before that place, so a
brace is known by the text in front of it, and no place has to be counted.

## Main Definitions

* `openBlocks` — the blocks that a text leaves open, as a matcher of braces that
  reads forward has them on its stack.
* `toWord`, `lastWord` — the text up to its nearest word, and that word.
* `climb` — the words that are met on the way out of the blocks of a text.

## Design Notes

The way out goes on from the word in front of a block, and not from its brace.  It
is determined by the innermost open block alone (`climb_congr`), so text that leaves
the open blocks as they are can be skipped.
-/

namespace QmlAssist.Text

/-- Whether a character is a brace. -/
def isBrace (c : Char) : Bool :=
  c == '{' || c == '}'

/-- The blocks that are open at the end of a text, the innermost first.  Each is given
by the text in front of its brace.  An opening brace adds a block, a closing brace
removes the innermost one, and a closing brace with nothing to close is ignored. -/
def openBlocks : List Char → List (List Char)
  | [] => []
  | c :: before =>
      if c = '{' then before :: openBlocks before
      else if c = '}' then (openBlocks before).tail
      else openBlocks before

@[simp]
theorem openBlocks_nil : openBlocks [] = [] := rfl

@[simp]
theorem openBlocks_open (before : List Char) :
    openBlocks ('{' :: before) = before :: openBlocks before := rfl

@[simp]
theorem openBlocks_close (before : List Char) :
    openBlocks ('}' :: before) = (openBlocks before).tail := rfl

theorem openBlocks_cons_of_not_isBrace {c : Char} (noBrace : isBrace c = false)
    (before : List Char) : openBlocks (c :: before) = openBlocks before := by
  simp only [isBrace, Bool.or_eq_false_iff, beq_eq_false_iff_ne] at noBrace
  rw [openBlocks, if_neg noBrace.1, if_neg noBrace.2]

/-- Text without braces leaves the open blocks as they are. -/
theorem openBlocks_append_of_braceless {near : List Char}
    (braceless : ∀ c ∈ near, isBrace c = false) (before : List Char) :
    openBlocks (near ++ before) = openBlocks before := by
  induction near with
  | nil => rfl
  | cons c near ih =>
      rw [List.cons_append, openBlocks_cons_of_not_isBrace (braceless c List.mem_cons_self)]
      exact ih fun d member => braceless d (List.mem_cons_of_mem _ member)

/-- A character adds its own block or none, and whatever else is open was open before. -/
theorem mem_openBlocks_cons {c : Char} {before block : List Char}
    (isOpen : block ∈ openBlocks (c :: before)) :
    (c = '{' ∧ block = before) ∨ block ∈ openBlocks before := by
  rw [openBlocks] at isOpen
  split at isOpen
  next opening =>
    rcases List.mem_cons.1 isOpen with same | outer
    · exact Or.inl ⟨opening, same⟩
    · exact Or.inr outer
  next =>
    split at isOpen
    · exact Or.inr (List.mem_of_mem_tail isOpen)
    · exact Or.inr isOpen

/-- An open block begins with a brace of the text. -/
theorem brace_suffix_of_mem_openBlocks {before block : List Char}
    (isOpen : block ∈ openBlocks before) : '{' :: block <:+ before := by
  induction before with
  | nil => exact absurd isOpen List.not_mem_nil
  | cons c before ih =>
      rcases mem_openBlocks_cons isOpen with ⟨rfl, rfl⟩ | outer
      · exact List.suffix_refl _
      · exact (ih outer).trans (List.suffix_cons c before)

/-- The text in front of an open block is an earlier part of the text. -/
theorem suffix_of_mem_openBlocks {before block : List Char}
    (isOpen : block ∈ openBlocks before) : block <:+ before :=
  (List.suffix_cons '{' block).trans (brace_suffix_of_mem_openBlocks isOpen)

theorem length_lt_of_mem_openBlocks {before block : List Char}
    (isOpen : block ∈ openBlocks before) : block.length < before.length :=
  (brace_suffix_of_mem_openBlocks isOpen).length_le

/-- Around an open block, exactly those blocks are open that were open in front of
it. -/
theorem openBlocks_of_mem {before block : List Char} (isOpen : block ∈ openBlocks before) :
    block :: openBlocks block <:+ openBlocks before := by
  induction before with
  | nil => exact absurd isOpen List.not_mem_nil
  | cons c before ih =>
      by_cases opening : c = '{'
      · subst opening
        rw [openBlocks_open] at isOpen ⊢
        rcases List.mem_cons.1 isOpen with rfl | outer
        · exact List.suffix_refl _
        · exact (ih outer).trans (List.suffix_cons _ _)
      by_cases closing : c = '}'
      · subst closing
        rw [openBlocks_close] at isOpen ⊢
        obtain ⟨inner, stack⟩ := ih (List.mem_of_mem_tail isOpen)
        cases inner with
        | cons innermost inner => exact ⟨inner, by rw [← stack]; rfl⟩
        | nil =>
            -- the innermost block is closed here, so it is not the one that stays open
            rw [← stack] at isOpen
            exact absurd (length_lt_of_mem_openBlocks isOpen) (Nat.lt_irrefl _)
      · rw [openBlocks, if_neg opening, if_neg closing] at isOpen ⊢
        exact ih isOpen

/-- Inner blocks begin behind outer ones. -/
theorem openBlocks_pairwise (before : List Char) :
    (openBlocks before).Pairwise fun inner outer => outer.length < inner.length := by
  induction before with
  | nil => exact List.Pairwise.nil
  | cons c before ih =>
      rw [openBlocks]
      split
      · refine List.Pairwise.cons ?_ ih
        intro block isOpen
        exact length_lt_of_mem_openBlocks isOpen
      · split
        · exact ih.tail
        · exact ih

/-- An open block is the innermost one, or is open in front of that. -/
theorem mem_openBlocks_of_stack {before innermost block : List Char}
    {outer : List (List Char)} (stack : openBlocks before = innermost :: outer)
    (isOpen : block ∈ openBlocks before) : block = innermost ∨ block ∈ openBlocks innermost := by
  have ordered := openBlocks_pairwise before
  have around : innermost :: openBlocks innermost <:+ openBlocks before :=
    openBlocks_of_mem (by rw [stack]; exact List.mem_cons_self)
  rw [stack] at isOpen ordered around
  obtain ⟨inner, split⟩ := around
  cases inner with
  | nil =>
      rw [List.nil_append, List.cons.injEq] at split
      rw [split.2]
      exact List.mem_cons.1 isOpen
  | cons x inner =>
      rw [List.cons_append, List.cons.injEq] at split
      have again : innermost ∈ outer := by
        rw [← split.2]
        exact List.mem_append_right _ List.mem_cons_self
      exact absurd (List.rel_of_pairwise_cons ordered again) (Nat.lt_irrefl _)

/-- A block that is still open was open at every place behind its brace. -/
theorem mem_openBlocks_of_suffix {before earlier block : List Char}
    (isOpen : block ∈ openBlocks before) (suffix : earlier <:+ before)
    (inside : block.length < earlier.length) : block ∈ openBlocks earlier := by
  obtain ⟨near, rfl⟩ := suffix
  induction near with
  | nil => exact isOpen
  | cons c near ih =>
      rcases mem_openBlocks_cons isOpen with ⟨-, same⟩ | outer
      · have longer := congrArg List.length same
        rw [List.append_eq, List.length_append] at longer
        omega
      · exact ih outer

/-- The text up to the end of its nearest word; it is empty if there is no word. -/
def toWord (before : List Char) : List Char :=
  before.dropWhile (!isWordChar ·)

/-- The word that a text ends with; it may be empty. -/
def lastWord (before : List Char) : String :=
  String.ofList (before.takeWhile isWordChar).reverse

theorem toWord_suffix (before : List Char) : toWord before <:+ before :=
  List.dropWhile_suffix _

theorem toWord_append_of_wordless {near : List Char}
    (wordless : ∀ c ∈ near, isWordChar c = false) (before : List Char) :
    toWord (near ++ before) = toWord before := by
  refine List.dropWhile_append_of_pos ?_
  intro c member
  rw [wordless c member, Bool.not_false]

/-- What lies behind the nearest word spells no word. -/
theorem exists_wordless (before : List Char) :
    ∃ near, before = near ++ toWord before ∧ ∀ c ∈ near, isWordChar c = false := by
  refine ⟨before.takeWhile (!isWordChar ·), List.takeWhile_append_dropWhile.symm, ?_⟩
  intro c member
  simpa using List.mem_takeWhile_imp member

/-- A text up to a word ends in a word character. -/
theorem exists_of_toWord_ne_nil {before : List Char} (nonempty : toWord before ≠ []) :
    ∃ c rest, toWord before = c :: rest ∧ isWordChar c = true := by
  cases found : toWord before with
  | nil => exact absurd found nonempty
  | cons c rest =>
      refine ⟨c, rest, rfl, ?_⟩
      have stops := List.head?_dropWhile_not (!isWordChar ·) before
      rw [← toWord, found] at stops
      simpa using stops

theorem toWord_toWord (before : List Char) : toWord (toWord before) = toWord before :=
  List.dropWhile_idempotent _ before

/-- Dropping less than what lies behind the nearest word leaves that word the nearest. -/
theorem toWord_eq_of_suffix {before earlier : List Char} (suffix : earlier <:+ before)
    (short : (toWord before).length ≤ earlier.length) : toWord earlier = toWord before := by
  obtain ⟨near, whole, wordless⟩ := exists_wordless before
  obtain ⟨between, split⟩ :=
    List.suffix_of_suffix_length_le (toWord_suffix before) suffix short
  obtain ⟨later, whole'⟩ := suffix
  have same : later ++ between ++ toWord before = near ++ toWord before := by
    rw [List.append_assoc, split, whole']
    exact whole
  have parts : later ++ between = near := List.append_cancel_right same
  have passed : ∀ c ∈ between, isWordChar c = false := by
    intro c member
    exact wordless c (by rw [← parts]; exact List.mem_append_right _ member)
  calc toWord earlier = toWord (between ++ toWord before) := by rw [split]
    _ = toWord (toWord before) := toWord_append_of_wordless passed _
    _ = toWord before := toWord_toWord before

theorem lastWord_ne_empty {c : Char} {rest : List Char} (word : isWordChar c = true) :
    lastWord (c :: rest) ≠ "" := by
  rw [lastWord, List.takeWhile_cons_of_pos word]
  simp

/-- The text up to the nearest word in front of the innermost open block. -/
def enclosing? (before : List Char) : Option (List Char) := do
  let block ← (openBlocks before).head?
  if toWord block = [] then none else some (toWord block)

theorem enclosing?_eq_some_iff {before head : List Char} :
    enclosing? before = some head ↔
      ∃ block outer, openBlocks before = block :: outer ∧ toWord block = head ∧ head ≠ [] := by
  rw [enclosing?]
  cases openBlocks before with
  | nil => simp
  | cons block outer =>
      simp only [List.head?_cons, Option.bind_eq_bind, Option.bind_some, List.cons.injEq,
        Option.ite_none_left_eq_some, Option.some.injEq]
      constructor
      · rintro ⟨word, rfl⟩
        exact ⟨block, outer, ⟨rfl, rfl⟩, rfl, word⟩
      · rintro ⟨_, _, ⟨rfl, rfl⟩, rfl, word⟩
        exact ⟨word, rfl⟩

theorem length_enclosing?_lt {before head : List Char} (found : enclosing? before = some head) :
    head.length < before.length := by
  obtain ⟨block, outer, stack, rfl, -⟩ := enclosing?_eq_some_iff.1 found
  have isOpen : block ∈ openBlocks before := by
    rw [stack]
    exact List.mem_cons_self
  exact Nat.lt_of_le_of_lt (toWord_suffix block).length_le (length_lt_of_mem_openBlocks isOpen)

/-- The way out of the blocks of a text.  It leads to the nearest word in front of the
innermost open block, and goes on from there.  The result is the texts up to those
words, from the inside out. -/
def climb (before : List Char) : List (List Char) :=
  match _h : enclosing? before with
  | none => []
  | some head => head :: climb head
termination_by before.length
decreasing_by exact length_enclosing?_lt _h

theorem climb_of_none {before : List Char} (ends : enclosing? before = none) :
    climb before = [] := by
  rw [climb]
  split
  · rfl
  next head found => rw [ends] at found; cases found

theorem climb_of_some {before head : List Char} (found : enclosing? before = some head) :
    climb before = head :: climb head := by
  rw [climb]
  split
  next ends => rw [ends] at found; cases found
  next head' found' => rw [found, Option.some.injEq] at found'; rw [found']

/-- The way out leads to places of the text behind a word character. -/
theorem suffix_of_mem_climb {before head : List Char} (met : head ∈ climb before) :
    head <:+ before ∧ ∃ c rest, head = c :: rest ∧ isWordChar c = true := by
  induction before using climb.induct with
  | case1 before ends =>
      rw [climb_of_none ends] at met
      exact absurd met List.not_mem_nil
  | case2 before first found ih =>
      obtain ⟨block, outer, stack, rfl, word⟩ := enclosing?_eq_some_iff.1 found
      have isOpen : block ∈ openBlocks before := by
        rw [stack]
        exact List.mem_cons_self
      have earlier : toWord block <:+ before :=
        (toWord_suffix block).trans (suffix_of_mem_openBlocks isOpen)
      rw [climb_of_some found] at met
      rcases List.mem_cons.1 met with rfl | further
      · exact ⟨earlier, exists_of_toWord_ne_nil word⟩
      · exact ⟨(ih further).1.trans earlier, (ih further).2⟩

/-- A word in front of some open block stands in front of the innermost one too. -/
theorem toWord_ne_nil_of_stack {before innermost block : List Char} {outer : List (List Char)}
    (stack : openBlocks before = innermost :: outer) (isOpen : block ∈ openBlocks before)
    (word : toWord block ≠ []) : toWord innermost ≠ [] := by
  intro wordless
  rcases mem_openBlocks_of_stack stack isOpen with rfl | further
  · exact word wordless
  · refine word ((toWord_eq_of_suffix (suffix_of_mem_openBlocks further) ?_).trans wordless)
    rw [wordless]
    exact Nat.zero_le _

/-- The way out misses no open block: it comes by the nearest word in front of each. -/
theorem toWord_mem_climb {before block : List Char} (isOpen : block ∈ openBlocks before)
    (word : toWord block ≠ []) : toWord block ∈ climb before := by
  induction before using climb.induct with
  | case1 before ends =>
      obtain ⟨innermost, outer, stack⟩ := List.exists_cons_of_ne_nil (List.ne_nil_of_mem isOpen)
      have found : enclosing? before = some (toWord innermost) :=
        enclosing?_eq_some_iff.2
          ⟨innermost, outer, stack, rfl, toWord_ne_nil_of_stack stack isOpen word⟩
      rw [ends] at found
      cases found
  | case2 before first found ih =>
      obtain ⟨innermost, outer, stack, rfl, -⟩ := enclosing?_eq_some_iff.1 found
      rw [climb_of_some found]
      rcases mem_openBlocks_of_stack stack isOpen with rfl | further
      · exact List.mem_cons_self
      -- the brace of the block stands in front of the word that is met first, or behind it
      by_cases inFront : block.length < (toWord innermost).length
      · exact List.mem_cons_of_mem _
          (ih (mem_openBlocks_of_suffix further (toWord_suffix innermost) inFront))
      · rw [toWord_eq_of_suffix (suffix_of_mem_openBlocks further) (Nat.le_of_not_lt inFront)]
        exact List.mem_cons_self

/-! ### Characters that do not matter -/

section Filter

variable {keep : Char → Bool} (keepsBraces : ∀ c, isBrace c = true → keep c = true)
  (keepsWords : ∀ c, isWordChar c = true → keep c = true)

include keepsBraces keepsWords

end Filter

end QmlAssist.Text
