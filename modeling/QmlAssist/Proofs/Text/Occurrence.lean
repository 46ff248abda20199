import QmlAssist.Proofs.Text.CharClass
import QmlAssist.Text.Occurrence

/-!
# Laws of the search for occurrences

The search goes through a text from left to right, and each law says how it gets
past one stretch of the text: a stretch that an occurrence takes up, a stretch in
which the pattern recognises nothing, and a stretch that is itself an occurrence.
What comes after the stretch is arbitrary, so the laws compose along a text.

## Main Definitions

* `Passes` — a pattern recognises nothing that begins in a stretch of text.
* `Pattern.IsLocal` — a pattern looks back only to see whether a name may start.
-/

namespace QmlAssist.Text

variable {α : Type}

/-! ### Runs of characters -/

/-- A run of characters of one kind ends where a character of another kind comes. -/
theorem takeWhile_run {kind : α → Bool} {run rest : List α}
    (inside : ∀ c ∈ run, kind c = true) (stops : ∀ c ∈ rest.head?, kind c = false) :
    (run ++ rest).takeWhile kind = run := by
  rw [List.takeWhile_append_of_pos inside]
  cases rest with
  | nil => rw [List.takeWhile_nil, List.append_nil]
  | cons c rest =>
      have other : ¬kind c = true := by simp [stops c rfl]
      rw [List.takeWhile_cons_of_neg other, List.append_nil]

/-- Behind a run of characters of one kind, the text goes on where another kind comes. -/
theorem dropWhile_run {kind : α → Bool} {run rest : List α}
    (inside : ∀ c ∈ run, kind c = true) (stops : ∀ c ∈ rest.head?, kind c = false) :
    (run ++ rest).dropWhile kind = rest := by
  have whole := List.takeWhile_append_dropWhile (p := kind) (l := run ++ rest)
  rw [takeWhile_run inside stops] at whole
  exact List.append_cancel_left whole

/-- Every text is a run of characters of one kind and a rest that begins with another one. -/
theorem takeWhile_dropWhile_run (kind : α → Bool) (cs : List α) :
    (∀ c ∈ cs.takeWhile kind, kind c = true) ∧ ∀ c ∈ (cs.dropWhile kind).head?, kind c = false := by
  refine ⟨List.all_eq_true.1 List.all_takeWhile, ?_⟩
  intro c first
  have stops := List.head?_dropWhile_not kind cs
  rw [Option.mem_def.1 first] at stops
  exact stops

theorem takeWhile_eq_iff {kind : α → Bool} {cs run : List α} :
    cs.takeWhile kind = run ↔ ∃ rest, cs = run ++ rest ∧ (∀ c ∈ run, kind c = true) ∧
      ∀ c ∈ rest.head?, kind c = false := by
  constructor
  · rintro rfl
    exact ⟨_, List.takeWhile_append_dropWhile.symm, takeWhile_dropWhile_run kind cs⟩
  · rintro ⟨rest, rfl, inside, stops⟩
    exact takeWhile_run inside stops

theorem dropWhile_eq_iff {kind : α → Bool} {cs rest : List α} :
    cs.dropWhile kind = rest ↔ ∃ run, cs = run ++ rest ∧ (∀ c ∈ run, kind c = true) ∧
      ∀ c ∈ rest.head?, kind c = false := by
  constructor
  · rintro rfl
    exact ⟨_, List.takeWhile_append_dropWhile.symm, takeWhile_dropWhile_run kind cs⟩
  · rintro ⟨run, rfl, inside, stops⟩
    exact dropWhile_run inside stops

theorem drop_length_takeWhile (kind : Char → Bool) (cs : List Char) :
    cs.drop (cs.takeWhile kind).length = cs.dropWhile kind := by
  have split := List.prefix_iff_eq_append.1 (List.takeWhile_prefix (l := cs) kind)
  rw [← List.append_right_inj (cs.takeWhile kind), split, List.takeWhile_append_dropWhile]

theorem takeWhile_append_stop {kind : Char → Bool} {stop : Char} (stops : kind stop = false)
    (cs below : List Char) : (cs ++ stop :: below).takeWhile kind = cs.takeWhile kind := by
  rw [List.takeWhile_append, List.takeWhile_cons_of_neg (by simp [stops]), List.append_nil]
  split
  next whole => exact ((List.takeWhile_prefix kind).eq_of_length whole).symm
  next => rfl

theorem dropWhile_append_stop {kind : Char → Bool} {stop : Char} (stops : kind stop = false)
    (cs below : List Char) :
    (cs ++ stop :: below).dropWhile kind = cs.dropWhile kind ++ stop :: below := by
  rw [List.dropWhile_append, List.dropWhile_cons_of_neg (by simp [stops])]
  split
  next whole => rw [List.isEmpty_iff.1 whole, List.nil_append]
  next => rfl

/-- A text with a character that is not blank has a first one. -/
theorem exists_visible {cs : List Char} (visible : cs.all isBlank = false) :
    ∃ blanks c rest, cs = blanks ++ c :: rest ∧ (∀ d ∈ blanks, isBlank d = true) ∧
      isBlank c = false := by
  induction cs with
  | nil => cases visible
  | cons c cs ih =>
      cases blank : isBlank c with
      | false => exact ⟨[], c, cs, rfl, by simp, blank⟩
      | true =>
          rw [List.all_cons, blank, Bool.true_and] at visible
          obtain ⟨blanks, d, rest, rfl, inFront, seen⟩ := ih visible
          refine ⟨c :: blanks, d, rest, rfl, ?_, seen⟩
          simpa [blank] using inFront

/-! ### Words at the start of a text -/

theorem eq_append_of_dropWord? {word cs rest : List Char} (found : dropWord? word cs = some rest) :
    cs = word ++ rest := by
  rw [dropWord?, Option.ite_none_right_eq_some, Option.some.injEq, List.isPrefixOf_iff_prefix]
    at found
  rw [← found.2]
  exact (List.prefix_iff_eq_append.1 found.1).symm

/-- A word without line feeds does not reach across one. -/
theorem dropWord?_append {word : List Char} (feedless : '\n' ∉ word) (cs below : List Char) :
    dropWord? word (cs ++ '\n' :: below) = (dropWord? word cs).map (· ++ '\n' :: below) := by
  induction word generalizing cs with
  | nil => rfl
  | cons c word ih =>
      have later := ih (fun member => feedless (List.mem_cons_of_mem _ member))
      cases cs with
      | nil =>
          have other : c ≠ '\n' := fun feed => feedless (by simp [feed])
          simp [dropWord?, other]
      | cons d cs =>
          by_cases same : c = d
          · subst same
            simpa [dropWord?] using later cs
          · simp [dropWord?, same]

/-! ### One stretch at a time -/

/-- A pattern recognises nothing that begins in `passed`, where `before` comes before
that stretch and `rest` after it. -/
def Passes (pattern : Pattern α) (before passed rest : List Char) : Prop :=
  ∀ u v, passed = u ++ v → v ≠ [] → pattern (u.reverse ++ before) (v ++ rest) = none

/-- What an occurrence takes up is not searched. -/
theorem occurrencesAfter_taken (pattern : Pattern α) (before taken rest : List Char) :
    occurrencesAfter pattern before taken.length (taken ++ rest) =
      occurrencesAfter pattern (taken.reverse ++ before) 0 rest := by
  induction taken generalizing before with
  | nil => rfl
  | cons c taken ih =>
      rw [List.length_cons, List.cons_append, occurrencesAfter, ih, List.reverse_cons,
        List.append_assoc]
      rfl

/-- The search gets past a stretch in which nothing begins. -/
theorem occurrencesAfter_passed {pattern : Pattern α} {before passed rest : List Char}
    (passes : Passes pattern before passed rest) :
    occurrencesAfter pattern before 0 (passed ++ rest) =
      occurrencesAfter pattern (passed.reverse ++ before) 0 rest := by
  induction passed generalizing before with
  | nil => rfl
  | cons c passed ih =>
      have here : pattern before (c :: (passed ++ rest)) = none :=
        passes [] (c :: passed) rfl (List.cons_ne_nil _ _)
      have later : Passes pattern (c :: before) passed rest := by
        intro u v split nonempty
        have moved := passes (c :: u) v (by rw [split, List.cons_append]) nonempty
        rwa [List.reverse_cons, List.append_assoc] at moved
      rw [List.cons_append, occurrencesAfter, here, List.reverse_cons, List.append_assoc]
      exact ih later

/-- An occurrence is found where the search comes to it, and the search goes on behind
it. -/
theorem occurrencesAfter_found {pattern : Pattern α} {before taken rest : List Char}
    {value : α} (nonempty : taken ≠ [])
    (found : pattern before (taken ++ rest) = some (value, taken.length)) :
    occurrencesAfter pattern before 0 (taken ++ rest) =
      value :: occurrencesAfter pattern (taken.reverse ++ before) 0 rest := by
  cases taken with
  | nil => exact absurd rfl nonempty
  | cons c taken =>
      rw [List.cons_append] at found ⊢
      rw [occurrencesAfter, found]
      simp only [List.length_cons, Nat.add_sub_cancel, occurrencesAfter_taken,
        List.reverse_cons, List.append_assoc, List.singleton_append]

/-- An occurrence is recognised at a place of the text. -/
theorem exists_of_mem_occurrencesAfter {pattern : Pattern α} {before cs : List Char} {skip : Nat}
    {value : α} (member : value ∈ occurrencesAfter pattern before skip cs) :
    ∃ front rest length, cs = front ++ rest ∧
      pattern (front.reverse ++ before) rest = some (value, length) := by
  induction cs generalizing before skip with
  | nil =>
      cases skip with
      | zero => cases member
      | succ skip => cases member
  | cons c cs ih =>
      have later : ∀ {skip : Nat}, value ∈ occurrencesAfter pattern (c :: before) skip cs →
          ∃ front rest length, c :: cs = front ++ rest ∧
            pattern (front.reverse ++ before) rest = some (value, length) := by
        intro skip member
        obtain ⟨front, rest, length, rfl, found⟩ := ih member
        refine ⟨c :: front, rest, length, rfl, ?_⟩
        rwa [List.reverse_cons, List.append_assoc]
      cases skip with
      | succ skip => exact later member
      | zero =>
          rw [occurrencesAfter] at member
          split at member
          next length found =>
            rcases List.mem_cons.1 member with rfl | member
            · exact ⟨[], c :: cs, length, rfl, found⟩
            · exact later member
          next => exact later member

/-! ### Looking back -/

@[simp]
theorem atNameStart_cons (c : Char) (before : List Char) :
    atNameStart (c :: before) = !isNameChar c := rfl

/-- Whether a name may start is decided by the nearest character. -/
theorem atNameStart_append {near : List Char} (nonempty : near ≠ []) (before : List Char) :
    atNameStart (near ++ before) = atNameStart near := by
  obtain ⟨c, near, rfl⟩ := List.exists_cons_of_ne_nil nonempty
  rfl

/-- A pattern looks back only to see whether a name may start. -/
def Pattern.IsLocal (pattern : Pattern α) : Prop :=
  ∀ before before' cs, atNameStart before = atNameStart before' →
    pattern before cs = pattern before' cs

/-- What comes before a text decides at most whether a name may start there. -/
theorem occurrencesAfter_congr {pattern : Pattern α} (isLocal : pattern.IsLocal)
    {before before' : List Char} (same : atNameStart before = atNameStart before')
    (skip : Nat) (cs : List Char) :
    occurrencesAfter pattern before skip cs = occurrencesAfter pattern before' skip cs := by
  induction cs generalizing before before' skip with
  | nil =>
      cases skip with
      | zero => rfl
      | succ skip => rfl
  | cons c cs ih =>
      have next : atNameStart (c :: before) = atNameStart (c :: before') := rfl
      cases skip with
      | succ skip => exact ih next skip
      | zero =>
          rw [occurrencesAfter, occurrencesAfter, isLocal before before' (c :: cs) same]
          split
          · rw [ih next]
          · exact ih next 0

/-! ### Stretches that are passed -/

theorem Passes.nil (pattern : Pattern α) (before rest : List Char) :
    Passes pattern before [] rest := by
  intro u v split nonempty
  exact absurd (List.append_eq_nil_iff.1 split.symm).2 nonempty

/-- One more character is passed if the pattern recognises nothing at it. -/
theorem Passes.cons {pattern : Pattern α} {before passed rest : List Char} {c : Char}
    (here : pattern before (c :: (passed ++ rest)) = none)
    (later : Passes pattern (c :: before) passed rest) :
    Passes pattern before (c :: passed) rest := by
  intro u v split nonempty
  cases u with
  | nil =>
      rw [List.nil_append] at split
      rw [← split]
      exact here
  | cons d u =>
      rw [List.cons_append, List.cons.injEq] at split
      rw [List.reverse_cons, List.append_assoc, ← split.1]
      exact later u v split.2 nonempty

/-- Characters at which the pattern never recognises anything are passed. -/
theorem Passes.of_forall {pattern : Pattern α} {passed : List Char}
    (never : ∀ c ∈ passed, ∀ before rest, pattern before (c :: rest) = none)
    (before rest : List Char) : Passes pattern before passed rest := by
  induction passed generalizing before with
  | nil => exact Passes.nil pattern before rest
  | cons c passed ih =>
      refine Passes.cons (never c List.mem_cons_self _ _) (ih ?_ _)
      intro d member
      exact never d (List.mem_cons_of_mem _ member)

end QmlAssist.Text
