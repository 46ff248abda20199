import QmlAssist.Proofs.Text.Pieces
import QmlAssist.Text.LetterCase

/-!
# Laws of letter case

Lower-casing looks beyond a character only to see whether a capital sigma ends a word, and then
it looks no further than to a hyphen, which is neither cased nor passed over.  So parts that are
joined by hyphens are lower-cased one by one.  No other character becomes a hyphen, so the parts
can be told apart afterwards.

## Main Statements

* `lowercaseAfter_hyphen`, `lowercaseAfter_intercalate` — hyphens separate parts.
* `hyphen_not_mem_lowercaseAfter` — lower-casing makes no hyphens.
-/

namespace QmlAssist

namespace Unicode

theorem ofNat_ne_hyphen {n : Nat} (above : '-'.toNat < n) : Char.ofNat n ≠ '-' := by
  by_cases valid : n.isValidChar
  · intro same
    have value : (Char.ofNat n).toNat = n := by
      rw [Char.ofNat, dif_pos valid]
      rfl
    rw [same] at value
    omega
  · rw [Char.ofNat, dif_neg valid]
    decide

/-- No other character becomes a hyphen. -/
theorem hyphen_not_mem_lowercase {c : Char} (other : c ≠ '-') : '-' ∉ lowercase c := by
  have targets : ∀ run ∈ lowercaseRuns, '-'.toNat < run.target := by decide +kernel
  have expanded : ∀ x ∈ lowercaseExpansions, '-' ∉ x.2.map Char.ofNat := by decide +kernel
  rw [lowercase, mapCase]
  split
  next image found =>
    obtain ⟨front, back, split, -⟩ := List.lookup_eq_some_iff.1 found
    exact expanded (c.toNat, image) (by simp [split])
  next =>
    split
    next n found =>
      obtain ⟨run, member, image⟩ := List.exists_of_findSome?_eq_some found
      rw [CaseRun.image?, Option.ite_none_right_eq_some, Option.some.injEq] at image
      have above := targets run member
      rw [List.mem_singleton]
      exact (ofNat_ne_hyphen (by omega)).symm
    next =>
      rw [List.mem_singleton]
      exact other.symm

end Unicode

namespace Text

/-! ### Hyphens separate parts -/

/-- The search for a cased neighbour ends at a hyphen. -/
theorem meetsCased_append_hyphen (cs below : List Char) :
    meetsCased (cs ++ '-' :: below) = meetsCased cs := by
  have visible : Unicode.isCaseIgnorable '-' = false := by decide +kernel
  have uncased : Unicode.isCased '-' = false := by decide +kernel
  rw [meetsCased, meetsCased, dropWhile_append_stop visible, List.head?_append]
  cases (cs.dropWhile Unicode.isCaseIgnorable).head? with
  | none => exact uncased
  | some c => rfl

theorem lowercaseAfter_append_hyphen (before below cs : List Char) :
    lowercaseAfter (before ++ '-' :: below) cs = lowercaseAfter before cs := by
  induction cs generalizing before with
  | nil => rfl
  | cons c cs ih =>
      rw [lowercaseAfter, lowercaseAfter, meetsCased_append_hyphen, ← List.cons_append, ih]

/-- A text behind a hyphen is lower-cased on its own, and so is the text in front of it. -/
theorem lowercaseAfter_hyphen (before cs rest : List Char) :
    lowercaseAfter before (cs ++ '-' :: rest) =
      lowercaseAfter before cs ++ '-' :: lowercaseAfter [] rest := by
  induction cs generalizing before with
  | nil =>
      have kept : Unicode.lowercase '-' = ['-'] := by decide +kernel
      have behind : lowercaseAfter ('-' :: before) rest = lowercaseAfter [] rest :=
        lowercaseAfter_append_hyphen [] before rest
      show Unicode.lowercase '-' ++ lowercaseAfter ('-' :: before) rest =
        '-' :: lowercaseAfter [] rest
      rw [kept, behind, List.singleton_append]
  | cons c cs ih =>
      rw [List.cons_append, lowercaseAfter, lowercaseAfter, meetsCased_append_hyphen, ih,
        List.append_assoc]

theorem lowercaseAfter_intercalate (parts : List (List Char)) :
    lowercaseAfter [] (['-'].intercalate parts) =
      ['-'].intercalate (parts.map (lowercaseAfter [])) := by
  induction parts with
  | nil => rfl
  | cons part parts ih =>
      cases parts with
      | nil => rw [List.intercalate_singleton, List.map_singleton, List.intercalate_singleton]
      | cons next parts =>
          rw [List.intercalate_cons_cons, List.append_assoc, List.singleton_append,
            lowercaseAfter_hyphen, ih]
          simp only [List.map_cons, List.intercalate_cons_cons, List.append_assoc,
            List.singleton_append]

/-- Lower-casing makes no hyphens. -/
theorem hyphen_not_mem_lowercaseAfter {cs : List Char} (absent : '-' ∉ cs) (before : List Char) :
    '-' ∉ lowercaseAfter before cs := by
  induction cs generalizing before with
  | nil => exact List.not_mem_nil
  | cons c cs ih =>
      rw [List.mem_cons, not_or] at absent
      rw [lowercaseAfter, List.mem_append, not_or]
      refine ⟨?_, ih absent.2 _⟩
      split
      next => split <;> decide
      next => exact Unicode.hyphen_not_mem_lowercase (Ne.symm absent.1)

end Text

end QmlAssist
