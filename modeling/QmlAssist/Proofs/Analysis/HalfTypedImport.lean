import QmlAssist.Proofs.Analysis.Enclosing
import QmlAssist.Proofs.Analysis.Import

/-!
# Half-typed imports

While an import is being typed, its line holds nothing but the word `import`.  This
module says exactly when such a line leaves the other imports of a document as they
are.

## Main Definitions

* `Catalog.Undisturbed` — a line with the bare word changes nothing between two texts.

## Design Notes

A bare word is not an import and would do no harm, but its path is looked for across
line ends.  So the first line below it that is not blank is read as a path, and what that
line imports is lost.  The document imports the same as before if the line starts with no
name (`Catalog.undisturbed_of_no_name`), or if the catalog does not tell the two readings
apart.
-/

namespace QmlAssist

/-- Whether the catalog brings the same modules into scope for the text below a line with
the bare word `import` as it does without that line.  The word leaves an import open,
unless one is open above it already, whose path it then becomes. -/
def Catalog.Undisturbed (catalog : Catalog) (above below : String) : Prop :=
  catalog.imported
      (if Import.endsOpen above then ⟨"import", ""⟩ :: Import.all below
      else Import.resumed below.toList) =
    catalog.imported
      (if Import.endsOpen above then Import.resumed below.toList else Import.all below)

instance (catalog : Catalog) (above below : String) :
    Decidable (catalog.Undisturbed above below) :=
  inferInstanceAs (Decidable (_ = _))

/-- Nothing is resumed in a text that starts with no name. -/
theorem Import.resumed_of_no_name {below : String}
    (noName : ∀ c ∈ (below.toList.dropWhile isBlank).head?, isNameChar c = false) :
    resumed below.toList = all below := by
  have pathless : dottedRun false (below.toList.dropWhile isBlank) = [] := by
    cases line : below.toList.dropWhile isBlank with
    | nil => rfl
    | cons c rest =>
        rw [line] at noName
        simp [dottedRun, noName c rfl]
  rw [resumed]
  simp only [pathless, if_true]
  rfl

theorem Catalog.undisturbed_of_no_name (catalog : Catalog) {above below : String}
    (closed : Import.endsOpen above = false)
    (noName : ∀ c ∈ (below.toList.dropWhile isBlank).head?, isNameChar c = false) :
    catalog.Undisturbed above below := by
  rw [Undisturbed, closed, if_neg Bool.false_ne_true, if_neg Bool.false_ne_true,
    Import.resumed_of_no_name noName]

namespace Analysis

/-- The components in scope are decided by the modules. -/
theorem modules_components_ofText_iff (catalog : Catalog) (text text' : String) :
    ((ofText catalog text).modules = (ofText catalog text').modules ∧
        (ofText catalog text).components = (ofText catalog text').components) ↔
      catalog.imported (Import.all text) = catalog.imported (Import.all text') := by
  constructor
  · exact And.left
  · intro same
    exact ⟨same, congrArg (List.flatMap Module.components) same⟩

/-- A half-typed import between two texts leaves the imported modules and components as
they are exactly if the text below it is read alike with and without an open import
above it; in particular if that text starts with no name and no import is open above. -/
theorem modules_components_halfTyped_iff (catalog : Catalog) (above below gap : String)
    (blank : ∀ c ∈ gap.toList, Import.isGap c = true) :
    let plain := ofText catalog (above ++ "\n" ++ below)
    let halfTyped := ofText catalog (above ++ "\n" ++ ("import" ++ gap ++ "\n" ++ below))
    ((halfTyped.modules = plain.modules ∧ halfTyped.components = plain.components) ↔
        catalog.Undisturbed above below) ∧
      (Import.endsOpen above = false →
        (∀ c ∈ (below.toList.dropWhile isBlank).head?, isNameChar c = false) →
          halfTyped.modules = plain.modules ∧ halfTyped.components = plain.components) := by
  have exactly : catalog.imported
        (Import.all (above ++ "\n" ++ ("import" ++ gap ++ "\n" ++ below))) =
      catalog.imported (Import.all (above ++ "\n" ++ below)) ↔ catalog.Undisturbed above below := by
    rw [Import.all_append_halfTyped blank, Import.all_append, Catalog.imported, Catalog.imported,
      List.flatMap_append, List.flatMap_append, List.append_right_inj]
    exact Iff.rfl
  intro plain halfTyped
  have condition := (modules_components_ofText_iff catalog _ _).trans exactly
  refine ⟨condition, ?_⟩
  intro closed noName
  exact condition.2 (catalog.undisturbed_of_no_name closed noName)

/-- A closed block below a half-typed import does not take part in it. -/
theorem modules_components_halfTyped_brace :
    Import.endsOpen "import M" = false ∧
      (ofText (Catalog.ofTypeName "Item")
          ("import M" ++ "\n" ++ ("import" ++ " " ++ "\n" ++ "\x7b\x7d"))).modules =
        (ofText (Catalog.ofTypeName "Item") ("import M" ++ "\n" ++ "\x7b\x7d")).modules := by
  have closed : Import.endsOpen "import M" = false := by decide +kernel
  have blank : ∀ c ∈ " ".toList, Import.isGap c = true := List.all_eq_true.1 (by decide)
  refine ⟨closed, ((modules_components_halfTyped_iff _ _ _ _ blank).2 closed ?_).1⟩
  intro c first
  obtain rfl : '{' = c := by
    have brace : ("\x7b\x7d".toList.dropWhile isBlank).head? = some '{' := by decide
    rw [brace] at first
    exact Option.some.inj first
  decide

/-- An import below a half-typed one is lost. -/
theorem not_modules_halfTyped :
    let plain := ofText (Catalog.ofTypeName "Item") ("" ++ "\n" ++ "import M")
    let halfTyped := ofText (Catalog.ofTypeName "Item")
      ("" ++ "\n" ++ ("import" ++ " " ++ "\n" ++ "import M"))
    plain.modules = [⟨"M", "1", [0]⟩] ∧
      ¬(halfTyped.modules = plain.modules ∧ halfTyped.components = plain.components) := by
  decide +kernel

end Analysis

end QmlAssist
