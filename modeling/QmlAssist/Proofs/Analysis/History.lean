import Mathlib.Data.List.Basic
import Mathlib.Data.List.Induction
import QmlAssist.Analysis.Basic

/-!
# Analysis keeps no history

The findings about a text can be renewed as a whole, with another text or not, or one pass
at a time.  Whatever was done before, they are those of a fresh analysis of the present
text, apart from the ids, which are missing after a search for imports alone.

## Main Definitions

* `Analysis.Pass` — one renewal of the findings.
* `Analysis.after` — an analysis after some passes.
* `Analysis.forgetIds` — the findings without the ids.

## Main Statements

* `Analysis.Pass.run_settled` — what each pass makes of findings that are up to date.
* `Analysis.after_ofText` — the findings after any passes.

## Design Notes

Both passes write the list of candidates: the search for imports writes all of it, and the
search for ids replaces the ids at its end.  So the two are tied together by `forgetIds`,
which undoes the search for ids (`forgetIds_resolveIds`) and is undone by it
(`resolveIds_forgetIds`).
-/

namespace QmlAssist.Analysis

/-- One renewal of the findings. -/
inductive Pass where
  | update (text : String)
  | resolveImports
  | resolveIds
deriving DecidableEq, Repr

namespace Pass

/-- The effect of a pass on an analysis. -/
def run (a : Analysis) : Pass → Analysis
  | update text => a.update text
  | resolveImports => a.resolveImports
  | resolveIds => a.resolveIds

/-- The effect of a pass on the text. -/
def write (text : String) : Pass → String
  | update newText => newText
  | resolveImports => text
  | resolveIds => text

end Pass

/-- An analysis after some passes. -/
def after (a : Analysis) (passes : List Pass) : Analysis :=
  passes.foldl Pass.run a

/-- The text after some passes, which is the last one written. -/
def textAfter (text : String) (passes : List Pass) : String :=
  passes.foldl Pass.write text

/-- The findings without the ids: no bindings, and all candidates but the ids. -/
def forgetIds (a : Analysis) : Analysis :=
  { a with
    candidates := a.candidates.filter (·.kind ≠ .identifier)
    bindings := [] }

/-- The findings that are expected for a text, given the last pass. -/
def settled (catalog : Catalog) (text : String) : Option Pass → Analysis
  | some .resolveImports => (ofText catalog text).forgetIds
  | none => ofText catalog text
  | some (.update _) => ofText catalog text
  | some .resolveIds => ofText catalog text

/-! ### The two passes and the ids -/

/-- The search for ids finds the same without the earlier ones. -/
theorem resolveIds_forgetIds (a : Analysis) : a.forgetIds.resolveIds = a.resolveIds := by
  have found : a.forgetIds.findBindings = a.findBindings := rfl
  have others : a.forgetIds.candidates.filter (·.kind ≠ .identifier) =
      a.candidates.filter (·.kind ≠ .identifier) := by
    simp [forgetIds]
  rw [resolveIds, resolveIds, found, others]
  rfl

/-- The search for ids adds nothing but ids. -/
theorem forgetIds_resolveIds (a : Analysis) : a.resolveIds.forgetIds = a.forgetIds := by
  have ids : ∀ c ∈ a.findBindings.map Binding.candidate, ¬decide (c.kind ≠ .identifier) = true := by
    intro c member
    obtain ⟨b, -, rfl⟩ := List.mem_map.1 member
    simp [Binding.candidate]
  have others : a.resolveIds.candidates.filter (·.kind ≠ .identifier) =
      a.candidates.filter (·.kind ≠ .identifier) := by
    show (a.candidates.filter (·.kind ≠ .identifier) ++
      a.findBindings.map Binding.candidate).filter _ = _
    rw [List.filter_append, List.filter_filter, List.filter_eq_nil_iff.2 ids, List.append_nil]
    simp only [Bool.and_self]
  rw [forgetIds, others]
  rfl

/-- The search for imports finds no ids. -/
theorem forgetIds_resolveImports (a : Analysis) :
    a.resolveImports.forgetIds = a.resolveImports := by
  have others : a.resolveImports.candidates.filter (·.kind ≠ .identifier) =
      a.resolveImports.candidates := by
    rw [List.filter_eq_self]
    intro c member
    rcases List.mem_append.1 member with type | fixed
    · obtain ⟨name, -, rfl⟩ := List.mem_map.1 type
      rfl
    · rcases List.mem_append.1 fixed with keyword | builtin
      · obtain ⟨name, -, rfl⟩ := List.mem_map.1 keyword
        rfl
      · obtain ⟨name, -, rfl⟩ := List.mem_map.1 builtin
        rfl
  rw [forgetIds, others]
  rfl

theorem resolveIds_resolveIds (a : Analysis) : a.resolveIds.resolveIds = a.resolveIds :=
  calc a.resolveIds.resolveIds
      = a.resolveIds.forgetIds.resolveIds := (resolveIds_forgetIds _).symm
    _ = a.forgetIds.resolveIds := by rw [forgetIds_resolveIds]
    _ = a.resolveIds := resolveIds_forgetIds a

/-! ### Each pass -/

/-- An update leaves nothing of the earlier findings. -/
theorem update_eq (a : Analysis) (text : String) : a.update text = ofText a.catalog text := rfl

/-- Of the earlier findings, the search for imports keeps nothing at all. -/
theorem resolveImports_eq (a : Analysis) :
    a.resolveImports = (ofText a.catalog a.text).forgetIds := by
  have both : ofText a.catalog a.text = a.resolveImports.resolveIds := rfl
  rw [both, forgetIds_resolveIds, forgetIds_resolveImports]

/-- A pass over findings that are up to date brings them up to date again. -/
theorem Pass.run_settled (pass : Pass) (catalog : Catalog) (text : String)
    (last? : Option Pass) :
    pass.run (settled catalog text last?) = settled catalog (pass.write text) (some pass) := by
  have catalog_eq : (settled catalog text last?).catalog = catalog := by
    rcases last? with _ | _ | _ | _ <;> rfl
  have text_eq : (settled catalog text last?).text = text := by
    rcases last? with _ | _ | _ | _ <;> rfl
  cases pass with
  | update newText =>
      rw [run, update_eq, catalog_eq]
      rfl
  | resolveImports =>
      rw [run, resolveImports_eq, catalog_eq, text_eq]
      rfl
  | resolveIds =>
      have again : (ofText catalog text).resolveIds = ofText catalog text :=
        resolveIds_resolveIds _
      rcases last? with _ | _ | _ | _
      · exact again
      · exact again
      · exact (resolveIds_forgetIds _).trans again
      · exact again

/-! ### Any number of passes -/

theorem after_concat (a : Analysis) (passes : List Pass) (pass : Pass) :
    a.after (passes ++ [pass]) = pass.run (a.after passes) :=
  List.foldl_concat ..

theorem textAfter_concat (text : String) (passes : List Pass) (pass : Pass) :
    textAfter text (passes ++ [pass]) = pass.write (textAfter text passes) :=
  List.foldl_concat ..

/-- Passes keep the findings up to date.  The induction takes them from the end, where the
last one is known. -/
theorem after_eq_settled (catalog : Catalog) (text : String) (passes : List Pass) :
    (ofText catalog text).after passes =
      settled catalog (textAfter text passes) passes.getLast? := by
  induction passes using List.reverseRecOn with
  | nil => rfl
  | append_singleton passes pass ih =>
      rw [after_concat, textAfter_concat, List.getLast?_concat, ih, pass.run_settled]

/-- **History does not matter.**  After any passes, the findings are those of a fresh
analysis of the last text; if the imports were searched last, the ids are missing, and only
they. -/
theorem after_ofText (catalog : Catalog) (text : String) (passes : List Pass) :
    let fresh := ofText catalog (textAfter text passes)
    (ofText catalog text).after passes =
      match passes.getLast? with
      | none => fresh
      | some (.update _) => fresh
      | some .resolveIds => fresh
      | some .resolveImports =>
          { fresh with
            candidates := fresh.candidates.filter (·.kind ≠ .identifier)
            bindings := [] } := by
  intro fresh
  rw [after_eq_settled]
  cases passes.getLast? with
  | none => rfl
  | some last => cases last <;> rfl

end QmlAssist.Analysis
