/-
# How a page grows

A page is gathered passage by passage. What has been found of the syntax and the description stays,
the sources are only added to, and the examples are the first titled ones of all passages. The
joined text of the passages fills in parameters, and examples where there are none.
-/

import ScriptDocs.Proofs.Distinct
import ScriptDocs.Proofs.Lists
import ScriptDocs.Reference.Page
import Mathlib.Data.List.Infix

namespace ScriptDocs

/-- The first occurrences in a list come first when more is added at its end. -/
theorem distinct_prefix_append {α : Type} [DecidableEq α] (xs ys : List α) :
    distinct xs <+: distinct (xs ++ ys) := by
  rw [distinct_eq_firstOfEach, distinct_eq_firstOfEach, firstOfEach_append]
  exact List.prefix_append _ _

namespace Reference

/-- One page tells all that another does of the syntax, of the description and of the sources. -/
structure Page.Extends (later earlier : Page) : Prop where
  syntaxLine : ∀ line, earlier.syntaxLine = some line → later.syntaxLine = some line
  description : ∀ words, earlier.description = some words → later.description = some words
  sources : earlier.sources <+: later.sources

namespace Page

theorem Extends.refl (page : Page) : page.Extends page :=
  ⟨fun _ => id, fun _ => id, List.prefix_rfl⟩

theorem Extends.trans {last later earlier : Page} (hlast : last.Extends later)
    (hlater : later.Extends earlier) : last.Extends earlier where
  syntaxLine line hline := hlast.syntaxLine line (hlater.syntaxLine line hline)
  description words hwords := hlast.description words (hlater.description words hwords)
  sources := hlater.sources.trans hlast.sources

theorem Extends.withConfidence {later earlier : Page} (hlater : later.Extends earlier)
    (confidence : Binary64) : ({ later with confidence } : Page).Extends earlier :=
  ⟨hlater.syntaxLine, hlater.description, hlater.sources⟩

/-- Each field is filled by the first passage that yields it. -/
theorem absorb_extends (page : Page) (passage : Passage) : (page.absorb passage).Extends page where
  syntaxLine line hline := by
    dsimp only [absorb]
    rw [hline]
    rfl
  description words hwords := by
    dsimp only [absorb]
    rw [hwords]
    rfl
  sources := List.prefix_append _ _

theorem foldl_absorb_extends (page : Page) (passages : List Passage) :
    (passages.foldl absorb page).Extends page := by
  induction passages generalizing page with
  | nil => exact Extends.refl page
  | cons passage passages ih => exact (ih (page.absorb passage)).trans (absorb_extends page passage)

/-- The page that some passages give, before it is completed from their joined text. -/
def gathered (name : Text) (passages : List Passage) : Page :=
  passages.foldl absorb { function := '$' :: name }

theorem ofPassages_eq (name : Text) (passages : List Passage) :
    let joined := Text.join "\n\n" (passages.map Passage.content)
    ofPassages name passages =
      (({ gathered name passages with
          sources := distinct (gathered name passages).sources } : Page).withDetails
        joined).withExamples joined :=
  rfl

/-- The joined text adds nothing to the syntax, the description and the sources. -/
theorem completed_fields (page : Page) (joined : Text) :
    let completed := (page.withDetails joined).withExamples joined
    completed.syntaxLine = page.syntaxLine ∧ completed.description = page.description ∧
      completed.sources = page.sources := by
  dsimp only [withExamples, withDetails]
  split_ifs <;> exact ⟨rfl, rfl, rfl⟩

/-- It gives examples only where there are none. -/
theorem examples_completed (page : Page) (joined : Text) :
    ((page.withDetails joined).withExamples joined).examples =
      if page.examples = [] then firstExamples joined else page.examples := by
  have hdetails : (page.withDetails joined).examples = page.examples := by
    dsimp only [withDetails]
    split_ifs <;> rfl
  dsimp only [withExamples]
  rw [← hdetails]
  simp only [List.isEmpty_iff]
  split_ifs <;> rfl

theorem ofPassages_fields (name : Text) (passages : List Passage) :
    (ofPassages name passages).syntaxLine = (gathered name passages).syntaxLine ∧
      (ofPassages name passages).description = (gathered name passages).description ∧
      (ofPassages name passages).sources = distinct (gathered name passages).sources :=
  completed_fields _ _

/-- More passages never overwrite what was found in the first ones. -/
theorem ofPassages_append_extends (name : Text) (first more : List Passage) :
    (ofPassages name (first ++ more)).Extends (ofPassages name first) := by
  have hgathered : (gathered name (first ++ more)).Extends (gathered name first) := by
    unfold gathered
    rw [List.foldl_append]
    exact foldl_absorb_extends _ more
  obtain ⟨hline, hdescription, hsources⟩ := ofPassages_fields name first
  obtain ⟨hline', hdescription', hsources'⟩ := ofPassages_fields name (first ++ more)
  constructor
  · rw [hline, hline']
    exact hgathered.syntaxLine
  · rw [hdescription, hdescription']
    exact hgathered.description
  · rw [hsources, hsources']
    obtain ⟨added, hadded⟩ := hgathered.sources
    rw [← hadded]
    exact distinct_prefix_append _ added

/-- The titled examples of some passages, in order. -/
def titled (passages : List Passage) : List Text :=
  passages.flatMap titledExamples

theorem examples_foldl_absorb (page : Page) (passages : List Passage)
    (hlimited : page.examples.length ≤ exampleLimit) :
    (passages.foldl absorb page).examples =
      (page.examples ++ titled passages).take exampleLimit := by
  induction passages generalizing page with
  | nil =>
      rw [List.foldl_nil, titled, List.flatMap_nil, List.append_nil,
        List.take_of_length_le hlimited]
  | cons passage passages ih =>
      have habsorbed : (page.absorb passage).examples =
          (page.examples ++ titledExamples passage).take exampleLimit := rfl
      have hstill : (page.absorb passage).examples.length ≤ exampleLimit := by
        rw [habsorbed, List.length_take]
        exact Nat.min_le_left _ _
      rw [List.foldl_cons, ih _ hstill, habsorbed, take_take_append, titled, titled,
        List.flatMap_cons, List.append_assoc]

/-- The examples of a page are the first titled ones of its passages, as often as they come up;
where there are none, they are looked for in the joined text, and each counts once. -/
theorem examples_ofPassages (name : Text) (passages : List Passage) :
    (ofPassages name passages).examples =
      if titled passages = [] then firstExamples (Text.join "\n\n" (passages.map Passage.content))
      else (titled passages).take exampleLimit := by
  have hgathered : (gathered name passages).examples = (titled passages).take exampleLimit :=
    examples_foldl_absorb _ passages (Nat.zero_le _)
  have hnone : (titled passages).take exampleLimit = [] ↔ titled passages = [] := by
    rw [List.take_eq_nil_iff, or_iff_right (by decide)]
  rw [ofPassages_eq, examples_completed]
  dsimp only
  simp only [hgathered, hnone]

theorem nodup_firstExamples (text : Text) : (firstExamples text).Nodup :=
  nodup_distinct _

/-- A page repeats an example just where one comes up again among the first titled ones. -/
theorem nodup_examples_ofPassages_iff (name : Text) (passages : List Passage) :
    (ofPassages name passages).examples.Nodup ↔ ((titled passages).take exampleLimit).Nodup := by
  rw [examples_ofPassages]
  split
  · rename_i hnone
    rw [hnone]
    exact iff_of_true (nodup_firstExamples _) List.nodup_nil
  · rfl

end Page

end Reference

end ScriptDocs
