/-
# What the table tells about its passages

A table that some passages were inserted into answers its readers as those passages
do: the passages of one document in order, without their vectors, and the documents
that occur, each once and in the order of code points. A passage is valid where its
path, its text and its fingerprint are not empty; every passage that is read from
outside is.
-/

import ScriptDocs.Field.Passage
import ScriptDocs.Proofs.Distinct
import ScriptDocs.Proofs.Text.Order
import ScriptDocs.Store.Table

namespace ScriptDocs

/-- Every step succeeds with a value that is known beforehand. -/
theorem mapM_eq_ok {ε α β : Type} {step : α → Except ε β} {value : α → β} {xs : List α}
    (hstep : ∀ x ∈ xs, step x = .ok (value x)) : xs.mapM step = .ok (xs.map value) := by
  induction xs with
  | nil => rfl
  | cons x xs ih =>
      rw [List.mapM_cons, hstep x List.mem_cons_self,
        ih fun y hy => hstep y (List.mem_cons_of_mem x hy)]
      rfl

namespace Passage

/-- The texts that a passage must have are there. -/
structure Valid (passage : Passage) : Prop where
  sourcePath : passage.sourcePath ≠ []
  content : passage.content ≠ []
  fingerprint : passage.fingerprint ≠ []

/-- A text that is required is not empty. -/
theorem requiredText_ne_nil {name value : Text} {fields : List (Text × Json)}
    (hread : requiredText name fields = .ok value) : value ≠ [] := by
  unfold requiredText at hread
  split at hread
  · cases hread
  · split at hread
    · cases hread
    · split at hread
      · cases hread
      · rename_i hnonempty
        cases hread
        simpa using hnonempty
  · cases hread

/-- Only valid passages come from outside. -/
theorem valid_of_read {fields : List (Text × Json)} {passage : Passage}
    (hread : read fields = .ok passage) : passage.Valid := by
  have hfields : ofFields fields = .ok passage := by
    unfold read at hread
    split at hread
    · cases hread
    · cases hchecked : ofFields fields with
      | error faults => simp [hchecked, Except.mapError] at hread
      | ok checked => simpa [hchecked, Except.mapError] using hread
  unfold ofFields at hfields
  dsimp only at hfields
  split at hfields
  · rename_i hpath _ hcontent _ hmark _
    cases hfields
    exact ⟨requiredText_ne_nil hpath, requiredText_ne_nil hcontent, requiredText_ne_nil hmark⟩
  · cases hfields

/-- A passage as it is listed: without its vector, an empty title being none. -/
def listed (passage : Passage) : Passage :=
  { passage with
    sectionTitle := passage.sectionTitle.filter (!·.isEmpty)
    embedding := [] }

end Passage

/-- The row of a valid passage shows that passage. -/
theorem Row.passage_ofPassage {passage : Passage} (hvalid : passage.Valid) :
    (Row.ofPassage passage).passage [] = .ok passage.listed := by
  have hfaults : (Row.ofPassage passage).faults = [] := by
    simp [Row.faults, Row.ofPassage, hvalid.sourcePath, hvalid.content, hvalid.fingerprint]
  rw [Row.passage, hfaults]
  rfl

namespace Table

/-- The first items of a list; a negative limit is none. -/
def limited {α : Type} (limit : Int) (xs : List α) : List α :=
  if limit < 0 then xs else xs.take limit.toNat

/-- The passages of a document are listed in order, as far as the limit goes. -/
theorem bySource_ofPassages {passages : List Passage} (hvalid : ∀ p ∈ passages, p.Valid)
    (sourcePath : Text) (limit : Int) :
    bySource (passages.map Row.ofPassage) sourcePath limit =
      if sourcePath = [] then .ok []
      else if fitsStore limit then
        .ok ((limited limit (passages.filter (·.sourcePath = sourcePath))).map Passage.listed)
      else .error .integerBeyondStore := by
  have hrows : (passages.map Row.ofPassage).filter (fun row => row.sourcePath = sourcePath) =
      (passages.filter (·.sourcePath = sourcePath)).map Row.ofPassage := by
    rw [List.filter_map]
    rfl
  have hlimited : ∀ rows : List Passage,
      (if limit < 0 then rows.map Row.ofPassage else (rows.map Row.ofPassage).take limit.toNat) =
        (limited limit rows).map Row.ofPassage := by
    intro rows
    unfold limited
    split <;> simp
  have hshown : ∀ rows : List Passage, (∀ p ∈ rows, p.Valid) →
      (rows.map Row.ofPassage).mapM (fun row => row.passage []) =
        .ok (rows.map Passage.listed) := by
    intro rows hrows
    rw [List.mapM_map]
    exact mapM_eq_ok fun p hp => Row.passage_ofPassage (hrows p hp)
  have hsub : ∀ p ∈ limited limit (passages.filter (·.sourcePath = sourcePath)), p.Valid := by
    intro p hp
    apply hvalid
    unfold limited at hp
    split at hp
    · exact List.mem_of_mem_filter hp
    · exact List.mem_of_mem_filter (List.mem_of_mem_take hp)
  simp only [bySource, hrows, hlimited, hshown _ hsub, List.isEmpty_iff]
  split
  · rfl
  · cases fitsStore limit <;> simp

/-- The documents of a table are told once each, in the order of code points. -/
theorem statistics_sources (table : Table) :
    table.statistics.sources.Nodup ∧
      (table.statistics.sources.Pairwise fun s t => Text.atMost s t = true) ∧
      ∀ path, path ∈ table.statistics.sources ↔ path ∈ table.map Row.sourcePath := by
  refine ⟨?_, Text.pairwise_mergeSort_atMost _, fun path => ?_⟩
  · exact (List.mergeSort_perm _ _).nodup_iff.mpr (nodup_distinct _)
  · simp [statistics]

end Table

end ScriptDocs
