/-
# Candidates for the table

A document offers its chunks as candidates for rows. A candidate is fresh where no row
and no earlier candidate has its fingerprint. Putting the fresh candidates of a list
behind the rows of a table is an action of lists: it can be done part by part, and doing
a part again that has been done before adds nothing. That is all there is to ingesting
twice, and to going on after an interruption.
-/

import ScriptDocs.Ingest.Run
import ScriptDocs.Proofs.Distinct
import ScriptDocs.Proofs.Store.Upsert

namespace ScriptDocs

/-- A piece of a document, and the path of the document. -/
structure Candidate where
  path : Text
  piece : Piece
  deriving DecidableEq, Repr

namespace Candidate

/-- The text that is stored and embedded. -/
def content (candidate : Candidate) : Text :=
  candidate.piece.chunk.content

/-- The fingerprint of that text. -/
def fingerprint (candidate : Candidate) : Text :=
  candidate.piece.chunk.fingerprint

/-- The row that a candidate becomes, given the vector of each text; an empty title is none. -/
def row (vectorOf : Text → Vector64) (candidate : Candidate) : Row where
  sourcePath := candidate.path
  sectionTitle := if candidate.piece.title = [] then none else some candidate.piece.title
  content := candidate.content
  vector := .vector (vectorOf candidate.content)
  fingerprint := candidate.fingerprint

end Candidate

/-- The candidates of a document. -/
def candidatesOf (path text : Text) : List Candidate :=
  (piecesOf text).map (Candidate.mk path)

namespace Table

variable {vectorOf : Text → Vector64} {table : Table}

/-- The candidates whose fingerprints are not stored, of those with one fingerprint the first. -/
def fresh (table : Table) (candidates : List Candidate) : List Candidate :=
  (firstOfEach Candidate.fingerprint candidates).filter (·.fingerprint ∉ table.fingerprints)

/-- The table with the fresh candidates behind its rows. -/
def grown (vectorOf : Text → Vector64) (table : Table) (candidates : List Candidate) : Table :=
  table ++ (table.fresh candidates).map (Candidate.row vectorOf)

theorem fingerprints_append (first second : Table) :
    fingerprints (first ++ second) = first.fingerprints ++ second.fingerprints :=
  List.map_append

theorem fresh_cons_of_held {candidate : Candidate} (candidates : List Candidate)
    (hheld : candidate.fingerprint ∈ table.fingerprints) :
    table.fresh (candidate :: candidates) = table.fresh candidates := by
  unfold fresh
  rw [firstOfEach, List.filter_cons_of_neg (by simpa using hheld), List.filter_filter]
  refine List.filter_congr fun other _ => ?_
  by_cases hsame : other.fingerprint = candidate.fingerprint <;> simp [hsame, hheld]

theorem fresh_cons_of_new {candidate : Candidate} (candidates : List Candidate)
    (hnew : candidate.fingerprint ∉ table.fingerprints) :
    table.fresh (candidate :: candidates) =
      candidate :: fresh (table ++ [candidate.row vectorOf]) candidates := by
  unfold fresh
  rw [firstOfEach, List.filter_cons_of_pos (by simpa using hnew), List.filter_filter]
  refine congrArg _ (List.filter_congr fun other _ => ?_)
  rw [fingerprints_append]
  by_cases hsame : other.fingerprint = candidate.fingerprint <;>
    simp [fingerprints, Candidate.row, hsame]

theorem length_fresh_le (candidates : List Candidate) :
    (table.fresh candidates).length ≤ candidates.length :=
  (List.filter_sublist.trans (firstOfEach_sublist _ _)).length_le

@[simp]
theorem grown_nil : table.grown vectorOf [] = table := by
  simp [grown, fresh, firstOfEach]

theorem grown_cons_of_held {candidate : Candidate} (candidates : List Candidate)
    (hheld : candidate.fingerprint ∈ table.fingerprints) :
    table.grown vectorOf (candidate :: candidates) = table.grown vectorOf candidates := by
  rw [grown, fresh_cons_of_held candidates hheld, ← grown]

theorem grown_cons_of_new {candidate : Candidate} (candidates : List Candidate)
    (hnew : candidate.fingerprint ∉ table.fingerprints) :
    table.grown vectorOf (candidate :: candidates) =
      grown vectorOf (table ++ [candidate.row vectorOf]) candidates := by
  rw [grown, fresh_cons_of_new candidates hnew, grown, List.map_cons, List.append_assoc]
  rfl

/-- Afterwards exactly the fingerprints of the rows and of the candidates are stored. -/
theorem mem_fingerprints_grown (candidates : List Candidate) (fingerprint : Text) :
    fingerprint ∈ (table.grown vectorOf candidates).fingerprints ↔
      fingerprint ∈ table.fingerprints ∨ fingerprint ∈ candidates.map Candidate.fingerprint := by
  induction candidates generalizing table with
  | nil => simp
  | cons candidate candidates ih =>
      by_cases hheld : candidate.fingerprint ∈ table.fingerprints
      · rw [grown_cons_of_held _ hheld, ih, List.map_cons, List.mem_cons]
        constructor
        · rintro (h | h)
          · exact Or.inl h
          · exact Or.inr (Or.inr h)
        · rintro (h | rfl | h)
          · exact Or.inl h
          · exact Or.inl hheld
          · exact Or.inr h
      · rw [grown_cons_of_new _ hheld, ih, fingerprints_append, List.mem_append, List.map_cons,
          List.mem_cons, or_assoc]
        simp [fingerprints, Candidate.row]

/-- Of a second list the candidates are fresh that are so once the first one is put in. -/
theorem fresh_append (vectorOf : Text → Vector64) (first second : List Candidate) :
    table.fresh (first ++ second) =
      table.fresh first ++ (table.grown vectorOf first).fresh second := by
  unfold fresh
  rw [firstOfEach_append, List.filter_append, List.filter_filter]
  refine congrArg _ (List.filter_congr fun candidate _ => ?_)
  rw [← Bool.decide_and, decide_eq_decide, mem_fingerprints_grown, not_or]

/-- Candidates can be put in part by part. -/
theorem grown_append (first second : List Candidate) :
    table.grown vectorOf (first ++ second) =
      (table.grown vectorOf first).grown vectorOf second := by
  rw [grown, fresh_append vectorOf, List.map_append, ← List.append_assoc, ← grown, ← grown]

/-- Candidates that are stored already add nothing. -/
theorem fresh_eq_nil {candidates : List Candidate}
    (hheld : ∀ candidate ∈ candidates, candidate.fingerprint ∈ table.fingerprints) :
    table.fresh candidates = [] := by
  unfold fresh
  rw [List.filter_eq_nil_iff]
  intro candidate hcandidate
  simpa using hheld candidate ((firstOfEach_sublist _ _).subset hcandidate)

/-- Putting in again what has been put in before adds nothing. -/
theorem grown_again (candidates : List Candidate) :
    (table.grown vectorOf candidates).grown vectorOf candidates =
      table.grown vectorOf candidates := by
  have hnone : (table.grown vectorOf candidates).fresh candidates = [] := by
    refine fresh_eq_nil fun candidate hcandidate => ?_
    rw [mem_fingerprints_grown]
    exact Or.inr (List.mem_map_of_mem hcandidate)
  rw [grown, hnone, List.map_nil, List.append_nil]

/-- Putting in a beginning first makes no difference to putting in the whole. -/
theorem grown_of_prefix {part candidates : List Candidate} (hpart : part <+: candidates) :
    (table.grown vectorOf part).grown vectorOf candidates = table.grown vectorOf candidates := by
  obtain ⟨rest, rfl⟩ := hpart
  rw [grown_append, grown_again, ← grown_append]

/-- A fingerprint that was stored once is stored once afterwards. -/
theorem nodup_fingerprints_grown (candidates : List Candidate)
    (hdistinct : table.fingerprints.Nodup) :
    (table.grown vectorOf candidates).fingerprints.Nodup := by
  induction candidates generalizing table with
  | nil => rwa [grown_nil]
  | cons candidate candidates ih =>
      by_cases hheld : candidate.fingerprint ∈ table.fingerprints
      · rw [grown_cons_of_held _ hheld]
        exact ih hdistinct
      · rw [grown_cons_of_new _ hheld]
        apply ih
        rw [fingerprints_append]
        simpa [fingerprints, Candidate.row] using hdistinct.concat hheld

/-- Every row is an old one or holds the vector of its text. -/
theorem mem_grown {candidates : List Candidate} {row : Row}
    (hrow : row ∈ table.grown vectorOf candidates) :
    row ∈ table ∨ row.vector = .vector (vectorOf row.content) := by
  rcases List.mem_append.mp hrow with hold | hnew
  · exact Or.inl hold
  · obtain ⟨candidate, -, rfl⟩ := List.mem_map.mp hnew
    exact Or.inr rfl

end Table

end ScriptDocs
