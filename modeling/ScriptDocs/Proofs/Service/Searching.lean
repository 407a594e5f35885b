/-
# Which queries are answered

A query is answered just where its vector comes in time and the store can be searched, and the hits
are then the first ones of the ranking for that vector. So answers to one query differ only in how
far they go.
-/

import ScriptDocs.Proofs.Service.Description
import ScriptDocs.Proofs.Store.Ranking
import ScriptDocs.Proofs.Work

namespace ScriptDocs.Service

variable {service : Service} {query : Text} {vector : Vector64}

/-- The embedding provider answers a query with a vector in time. -/
def Embeds (service : Service) (query : Text) (vector : Vector64) : Prop :=
  (Work.within service.timeLimit .searchTimedOut (service.embed query)).outcome = .done vector

/-- A query has one vector. -/
theorem Embeds.unique {other : Vector64} (hfirst : service.Embeds query vector)
    (hsecond : service.Embeds query other) : vector = other :=
  Outcome.done.inj (hfirst.symm.trans hsecond)

theorem search_outcome_eq_done_iff {k : Int} {hits : List Hit} :
    (service.search query k).outcome = .done hits ↔
      ∃ vector, service.Embeds query vector ∧ (0 < k → service.store.Searchable) ∧
        hits = Table.firstHits vector service.store.table k := by
  rw [search, Work.within_bind_outcome_eq_done_iff]
  apply exists_congr
  intro vector
  rw [Work.outcome_ofExcept_eq_done_iff, Store.search_eq_ok_iff]
  rfl

/-- The best score of hits is always a number. -/
theorem bestScore_ne_notANumber (vector : Vector64) (entries : List (Row × Nat)) :
    bestScore (entries.map fun entry => entry.1.hit vector) ≠ .notANumber := by
  cases entries with
  | nil => exact nofun
  | cons entry entries => exact entry.1.similarityTo_ne_notANumber vector

/-- Rows that all lie in the direction of all queries can be searched. -/
theorem searchable_ofRows {table : Table} (hfaults : ∀ row ∈ table, row.faults = [])
    (hvectors : ∀ row ∈ table, row.vector = .vector [.one]) : (ofRows table).store.Searchable where
  unbroken := rfl
  valid row hrow := Row.faults_eq_nil_iff.mp (hfaults row hrow)
  readable row hrow := by
    rw [Row.Readable, hvectors row hrow]
    exact ⟨some [.one], rfl⟩

end ScriptDocs.Service
