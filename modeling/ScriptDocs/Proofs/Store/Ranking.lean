/-
# Which searches are answered

A search for something with a vector is answered just where the rows can be worked on, and each of
them can be shown and read. As every score is a number, the hits are then the first ones of the
ranking, so that two searches for the same vector differ only in how far they go.
-/

import ScriptDocs.Proofs.Store.Search
import ScriptDocs.Proofs.Store.Similarity
import ScriptDocs.Proofs.Lists

namespace ScriptDocs

theorem Number.mapM_double_map (vector : Vector64) :
    (vector.map Number.double).mapM Number.double? = some vector := by
  rw [mapM_eq_some_iff, List.forall₂_map_left_iff]
  exact List.forall₂_same.mpr fun _ _ => rfl

/-- Where every step succeeds, the steps succeed as a whole. -/
theorem exists_mapM_eq_ok {ε α β : Type} {step : α → Except ε β} {xs : List α}
    (hstep : ∀ x ∈ xs, ∃ y, step x = .ok y) : ∃ ys, xs.mapM step = .ok ys := by
  cases hdone : xs.mapM step with
  | ok ys => exact ⟨ys, rfl⟩
  | error failure =>
      obtain ⟨x, hx, failure, hfailed⟩ := mapM_fails_iff.mp ⟨failure, hdone⟩
      obtain ⟨y, hy⟩ := hstep x hx
      rw [hy] at hfailed
      cases hfailed

namespace Row

variable {row : Row}

/-- The score of a row is always a number. -/
theorem similarityTo_ne_notANumber (vector : Vector64) (row : Row) :
    row.similarityTo vector ≠ .notANumber := by
  unfold similarityTo
  split
  · exact similarity_ne_notANumber vector _
  · exact nofun

theorem faults_eq_nil_iff : row.faults = [] ↔ row.Valid := by
  constructor
  · intro hnone
    have hall := List.filterMap_eq_nil_iff.mp hnone
    have hpath := hall _ List.mem_cons_self
    have hcontent := hall _ (List.mem_cons_of_mem _ List.mem_cons_self)
    have hmark := hall _ (List.mem_cons_of_mem _ (List.mem_cons_of_mem _ List.mem_cons_self))
    constructor
    · intro hempty
      rw [hempty] at hpath
      cases hpath
    · intro hempty
      rw [hempty] at hcontent
      cases hcontent
    · intro hempty
      rw [hempty] at hmark
      cases hmark
  · exact Valid.faults

/-- Only a row that lacks nothing is shown. -/
theorem valid_of_passage {embedding : Vector64} {passage : Passage}
    (hshown : row.passage embedding = .ok passage) : row.Valid := by
  unfold Row.passage at hshown
  split at hshown
  · exact faults_eq_nil_iff.mp ‹_›
  · cases hshown

theorem Valid.exists_passage (hvalid : row.Valid) (embedding : Vector64) :
    ∃ passage, row.passage embedding = .ok passage := by
  rw [Row.passage, hvalid.faults]
  exact ⟨_, rfl⟩

end Row

namespace Table

variable {table : Table} {vector : Vector64} {hits : List Hit}

/-- Only a row that lacks nothing and whose vector is read is scored. -/
theorem valid_of_score {query : List Number} {row : Row} {hit : Hit}
    (hscored : score query row = .ok hit) : row.Valid ∧ row.Readable := by
  unfold score at hscored
  obtain ⟨vector?, hread, hrest⟩ := exists_of_bind_eq_ok hscored
  obtain ⟨score, -, hrest⟩ := exists_of_bind_eq_ok hrest
  obtain ⟨passage, hshown, -⟩ := exists_of_bind_eq_ok hrest
  exact ⟨Row.valid_of_passage hshown, vector?, hread⟩

/-- Rows that are all equally similar are ranked in the order of their insertion. -/
theorem ranking_eq_zipIdx {score : Binary64}
    (hsame : ∀ row ∈ table, row.similarityTo vector = score) :
    ranking vector table = table.zipIdx := by
  have hnumbers : (table.zipIdx.map Prod.snd).Pairwise (· ≤ ·) := by
    rw [List.zipIdx_map_snd]
    exact List.pairwise_le_range'
  apply List.mergeSort_of_pairwise
  refine (List.pairwise_map.mp hnumbers).imp_of_mem fun {first second} hfirst hsecond hle => ?_
  have hfirst' := hsame first.1 (List.fst_mem_of_mem_zipIdx hfirst)
  have hsecond' := hsame second.1 (List.fst_mem_of_mem_zipIdx hsecond)
  simp only [List.zipIdxLE, atLeast, hfirst', hsecond', le_refl, decide_true, if_true, hle]

/-- The first hits of the ranking of a table. -/
def firstHits (vector : Vector64) (table : Table) (k : Int) : List Hit :=
  ((ranking vector table).take k.toNat).map fun entry => entry.1.hit vector

/-- Where a search for something is answered, every row can be shown and read. -/
theorem valid_of_search {query : List Number} {k : Int} (hk : 0 < k)
    (hfound : table.search query k = .ok hits) : ∀ row ∈ table, row.Valid ∧ row.Readable := by
  rw [search, if_neg (not_le.mpr hk)] at hfound
  intro row hrow
  cases hscored : score query row with
  | ok hit => exact valid_of_score hscored
  | error failure =>
      obtain ⟨failure, hfailed⟩ := mapM_fails_iff.mpr ⟨row, hrow, failure, hscored⟩
      rw [hfailed] at hfound
      cases hfound

end Table

namespace Store

variable {store : Store} {vector : Vector64} {k : Int} {hits : List Hit}

/-- The rows can be worked on, and each of them can be shown and read. -/
structure Searchable (store : Store) : Prop where
  unbroken : store.isBroken = false
  valid : ∀ row ∈ store.table, row.Valid
  readable : ∀ row ∈ store.table, row.Readable

/-- A search is answered just where nothing is asked for or the store can be searched, and its hits
are the first ones of the ranking. -/
theorem search_eq_ok_iff : store.search (vector.map Number.double) k = .ok hits ↔
    (0 < k → store.Searchable) ∧ hits = Table.firstHits vector store.table k := by
  by_cases hk : k ≤ 0
  · have hnothing : Table.firstHits vector store.table k = [] := by
      rw [Table.firstHits, Int.toNat_of_nonpos hk]
      rfl
    rw [search, if_pos hk, hnothing, Except.ok.injEq, eq_comm,
      and_iff_right fun hpos => absurd hk (not_le.mpr hpos)]
  · have hpos : 0 < k := not_le.mp hk
    have hanswered : store.Searchable → store.search (vector.map Number.double) k =
        .ok (Table.firstHits vector store.table k) := by
      intro hstore
      rw [search_of_unbroken hstore.unbroken]
      exact Table.search_eq_take_ranking (Number.mapM_double_map vector) hstore.valid
        hstore.readable (fun row _ => row.similarityTo_ne_notANumber vector) k
    constructor
    · intro hfound
      have hstore : store.Searchable := by
        rw [search, if_neg hk] at hfound
        obtain ⟨rows, hrows, hfound⟩ := exists_of_bind_eq_ok hfound
        unfold Store.rows at hrows
        split at hrows
        · cases hrows
        · rename_i hunbroken
          cases hrows
          have hall := Table.valid_of_search hpos hfound
          exact ⟨by simpa using hunbroken, fun row hrow => (hall row hrow).1,
            fun row hrow => (hall row hrow).2⟩
      rw [hanswered hstore, Except.ok.injEq] at hfound
      exact ⟨fun _ => hstore, hfound.symm⟩
    · rintro ⟨hstore, rfl⟩
      exact hanswered (hstore hpos)

/-- Where a store can be searched, the passages of a document are shown. -/
theorem Searchable.exists_bySource (hstore : store.Searchable) (source : Text) {limit : Int}
    (hlimit : fitsStore limit = true) : ∃ passages, store.bySource source limit = .ok passages := by
  unfold Store.bySource
  split
  · exact ⟨[], rfl⟩
  rw [rows_of_unbroken hstore.unbroken]
  show ∃ passages, Table.bySource store.table source limit = .ok passages
  unfold Table.bySource
  split
  · exact ⟨[], rfl⟩
  rw [hlimit, if_neg (by decide)]
  apply exists_mapM_eq_ok
  intro row hrow
  have hfound : row ∈ store.table.filter fun row => row.sourcePath = source := by
    split at hrow
    · exact hrow
    · exact List.mem_of_mem_take hrow
  exact (hstore.valid row (List.mem_of_mem_filter hfound)).exists_passage []

end Store

end ScriptDocs
