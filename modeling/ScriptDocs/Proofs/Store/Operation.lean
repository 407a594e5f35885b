/-
# Runs of operations on a store

The operations on one view of the table, as steps with answers. As long as nothing is
rolled back, a view that starts with an empty table keeps exactly the passages it has
accepted: its rows are these passages in order, their fingerprints differ, their
vectors have one length, and what the view remembers of that length is what the rows
tell. So a refused or known passage leaves no trace at all, not only none in the rows.
-/

import ScriptDocs.Proofs.Store.Reading
import ScriptDocs.Proofs.Store.Upsert

namespace ScriptDocs

/-- What is asked of a view of the table. -/
inductive Operation
  | upsert (passage : Passage)
  | commit
  | rollback
  | holds (fingerprint : Text)
  | bySource (sourcePath : Text) (limit : Int)
  | search (query : List Number) (k : Int)
  | count
  | statistics
  deriving DecidableEq, Repr

/-- What a view of the table answers. -/
inductive Answer
  | inserted (isNew : Bool)
  | settled
  | held (isStored : Bool)
  | listed (passages : List Passage)
  | ranked (hits : List Hit)
  | counted (rows : Nat)
  | told (figures : Statistics)
  deriving DecidableEq, Repr

namespace Store

/-- One operation: the view behind it, and the answer. -/
def perform (store : Store) : Operation → Store × Except Failure Answer
  | .upsert passage => ((store.upsert passage).1, (store.upsert passage).2.map .inserted)
  | .commit => (store.commit.1, store.commit.2.map fun _ => .settled)
  | .rollback => (store.rollback, .ok .settled)
  | .holds fingerprint => (store, (store.holds fingerprint).map .held)
  | .bySource sourcePath limit => (store, (store.bySource sourcePath limit).map .listed)
  | .search query k => (store, (store.search query k).map .ranked)
  | .count => (store, store.count.map .counted)
  | .statistics => (store, store.statistics.map .told)

/-- The view behind some operations. -/
def after (store : Store) (operations : List Operation) : Store :=
  operations.foldl (fun store operation => (store.perform operation).1) store

/-- The answers to some operations. -/
def answers : Store → List Operation → List (Except Failure Answer)
  | _, [] => []
  | store, operation :: operations =>
    (store.perform operation).2 :: answers (store.perform operation).1 operations

/-- The passage that an operation adds, if it adds one. -/
def added (store : Store) : Operation → List Passage
  | .upsert passage =>
    match (store.upsert passage).2 with
    | .ok true => [passage]
    | _ => []
  | _ => []

theorem added_of_ok {store : Store} {passage : Passage}
    (hadded : (store.upsert passage).2 = .ok true) :
    store.added (.upsert passage) = [passage] := by
  simp [added, hadded]

theorem added_of_ne {store : Store} {passage : Passage}
    (hnothing : (store.upsert passage).2 ≠ .ok true) :
    store.added (.upsert passage) = [] := by
  simp only [added]

/-- The passages that some operations add, in order. -/
def accepted : Store → List Operation → List Passage
  | _, [] => []
  | store, operation :: operations =>
    store.added operation ++ accepted (store.perform operation).1 operations

/-- Whether a vector differs from those of some passages in length, or is empty. -/
def Unfit (kept : List Passage) (vector : Vector64) : Prop :=
  vector = [] ∨ ∃ stored ∈ kept, stored.embedding.length ≠ vector.length

/-- A view whose rows are some passages, and that knows of their vectors what the rows tell. -/
structure Records (store : Store) (kept : List Passage) : Prop where
  unbroken : store.isBroken = false
  supported : kept ≠ [] → store.dialect ∈ dialects
  rows : store.table = kept.map Row.ofPassage
  distinct : (kept.map Passage.fingerprint).Nodup
  unlearnt : kept = [] → store.vectorLength = none
  learnt : ∀ passage ∈ kept,
    passage.embedding ≠ [] ∧ store.vectorLength = some passage.embedding.length

namespace Records

variable {store : Store} {kept : List Passage}

theorem empty (dialect : Text) : ({ dialect } : Store).Records [] where
  unbroken := rfl
  supported h := absurd rfl h
  rows := rfl
  distinct := List.nodup_nil
  unlearnt _ := rfl
  learnt _ h := absurd h List.not_mem_nil

theorem fingerprints (hrecords : store.Records kept) :
    store.table.fingerprints = kept.map Passage.fingerprint := by
  rw [Table.fingerprints, hrecords.rows, List.map_map]
  rfl

/-- The remembered length is all that is known of the vectors. -/
theorem knownLength (hrecords : store.Records kept) :
    store.knownLength = .ok store.vectorLength := by
  cases hkept : kept with
  | nil =>
      have hrows := hrecords.rows
      rw [hkept] at hrows
      simp [Store.knownLength, hrecords.unlearnt hkept, rows_of_unbroken hrecords.unbroken,
        hrows, bind, Except.bind, Table.vectorLength?]
  | cons passage rest =>
      have hlearnt := (hrecords.learnt passage (hkept ▸ List.mem_cons_self)).2
      simp [Store.knownLength, hlearnt]

/-- A vector fits exactly where no kept passage has one of another length. -/
theorem fits_iff (hrecords : store.Records kept) (vector : Vector64) :
    store.Fits vector.length ↔ ∀ stored ∈ kept, stored.embedding.length = vector.length := by
  rw [Fits, hrecords.knownLength]
  constructor
  · intro hfits stored hstored
    have hlearnt := (hrecords.learnt stored hstored).2
    rcases hfits with h | h
    · simp [hlearnt] at h
    · simpa [hlearnt] using h
  · intro hall
    cases hkept : kept with
    | nil => exact Or.inl (by rw [hrecords.unlearnt hkept])
    | cons stored rest =>
        have hmem : stored ∈ kept := hkept ▸ List.mem_cons_self
        exact Or.inr (by rw [(hrecords.learnt stored hmem).2, hall stored hmem])

theorem not_unfit_iff (hrecords : store.Records kept) (vector : Vector64) :
    ¬ Unfit kept vector ↔ vector ≠ [] ∧ store.Fits vector.length := by
  rw [hrecords.fits_iff]
  simp [Unfit]

/-- The check has nothing to learn where the length is remembered as the rows tell it. -/
theorem check_fst (hrecords : store.Records kept) (vector : Vector64) :
    (store.check vector).1 = store := by
  unfold check
  rw [hrecords.knownLength]
  split <;> rfl

/-- An insertion that adds no row leaves the view as it is. -/
theorem upsert_fst (hrecords : store.Records kept) {passage : Passage}
    (hnothing : (store.upsert passage).2 ≠ .ok true) : (store.upsert passage).1 = store := by
  by_cases hfits : passage.embedding ≠ [] ∧ store.Fits passage.embedding.length
  · rw [upsert_of_fits hfits.1 hfits.2, hrecords.check_fst] at hnothing ⊢
    exact insert_eq_self hnothing
  · obtain ⟨failure, hrefused⟩ := upsert_of_not_fits hfits
    rw [hrefused, hrecords.check_fst]

/-- An unfit vector is refused with a failure of the store. -/
theorem upsert_of_unfit (hrecords : store.Records kept) {passage : Passage}
    (hunfit : Unfit kept passage.embedding) :
    ∃ failure, (store.upsert passage).2 = .error failure ∧ failure.kind = .storage := by
  by_cases hempty : passage.embedding = []
  · exact ⟨.vectorEmpty, by simp [upsert, check, hempty], rfl⟩
  · obtain ⟨stored, hstored, hlength⟩ := hunfit.resolve_left hempty
    have hlearnt := (hrecords.learnt stored hstored).2
    refine ⟨.vectorLengthDiffers passage.embedding.length stored.embedding.length, ?_, rfl⟩
    simp [upsert, check, hempty, hrecords.knownLength, hlearnt, checkLength, Ne.symm hlength]

/-- In a database of another kind every vector is refused. -/
theorem upsert_of_unsupported (hrecords : store.Records kept) (passage : Passage)
    (hunsupported : store.dialect ∉ dialects) :
    ∃ failure, (store.upsert passage).2 = .error failure ∧ failure.kind = .storage := by
  by_cases hunfit : Unfit kept passage.embedding
  · exact hrecords.upsert_of_unfit hunfit
  · obtain ⟨hnonempty, hfits⟩ := (hrecords.not_unfit_iff passage.embedding).mp hunfit
    refine ⟨.dialectUnsupported store.dialect, ?_, rfl⟩
    rw [upsert_of_fits hnonempty hfits, hrecords.check_fst, insert, if_pos hunsupported]

/-- A fitting vector leaves the answer to the fingerprints. -/
theorem upsert_of_not_unfit (hrecords : store.Records kept) (hsupported : store.dialect ∈ dialects)
    {passage : Passage} (hfit : ¬ Unfit kept passage.embedding) :
    (store.upsert passage).2 =
      .ok (decide (passage.fingerprint ∉ kept.map Passage.fingerprint)) := by
  obtain ⟨hnonempty, hfits⟩ := (hrecords.not_unfit_iff passage.embedding).mp hfit
  have husable : store.Usable := ⟨hrecords.unbroken, hsupported⟩
  by_cases hheld : passage.fingerprint ∈ kept.map Passage.fingerprint
  · rw [upsert_of_held husable hnonempty hfits (hrecords.fingerprints ▸ hheld)]
    simp [hheld]
  · rw [upsert_of_new husable hnonempty hfits (hrecords.fingerprints ▸ hheld)]
    simp [hheld]

/-- A passage that is added is the last one kept, in the same database. -/
theorem upsert_of_added (hrecords : store.Records kept) {passage : Passage}
    (hadded : (store.upsert passage).2 = .ok true) :
    (store.upsert passage).1.table = store.table ++ [Row.ofPassage passage] ∧
      (store.upsert passage).1.dialect = store.dialect ∧
      (store.upsert passage).1.Records (kept ++ [passage]) := by
  have hfit : ¬ Unfit kept passage.embedding := by
    intro hunfit
    obtain ⟨failure, hfailed, -⟩ := hrecords.upsert_of_unfit hunfit
    simp [hfailed] at hadded
  have hsupported : store.dialect ∈ dialects := by
    by_contra hunsupported
    obtain ⟨failure, hfailed, -⟩ := hrecords.upsert_of_unsupported passage hunsupported
    simp [hfailed] at hadded
  have hnew : passage.fingerprint ∉ kept.map Passage.fingerprint := by
    simpa [hrecords.upsert_of_not_unfit hsupported hfit] using hadded
  obtain ⟨hnonempty, hfits⟩ := (hrecords.not_unfit_iff passage.embedding).mp hfit
  have hlengths := (hrecords.fits_iff passage.embedding).mp hfits
  rw [upsert_of_new ⟨hrecords.unbroken, hsupported⟩ hnonempty hfits
    (hrecords.fingerprints ▸ hnew)]
  refine ⟨rfl, rfl, hrecords.unbroken, fun _ => hsupported, ?_, ?_, ?_, ?_⟩
  · simp [hrecords.rows]
  · simpa using hrecords.distinct.concat hnew
  · simp
  · intro stored hstored
    rcases List.mem_append.mp hstored with hold | hlast
    · exact ⟨(hrecords.learnt stored hold).1, by rw [hlengths stored hold]⟩
    · rw [List.mem_singleton.mp hlast]
      exact ⟨hnonempty, rfl⟩

/-- One operation other than a rollback keeps the passages and adds the accepted one. -/
theorem perform (hrecords : store.Records kept) {operation : Operation}
    (hforward : operation ≠ .rollback) :
    (store.perform operation).1.dialect = store.dialect ∧
      (store.perform operation).1.Records (kept ++ store.added operation) := by
  cases operation with
  | upsert passage =>
      by_cases hadded : (store.upsert passage).2 = .ok true
      · rw [added_of_ok hadded]
        exact (hrecords.upsert_of_added hadded).2
      · rw [added_of_ne hadded, List.append_nil, Store.perform, hrecords.upsert_fst hadded]
        exact ⟨rfl, hrecords⟩
  | commit =>
      have hrows := rows_of_unbroken hrecords.unbroken
      simp only [Store.perform, commit, hrows, added, List.append_nil]
      exact ⟨trivial, hrecords.unbroken, hrecords.supported, hrecords.rows, hrecords.distinct,
        hrecords.unlearnt, hrecords.learnt⟩
  | rollback => exact absurd rfl hforward
  | holds _ | bySource _ _ | search _ _ | count | statistics =>
      simpa [Store.perform, added] using hrecords

/-- A run without a rollback keeps the passages and adds the accepted ones. -/
theorem after (hrecords : store.Records kept) {operations : List Operation}
    (hforward : .rollback ∉ operations) :
    (store.after operations).dialect = store.dialect ∧
      (store.after operations).Records (kept ++ store.accepted operations) := by
  induction operations generalizing store kept with
  | nil => simpa [Store.after, accepted] using hrecords
  | cons operation operations ih =>
      rw [List.mem_cons, not_or] at hforward
      obtain ⟨hdialect, hstep⟩ := hrecords.perform (Ne.symm hforward.1)
      obtain ⟨hsame, hrest⟩ := ih hstep hforward.2
      rw [List.append_assoc] at hrest
      exact ⟨hsame.trans hdialect, hrest⟩

end Records

/-- How a view answers to one more passage, given the passages it keeps. -/
structure Inserts (store : Store) (kept : List Passage) (passage : Passage) : Prop where
  /-- It is refused where the database is of another kind, or its vector is empty or differs
  from a kept one in length. -/
  refuses : (∃ failure, (store.upsert passage).2 = .error failure ∧ failure.kind = .storage) ↔
    store.dialect ∉ dialects ∨ Unfit kept passage.embedding
  /-- Otherwise it is told whether the fingerprint is new. -/
  tells : ¬ (store.dialect ∉ dialects ∨ Unfit kept passage.embedding) →
    (store.upsert passage).2 =
      .ok (decide (passage.fingerprint ∉ kept.map Passage.fingerprint))
  /-- Where it is new, one row is added behind the others. -/
  adds : (store.upsert passage).2 = .ok true →
    (store.upsert passage).1.table = store.table ++ [Row.ofPassage passage]
  /-- Where it is not, no later operation can tell that it was tried. -/
  leaves : (store.upsert passage).2 ≠ .ok true →
    (store.upsert passage).1.table = store.table ∧
      ∀ later, (store.upsert passage).1.answers later = store.answers later

/-- How a view answers its readers, given the passages it keeps. -/
structure Reads (store : Store) (kept : List Passage) : Prop where
  holds : ∀ fingerprint, store.holds fingerprint =
    .ok (decide (fingerprint ∈ kept.map Passage.fingerprint))
  count : store.count = .ok kept.length
  bySource : ∀ sourcePath limit, store.bySource sourcePath limit =
    if sourcePath = [] then .ok []
    else if fitsStore limit then
      .ok ((Table.limited limit (kept.filter (·.sourcePath = sourcePath))).map Passage.listed)
    else .error .integerBeyondStore
  statistics : ∃ figures, store.statistics = .ok figures ∧ figures.passages = kept.length ∧
    figures.sources.Nodup ∧ (figures.sources.Pairwise fun s t => Text.atMost s t = true) ∧
    ∀ path, path ∈ figures.sources ↔ path ∈ kept.map Passage.sourcePath

namespace Records

variable {store : Store} {kept : List Passage}

theorem inserts (hrecords : store.Records kept) (passage : Passage) :
    store.Inserts kept passage where
  refuses := by
    constructor
    · rintro ⟨failure, hfailed, -⟩
      by_contra hfit
      rw [not_or, not_not] at hfit
      simp [hrecords.upsert_of_not_unfit hfit.1 hfit.2] at hfailed
    · rintro (hunsupported | hunfit)
      · exact hrecords.upsert_of_unsupported passage hunsupported
      · exact hrecords.upsert_of_unfit hunfit
  tells hfit := by
    rw [not_or, not_not] at hfit
    exact hrecords.upsert_of_not_unfit hfit.1 hfit.2
  adds hadded := (hrecords.upsert_of_added hadded).1
  leaves hnothing := by
    rw [hrecords.upsert_fst hnothing]
    exact ⟨rfl, fun _ => rfl⟩

theorem reads (hrecords : store.Records kept) (hvalid : ∀ p ∈ kept, p.Valid) :
    store.Reads kept where
  holds fingerprint := by
    rw [Store.holds, rows_of_unbroken hrecords.unbroken, ← hrecords.fingerprints]
    simp [Except.map, Table.holds_eq]
  count := by
    rw [Store.count, rows_of_unbroken hrecords.unbroken, hrecords.rows]
    simp [Except.map]
  bySource sourcePath limit := by
    rw [Store.bySource, rows_of_unbroken hrecords.unbroken, hrecords.rows]
    simp only [bind, Except.bind, Table.bySource_ofPassages hvalid]
    by_cases hpath : sourcePath = [] <;> simp [hpath]
  statistics := by
    refine ⟨store.table.statistics, ?_, ?_, ?_⟩
    · rw [Store.statistics, rows_of_unbroken hrecords.unbroken]
      rfl
    · simp [Table.statistics, hrecords.rows]
    · simpa [hrecords.rows, Row.ofPassage] using Table.statistics_sources store.table

end Records

/-- Only passages that were offered are accepted. -/
theorem mem_accepted {store : Store} {operations : List Operation} {passage : Passage}
    (haccepted : passage ∈ store.accepted operations) : .upsert passage ∈ operations := by
  induction operations generalizing store with
  | nil => cases haccepted
  | cons operation operations ih =>
      rw [accepted, List.mem_append] at haccepted
      rcases haccepted with hfirst | hlater
      · cases operation with
        | upsert offered =>
            by_cases hadded : (store.upsert offered).2 = .ok true
            · rw [added_of_ok hadded, List.mem_singleton] at hfirst
              exact hfirst ▸ List.mem_cons_self
            · rw [added_of_ne hadded] at hfirst
              cases hfirst
        | commit | rollback | holds _ | bySource _ _ | search _ _ | count | statistics =>
            cases hfirst
      · exact List.mem_cons_of_mem operation (ih hlater)

/-- A view that starts with an empty table and is never rolled back keeps exactly the
passages it has accepted, whatever else it has been asked, and answers insertions and
readers as these passages tell. -/
theorem keeps_accepted (dialect : Text) {operations : List Operation}
    (hforward : .rollback ∉ operations)
    (hvalid : ∀ passage, .upsert passage ∈ operations → passage.Valid) :
    let store := ({ dialect } : Store).after operations
    let kept := ({ dialect } : Store).accepted operations
    store.dialect = dialect ∧
      store.table = kept.map Row.ofPassage ∧ (kept.map Passage.fingerprint).Nodup ∧
      (∃ length ≠ 0, ∀ row ∈ store.table, ∃ vector : Vector64,
        row.vector = .vector vector ∧ vector.length = length) ∧
      (∀ passage, store.Inserts kept passage) ∧ store.Reads kept := by
  intro store kept
  obtain ⟨hdialect, hrecords⟩ : store.dialect = dialect ∧ store.Records kept :=
    (Records.empty dialect).after hforward
  refine ⟨hdialect, hrecords.rows, hrecords.distinct, ?_, hrecords.inserts,
    hrecords.reads fun passage haccepted => hvalid passage (mem_accepted haccepted)⟩
  refine ⟨store.vectorLength.getD 1, ?_, ?_⟩
  · cases hkept : kept with
    | nil => simp [hrecords.unlearnt hkept]
    | cons passage rest =>
        obtain ⟨hnonempty, hlearnt⟩ := hrecords.learnt passage (hkept ▸ List.mem_cons_self)
        simpa [hlearnt] using hnonempty
  · intro row hrow
    rw [hrecords.rows] at hrow
    obtain ⟨passage, hpassage, rfl⟩ := List.mem_map.mp hrow
    exact ⟨passage.embedding, rfl, by simp [(hrecords.learnt passage hpassage).2]⟩

/-- A passage of which little is said. -/
def markedPassage (mark : Char) (embedding : Vector64) : Passage where
  sourcePath := ['a']
  content := [mark]
  embedding := embedding
  fingerprint := [mark]

/-- Insertions of a new passage, a known one, two of the wrong length and another new one,
with a reader and a commit between them. -/
def mixedRun : List Operation :=
  [.upsert (markedPassage 'x' [.one]), .count, .upsert (markedPassage 'x' [.zero]), .commit,
    .upsert (markedPassage 'y' [.one, .one]), .upsert (markedPassage 'y' []),
    .upsert (markedPassage 'z' [.zero])]

theorem valid_of_mem_mixedRun (passage : Passage) (hmem : .upsert passage ∈ mixedRun) :
    passage.Valid := by
  simp only [mixedRun, List.mem_cons, List.not_mem_nil, or_false, reduceCtorEq,
    Operation.upsert.injEq, false_or] at hmem
  rcases hmem with rfl | rfl | rfl | rfl | rfl <;> exact ⟨by decide, by decide, by decide⟩

theorem keeps_accepted_of_mixedRun :
    (.rollback ∉ mixedRun ∧ ∀ passage, .upsert passage ∈ mixedRun → passage.Valid) ∧
    let store := ({} : Store).after mixedRun
    let kept := [markedPassage 'x' [.one], markedPassage 'z' [.zero]]
    store.dialect = "sqlite" ∧
      store.table = kept.map Row.ofPassage ∧ (kept.map Passage.fingerprint).Nodup ∧
      (∃ length ≠ 0, ∀ row ∈ store.table, ∃ vector : Vector64,
        row.vector = .vector vector ∧ vector.length = length) ∧
      (∀ passage, store.Inserts kept passage) ∧ store.Reads kept := by
  refine ⟨⟨by decide, valid_of_mem_mixedRun⟩, ?_⟩
  have haccepted : ({} : Store).accepted mixedRun =
      [markedPassage 'x' [.one], markedPassage 'z' [.zero]] := rfl
  rw [← haccepted]
  exact keeps_accepted "sqlite" (by decide) valid_of_mem_mixedRun

/-- In a database of another kind a passage is refused though its vector fits. -/
theorem upsert_of_fit_unsupported :
    let passage := markedPassage 'x' [.one]
    ¬ Unfit [] passage.embedding ∧
      (({ dialect := "mysql" } : Store).upsert passage).2 =
        .error (.dialectUnsupported "mysql") := by
  refine ⟨?_, rfl⟩
  rintro (hempty | ⟨stored, hnone, -⟩)
  · cases hempty
  · cases hnone

end Store

end ScriptDocs
