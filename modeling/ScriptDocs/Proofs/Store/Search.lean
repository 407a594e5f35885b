/-
# What a search finds

A search scores every row and keeps the best. Where every row can be shown and read, and no
score is no number, the numbered rows are put in one order, the greater score first and of
equal ones the earlier row, and a search takes as many as it is asked for from the front. A
search fails just where the text of some row ends the reading of its vector.
-/

import ScriptDocs.Proofs.Store.Decoding
import ScriptDocs.Proofs.Store.Reading
import ScriptDocs.Proofs.Store.Upsert
import Mathlib.Data.List.Sort
import Mathlib.Data.List.Range

namespace ScriptDocs

/-- Some step fails just where the steps fail as a whole. -/
theorem mapM_fails_iff {ε α β : Type} {step : α → Except ε β} {xs : List α} :
    (∃ failure, xs.mapM step = .error failure) ↔ ∃ x ∈ xs, ∃ failure, step x = .error failure := by
  induction xs with
  | nil => simp [pure, Except.pure]
  | cons x xs ih =>
      rw [List.mapM_cons, List.exists_mem_cons_iff, ← ih]
      cases hx : step x with
      | error failure => simp [bind, Except.bind]
      | ok y => cases hxs : xs.mapM step <;> simp [bind, Except.bind, pure, Except.pure]

namespace Binary64

/-- Where a double stands among all numbers; what is no number is put at zero. -/
def rank (x : Binary64) : Int :=
  x.place.getD 0

theorem place_eq_some_rank {x : Binary64} (hnumber : x ≠ .notANumber) : x.place = some x.rank := by
  cases x with
  | notANumber => exact absurd rfl hnumber
  | infinite negative => rfl
  | finite negative units => rfl

theorem below_iff_rank_lt {x y : Binary64} (hx : x ≠ .notANumber) (hy : y ≠ .notANumber) :
    x.below y = true ↔ x.rank < y.rank := by
  simp [below, place_eq_some_rank hx, place_eq_some_rank hy]

theorem atMost_iff_rank_le {x y : Binary64} (hx : x ≠ .notANumber) (hy : y ≠ .notANumber) :
    x.atMost y = true ↔ x.rank ≤ y.rank := by
  simp [atMost, place_eq_some_rank hx, place_eq_some_rank hy]

end Binary64

namespace Row

/-- The texts that a row must show are there. -/
structure Valid (row : Row) : Prop where
  sourcePath : row.sourcePath ≠ []
  content : row.content ≠ []
  fingerprint : row.fingerprint ≠ []

theorem Valid.faults {row : Row} (hvalid : row.Valid) : row.faults = [] := by
  simp [Row.faults, hvalid.sourcePath, hvalid.content, hvalid.fingerprint]

variable [Json.DepthLimit]

/-- The vector of a row can be told: there is one, or there is none. -/
def Readable (row : Row) : Prop :=
  ∃ vector?, row.vector.decode = .ok vector?

/-- The similarity of a row and a query, zero where the row has no vector. -/
def similarityTo (query : Vector64) (row : Row) : Binary64 :=
  match row.vector.decode with
  | .ok (some vector) => similarity query vector
  | _ => .zero

/-- The vector of a row cannot be told just where its text ends the reading. -/
theorem not_readable_iff {row : Row} :
    ¬ row.Readable ↔ ∃ text, row.vector = .written text ∧ EndsReading text := by
  unfold Readable
  cases hvector : row.vector with
  | vector components => simp [StoredVector.decode]
  | written text =>
      have hfails : (∃ failure, decodeVector text = .error failure) ↔ EndsReading text :=
        decodeVector_fails_iff
      simp only [StoredVector.decode, StoredVector.written.injEq, exists_eq_left', ← hfails]
      cases decodeVector text <;> simp

/-- A row as a hit: its texts, its vector, and its similarity to the query. -/
def hit (query : Vector64) (row : Row) : Hit where
  passage :=
    { sourcePath := row.sourcePath
      sectionTitle := row.sectionTitle
      content := row.content
      embedding :=
        match row.vector.decode with
        | .ok (some vector) => vector
        | _ => []
      fingerprint := row.fingerprint }
  score := row.similarityTo query

end Row

namespace Table

variable {query : List Number} {vector : Vector64}

/-- A query of numbers that have doubles is compared by these doubles. -/
theorem similarityTo_eq_ok (hquery : query.mapM Number.double? = some vector) (other : Vector64) :
    similarityTo query other = .ok (similarity vector other) := by
  have hlength : query.length = vector.length := (mapM_eq_some_iff.mp hquery).length_eq
  unfold similarityTo similarity
  rw [hquery, hlength]
  by_cases hempty : other = []
  · subst hempty
    by_cases hvector : vector = [] <;> simp [hvector]
  · by_cases hsame : vector.length = other.length
    · have hvector : vector ≠ [] := by
        rintro rfl
        exact hempty (List.length_eq_zero_iff.mp hsame.symm)
      simp [hempty, hsame, hvector]
    · simp [hsame]

theorem similarity_nil (vector : Vector64) : similarity vector [] = .zero := by
  cases vector <;> simp [similarity]

variable [Json.DepthLimit]

/-- A valid row becomes a hit once its vector is told. -/
theorem score_eq_ok (hquery : query.mapM Number.double? = some vector) {row : Row}
    (hvalid : row.Valid) (hread : row.Readable) : score query row = .ok (row.hit vector) := by
  obtain ⟨vector?, hdecode⟩ := hread
  cases vector? with
  | none =>
      simp [score, hdecode, similarityTo_eq_ok hquery, Row.passage, hvalid.faults, bind,
        Except.bind, pure, Except.pure, Row.hit, Row.similarityTo, similarity_nil]
  | some other =>
      simp [score, hdecode, similarityTo_eq_ok hquery, Row.passage, hvalid.faults, bind,
        Except.bind, pure, Except.pure, Row.hit, Row.similarityTo]

/-- A valid row has no score just where its vector cannot be told. -/
theorem score_fails_iff (hquery : query.mapM Number.double? = some vector) {row : Row}
    (hvalid : row.Valid) : (∃ failure, score query row = .error failure) ↔ ¬ row.Readable := by
  constructor
  · rintro ⟨failure, hfailed⟩ hread
    rw [score_eq_ok hquery hvalid hread] at hfailed
    cases hfailed
  · intro hunread
    cases hdecode : row.vector.decode with
    | ok vector? => exact absurd ⟨vector?, hdecode⟩ hunread
    | error failure => exact ⟨failure, by simp [score, hdecode, bind, Except.bind]⟩

end Table

/-- Of two numbered rows one is ahead: its similarity to the query is greater, or it is equal
and the row was inserted earlier. -/
def Ahead [Json.DepthLimit] (query : Vector64) (first second : Row × Nat) : Prop :=
  (second.1.similarityTo query).below (first.1.similarityTo query) = true ∨
    (first.1.similarityTo query).place = (second.1.similarityTo query).place ∧
      first.2 < second.2

instance [Json.DepthLimit] (vector : Vector64) (first second : Row × Nat) :
    Decidable (Ahead vector first second) :=
  inferInstanceAs (Decidable (_ ∨ _ ∧ _))

/-- One row is ahead of another where its score is greater, or equal and its number less. -/
theorem ahead_iff_rank [Json.DepthLimit] {vector : Vector64} {first second : Row × Nat}
    (hfirst : first.1.similarityTo vector ≠ .notANumber)
    (hsecond : second.1.similarityTo vector ≠ .notANumber) :
    Ahead vector first second ↔
      (second.1.similarityTo vector).rank < (first.1.similarityTo vector).rank ∨
        (first.1.similarityTo vector).rank = (second.1.similarityTo vector).rank ∧
          first.2 < second.2 := by
  rw [Ahead, Binary64.below_iff_rank_lt hsecond hfirst, Binary64.place_eq_some_rank hfirst,
    Binary64.place_eq_some_rank hsecond, Option.some.injEq]

namespace Table

variable {query : List Number} {vector : Vector64} {table : Table}

/-- Rows with one number are one. -/
theorem eq_of_number_eq {first second : Row × Nat} (hfirst : first ∈ table.zipIdx)
    (hsecond : second ∈ table.zipIdx) (hnumber : first.2 = second.2) : first = second := by
  rw [List.mem_zipIdx_iff_getElem?] at hfirst hsecond
  rw [hnumber, hsecond] at hfirst
  exact Prod.ext (Option.some.inj hfirst).symm hnumber

variable [Json.DepthLimit]

/-- Whether a row is at least as similar to a query as another one. -/
def atLeast (vector : Vector64) (first second : Row) : Bool :=
  (second.similarityTo vector).rank ≤ (first.similarityTo vector).rank

/-- The numbered rows, the best one first. -/
def ranking (vector : Vector64) (table : Table) : List (Row × Nat) :=
  table.zipIdx.mergeSort (List.zipIdxLE (atLeast vector))

theorem ranking_perm : (ranking vector table).Perm table.zipIdx :=
  List.mergeSort_perm _ _

theorem nodup_ranking : (ranking vector table).Nodup := by
  have hnumbers : (table.zipIdx.map Prod.snd).Nodup := by
    rw [List.zipIdx_map_snd]
    exact List.nodup_range'
  exact ranking_perm.nodup_iff.mpr hnumbers.of_map

theorem mem_table_of_mem_ranking {entry : Row × Nat} (hentry : entry ∈ ranking vector table) :
    entry.1 ∈ table :=
  List.fst_mem_of_mem_zipIdx (ranking_perm.mem_iff.mp hentry)

/-- Each row of the ranking is ahead of those behind it. -/
theorem pairwise_ahead_ranking
    (hnumbers : ∀ row ∈ table, row.similarityTo vector ≠ .notANumber) :
    (ranking vector table).Pairwise (Ahead vector) := by
  -- What the sort guarantees allows for ties in the score and in the number at once; the
  -- latter are excluded as no two entries have one number.
  have hordered : (ranking vector table).Pairwise fun first second =>
      List.zipIdxLE (atLeast vector) first second = true :=
    List.pairwise_mergeSort
      (List.zipIdxLE_trans fun a b c => by simp only [atLeast, decide_eq_true_eq]; omega)
      (List.zipIdxLE_total fun a b => by simp [atLeast]; omega) _
  refine (hordered.and nodup_ranking).imp_of_mem fun {first second} hfirst hsecond h => ?_
  obtain ⟨hle, hne⟩ := h
  have hnumber : first.2 ≠ second.2 := fun hsame =>
    hne (eq_of_number_eq (ranking_perm.mem_iff.mp hfirst) (ranking_perm.mem_iff.mp hsecond) hsame)
  have hfirst' := hnumbers _ (mem_table_of_mem_ranking hfirst)
  have hsecond' := hnumbers _ (mem_table_of_mem_ranking hsecond)
  rw [ahead_iff_rank hfirst' hsecond']
  simp only [List.zipIdxLE, atLeast, decide_eq_true_eq] at hle
  split at hle
  · rename_i hatLeast
    split at hle
    · simp only [decide_eq_true_eq] at hle
      omega
    · omega
  · cases hle

/-- The hits of all rows in the order of their scores are those of the ranking. -/
theorem mergeSort_ranked_hits
    (hnumbers : ∀ row ∈ table, row.similarityTo vector ≠ .notANumber) :
    (table.map (Row.hit vector)).mergeSort ranked =
      (ranking vector table).map fun entry => entry.1.hit vector := by
  -- Without a score that is no number the two ways to compare rows are one.
  have hagree : ∀ a ∈ table, ∀ b ∈ table,
      atLeast vector a b = ranked (a.hit vector) (b.hit vector) := by
    intro a ha b hb
    have hbelow := Binary64.below_iff_rank_lt (hnumbers a ha) (hnumbers b hb)
    rw [atLeast, ranked, Bool.eq_iff_iff, Bool.not_eq_true', ← Bool.not_eq_true]
    simp only [Row.hit, hbelow, decide_eq_true_eq, not_lt]
  rw [← List.map_mergeSort hagree, ← List.mergeSort_zipIdx, List.map_map]
  rfl

/-- A search takes as many hits from the front of the ranking as it is asked for. -/
theorem search_eq_take_ranking (hquery : query.mapM Number.double? = some vector)
    (hvalid : ∀ row ∈ table, row.Valid) (hread : ∀ row ∈ table, row.Readable)
    (hnumbers : ∀ row ∈ table, row.similarityTo vector ≠ .notANumber) (k : Int) :
    search table query k =
      .ok (((ranking vector table).take k.toNat).map fun entry => entry.1.hit vector) := by
  have hscores : table.mapM (score query) = .ok (table.map (Row.hit vector)) :=
    mapM_eq_ok fun row hrow => score_eq_ok hquery (hvalid row hrow) (hread row hrow)
  unfold search
  split
  · rename_i hk
    rw [Int.toNat_of_nonpos hk]
    rfl
  · rw [hscores, Except.map, mergeSort_ranked_hits hnumbers, List.map_take]

/-- A search for something fails just where the vector of some row cannot be told. -/
theorem search_fails_iff (hquery : query.mapM Number.double? = some vector)
    (hvalid : ∀ row ∈ table, row.Valid) (k : Int) :
    (∃ failure, search table query k = .error failure) ↔ 0 < k ∧ ∃ row ∈ table, ¬ row.Readable := by
  unfold search
  split
  · rename_i hk
    simp [not_lt.mpr hk]
  · rename_i hk
    have hscores : (∃ failure, table.mapM (score query) = .error failure) ↔
        ∃ row ∈ table, ¬ row.Readable := by
      rw [mapM_fails_iff]
      exact exists_congr fun row => and_congr_right fun hrow =>
        score_fails_iff hquery (hvalid row hrow)
    rw [← hscores]
    cases table.mapM (score query) <;> simp [Except.map, not_le.mp hk]

end Table

namespace Store

variable {store : Store} {query : List Number} {vector : Vector64}

theorem search_of_unbroken [Json.DepthLimit] (hunbroken : store.isBroken = false)
    (query : List Number) (k : Int) : store.search query k = store.table.search query k := by
  rw [search, rows_of_unbroken hunbroken]
  split
  · rename_i hk
    simp [Table.search, hk]
  · rfl

/-- A search finds the rows with the greatest scores. It returns as many as it is asked for,
if there are as many; of those it returns the greater score comes first, of equal scores the
row that was inserted earlier, and every row that it leaves out would come behind all of
them. So a search for fewer finds the front of the same hits. -/
theorem search_chooses_best [Json.DepthLimit] (hunbroken : store.isBroken = false)
    (hquery : query.mapM Number.double? = some vector)
    (hvalid : ∀ row ∈ store.table, row.Valid) (hread : ∀ row ∈ store.table, row.Readable)
    (hnumbers : ∀ row ∈ store.table, row.similarityTo vector ≠ .notANumber) (k : Int) :
    ∃ chosen : List (Row × Nat),
      store.search query k = .ok (chosen.map fun entry => entry.1.hit vector) ∧
      chosen.length = min k.toNat store.table.length ∧ chosen.Nodup ∧
      (∀ entry ∈ chosen, entry ∈ store.table.zipIdx) ∧ chosen.Pairwise (Ahead vector) ∧
      (∀ entry ∈ chosen, ∀ other ∈ store.table.zipIdx, other ∉ chosen →
        Ahead vector entry other) ∧
      ∀ fewer ≤ k, ∃ front, front <+: chosen ∧
        store.search query fewer = .ok (front.map fun entry => entry.1.hit vector) := by
  have hsearch := Table.search_eq_take_ranking hquery hvalid hread hnumbers
  have hordered := Table.pairwise_ahead_ranking hnumbers
  have hperm : (Table.ranking vector store.table).Perm store.table.zipIdx := Table.ranking_perm
  have hnodup : (Table.ranking vector store.table).Nodup := Table.nodup_ranking
  simp only [search_of_unbroken hunbroken, hsearch]
  generalize Table.ranking vector store.table = ranking at hordered hperm hnodup
  refine ⟨ranking.take k.toNat, rfl, ?_, hnodup.sublist (List.take_sublist _ _), ?_,
    hordered.sublist (List.take_sublist _ _), ?_, ?_⟩
  · rw [List.length_take, hperm.length_eq, List.length_zipIdx]
  · exact fun entry hentry => hperm.mem_iff.mp (List.mem_of_mem_take hentry)
  · intro entry hentry other hother hleft
    have hbehind : other ∈ ranking.drop k.toNat := by
      have hwhole := hperm.mem_iff.mpr hother
      rw [← List.take_append_drop k.toNat ranking] at hwhole
      exact (List.mem_append.mp hwhole).resolve_left hleft
    rw [← List.take_append_drop k.toNat ranking, List.pairwise_append] at hordered
    exact hordered.2.2 entry hentry other hbehind
  · intro fewer hfewer
    exact ⟨ranking.take fewer.toNat,
      List.take_prefix_take_left (Int.toNat_le_toNat hfewer), rfl⟩

/-- A row of which little is said but its vector. -/
def markedRow (mark : Char) (vector : StoredVector) : Row where
  sourcePath := ['a']
  sectionTitle := none
  content := [mark]
  vector := vector
  fingerprint := [mark]

/-- Two rows at a right angle to the query, of which one has no vector at all, before and behind
one in its direction. -/
def mixedRows : Table :=
  [markedRow 'x' (.written "no list"), markedRow 'y' (.vector [.one, .zero]),
    markedRow 'z' (.vector [.zero, .one])]

theorem valid_of_mem_mixedRows (row : Row) (hmem : row ∈ mixedRows) : row.Valid := by
  simp only [mixedRows, List.mem_cons, List.not_mem_nil, or_false] at hmem
  rcases hmem with rfl | rfl | rfl <;> exact ⟨by decide, by decide, by decide⟩

theorem readable_of_mem_mixedRows (row : Row) (hmem : row ∈ mixedRows) : row.Readable := by
  simp only [mixedRows, List.mem_cons, List.not_mem_nil, or_false] at hmem
  rcases hmem with rfl | rfl | rfl
  · exact ⟨none, by decide +kernel⟩
  · exact ⟨some [.one, .zero], rfl⟩
  · exact ⟨some [.zero, .one], rfl⟩

theorem search_chooses_best_of_mixedRows :
    let store : Store := { table := mixedRows }
    let query : List Number := [.double .one, .integer 0]
    let vector : Vector64 := [.one, .zero]
    (store.isBroken = false ∧ query.mapM Number.double? = some vector ∧
      (∀ row ∈ store.table, row.Valid) ∧ (∀ row ∈ store.table, row.Readable) ∧
      ∀ row ∈ store.table, row.similarityTo vector ≠ .notANumber) ∧
    ∃ chosen : List (Row × Nat),
      store.search query 2 = .ok (chosen.map fun entry => entry.1.hit vector) ∧
      chosen.length = min (2 : Int).toNat store.table.length ∧ chosen.Nodup ∧
      (∀ entry ∈ chosen, entry ∈ store.table.zipIdx) ∧ chosen.Pairwise (Ahead vector) ∧
      (∀ entry ∈ chosen, ∀ other ∈ store.table.zipIdx, other ∉ chosen →
        Ahead vector entry other) ∧
      ∀ fewer ≤ (2 : Int), ∃ front, front <+: chosen ∧
        store.search query fewer = .ok (front.map fun entry => entry.1.hit vector) := by
  intro store query vector
  have hquery : query.mapM Number.double? = some vector := by decide +kernel
  have hnumbers : ∀ row ∈ store.table, row.similarityTo vector ≠ .notANumber := by decide +kernel
  exact ⟨⟨rfl, hquery, valid_of_mem_mixedRows, readable_of_mem_mixedRows, hnumbers⟩,
    search_chooses_best rfl hquery valid_of_mem_mixedRows readable_of_mem_mixedRows hnumbers 2⟩

/-- A row that lacks its path ends a search, though its score is a number. -/
theorem search_of_pathlessRow :
    let row : Row := { markedRow 'x' (.written "no list") with sourcePath := [] }
    row.similarityTo [.one] = .zero ∧
      ({ table := [row] } : Store).search [.double .one] 1 =
        .error (.fieldsInvalid [⟨[.name "source_path"], .textTooShort⟩]) := by
  decide +kernel

/-- The reading of a vector fails just where its text ends the reading, and for that the text
needs more opening brackets than the reader may step into or an integer beyond all doubles. A
search for anything fails just where some row holds such a text; every other text that spells
no list of numbers is no vector, and its row has the score zero. -/
theorem search_aborts_iff [Json.DepthLimit] (hunbroken : store.isBroken = false)
    (hquery : query.mapM Number.double? = some vector)
    (hvalid : ∀ row ∈ store.table, row.Valid) :
    (∀ text, (∃ failure, decodeVector text = .error failure) ↔ EndsReading text) ∧
    (∀ text, EndsReading text → Json.depthLimit < Json.openings text ∨ Outgrows text) ∧
    (∀ k, (∃ failure, store.search query k = .error failure) ↔
      0 < k ∧ ∃ row ∈ store.table, ∃ text, row.vector = .written text ∧ EndsReading text) ∧
    ∀ row ∈ store.table, ∀ text, row.vector = .written text → ¬ EndsReading text →
      (∀ items, ¬ SpellsNumbers text items) →
      Table.score query row = .ok (row.hit vector) ∧ (row.hit vector).score = .zero ∧
        (row.hit vector).passage.embedding = [] := by
  refine ⟨fun text => decodeVector_fails_iff, fun text => EndsReading.openings_or_outgrows,
    fun k => ?_, fun row hrow text hvector hgoes hother => ?_⟩
  · simp only [search_of_unbroken hunbroken, Table.search_fails_iff hquery hvalid,
      Row.not_readable_iff]
  · have hdeep : Json.read text ≠ .error .nestedTooDeep := fun hread => hgoes (Or.inl hread)
    have hdecode : row.vector.decode = .ok none := by
      rw [hvector]
      exact decodeVector_eq_none_iff.mpr ⟨hdeep, hother⟩
    refine ⟨Table.score_eq_ok hquery (hvalid row hrow) ⟨none, hdecode⟩, ?_, ?_⟩
    · simp [Row.hit, Row.similarityTo, hdecode]
    · simp [Row.hit, hdecode]

/-- A list of one integer, the power 309 of ten. -/
def outgrownText : Text :=
  "[1".toList ++ List.replicate 309 '0' ++ "]".toList

/-- A list of numbers with an integer beyond all doubles is not taken for no vector. -/
theorem search_of_outgrownRow :
    let row := markedRow 'x' (.written outgrownText)
    decodeVector outgrownText = .error .beyondDoubles ∧
      ({ table := [row] } : Store).search [.double .one] 1 = .error .beyondDoubles := by
  decide +kernel

theorem search_aborts_iff_of_outgrownRow :
    let store : Store := { table := mixedRows ++ [markedRow 'w' (.written outgrownText)] }
    let query : List Number := [.double .one]
    let vector : Vector64 := [.one]
    (store.isBroken = false ∧ query.mapM Number.double? = some vector ∧
      ∀ row ∈ store.table, row.Valid) ∧
    (∀ text, (∃ failure, decodeVector text = .error failure) ↔ EndsReading text) ∧
    (∀ text, EndsReading text → Json.depthLimit < Json.openings text ∨ Outgrows text) ∧
    (∀ k, (∃ failure, store.search query k = .error failure) ↔
      0 < k ∧ ∃ row ∈ store.table, ∃ text, row.vector = .written text ∧ EndsReading text) ∧
    ∀ row ∈ store.table, ∀ text, row.vector = .written text → ¬ EndsReading text →
      (∀ items, ¬ SpellsNumbers text items) →
      Table.score query row = .ok (row.hit vector) ∧ (row.hit vector).score = .zero ∧
        (row.hit vector).passage.embedding = [] := by
  intro store query vector
  have hvalid : ∀ row ∈ store.table, row.Valid := by
    intro row hrow
    rcases List.mem_append.mp hrow with hmixed | hlast
    · exact valid_of_mem_mixedRows row hmixed
    · rw [List.mem_singleton.mp hlast]
      exact ⟨by decide, by decide, by decide⟩
  exact ⟨⟨rfl, rfl, hvalid⟩, search_aborts_iff rfl rfl hvalid⟩

end Store

end ScriptDocs
