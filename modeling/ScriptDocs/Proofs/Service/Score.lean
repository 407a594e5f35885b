/-
# The score of a function

How well a function is documented is the greatest score among the best ranked rows that document
it: below the directory of functions, with the name in the last part of the path or a call of it in
the text. A search ranks the rows, narrowing keeps their order, and so the first row that is left is
the best one; where as many rows are ranked as there are, it is the best of all.
-/

import ScriptDocs.Proofs.Lists
import ScriptDocs.Proofs.Reference.Naming
import ScriptDocs.Proofs.Service.Description
import ScriptDocs.Proofs.Service.Searching
import ScriptDocs.Proofs.Text.Front
import ScriptDocs.Proofs.Text.Lower

namespace ScriptDocs

/-- A row is among the `k` best ranked for a query where fewer than `k` rows are ahead of it. -/
def AmongBest (vector : Vector64) (table : Table) (k : Int) (entry : Row × Nat) : Prop :=
  (table.zipIdx.countP fun other => Ahead vector other entry : Int) < k

/-- A row documents the function of a name in small letters: its path leads below the directory of
functions, and its last part holds the name or the text holds the name behind a sigil. -/
def Row.Documents (name : Text) (row : Row) : Prop :=
  let path := Text.lower (Reference.withSlashes row.sourcePath)
  Service.functionMark <:+: path ∧
    ((∃ above last, path = above ++ '/' :: last ∧ '/' ∉ last ∧ name <:+: last) ∨
      '$' :: name <:+: Text.lower row.content)

/-- The greatest score among the rows of a table that count, zero where none does. -/
def IsTopScore (vector : Vector64) (table : Table) (counts : Row × Nat → Prop) (top : Binary64) :
    Prop :=
  ((∃ entry ∈ table.zipIdx, counts entry ∧ entry.1.similarityTo vector = top) ∧
    ∀ entry ∈ table.zipIdx, counts entry → (entry.1.similarityTo vector).atMost top = true) ∨
  ((∀ entry ∈ table.zipIdx, ¬ counts entry) ∧ top = .zero)

namespace Table

variable {vector : Vector64} {table : Table}

/-- The first rows of the ranking are the best ones. -/
theorem mem_take_ranking_iff
    (hnumbers : ∀ row ∈ table, row.similarityTo vector ≠ .notANumber) {entry : Row × Nat}
    (hentry : entry ∈ table.zipIdx) (k : Int) :
    entry ∈ (ranking vector table).take k.toNat ↔ AmongBest vector table k entry := by
  have hasymm : ∀ first ∈ ranking vector table, ∀ second ∈ ranking vector table,
      Ahead vector first second → ¬ Ahead vector second first := by
    intro first hfirst second hsecond
    have hfirst' := hnumbers _ (mem_table_of_mem_ranking hfirst)
    have hsecond' := hnumbers _ (mem_table_of_mem_ranking hsecond)
    rw [ahead_iff_rank hfirst' hsecond', ahead_iff_rank hsecond' hfirst']
    omega
  rw [mem_take_iff_countP_lt (pairwise_ahead_ranking hnumbers) hasymm
    (ranking_perm.mem_iff.mpr hentry), ranking_perm.countP_eq, AmongBest]
  omega

/-- Of the rows that count, put in the order of their scores, the first one has the top score. -/
theorem isTopScore_of_ordered
    (hnumbers : ∀ row ∈ table, row.similarityTo vector ≠ .notANumber)
    {chosen : List (Row × Nat)} {counts : Row × Nat → Prop}
    (hordered : chosen.Pairwise (Ahead vector))
    (hchosen : ∀ entry, entry ∈ chosen ↔ entry ∈ table.zipIdx ∧ counts entry) :
    IsTopScore vector table counts
      (Service.bestScore (chosen.map fun entry => entry.1.hit vector)) := by
  cases chosen with
  | nil =>
      exact Or.inr ⟨fun entry hentry hcounts =>
        List.not_mem_nil ((hchosen entry).mpr ⟨hentry, hcounts⟩), rfl⟩
  | cons first rest =>
      obtain ⟨hfirst, hcounts⟩ := (hchosen first).mp List.mem_cons_self
      have hnumber : ∀ entry ∈ table.zipIdx, entry.1.similarityTo vector ≠ .notANumber :=
        fun entry hentry => hnumbers entry.1 (List.fst_mem_of_mem_zipIdx hentry)
      refine Or.inl ⟨⟨first, hfirst, hcounts, rfl⟩, fun entry hentry hcounts => ?_⟩
      refine (Binary64.atMost_iff_rank_le (hnumber entry hentry) (hnumber first hfirst)).mpr ?_
      rcases List.mem_cons.mp ((hchosen entry).mpr ⟨hentry, hcounts⟩) with rfl | hrest
      · exact le_rfl
      · have hahead := (List.pairwise_cons.mp hordered).1 entry hrest
        rw [ahead_iff_rank (hnumber first hfirst) (hnumber entry hentry)] at hahead
        omega

end Table

namespace Service

theorem documents_iff {name : Text} {row : Row} (vector : Vector64) :
    documents name (row.hit vector).passage = true ↔ row.Documents name := by
  unfold documents Row.Documents
  dsimp only [Row.hit]
  rw [Bool.and_eq_true, Bool.or_eq_true]
  simp only [Text.contains_eq_true_iff]
  refine and_congr_right fun hmark => or_congr_left ?_
  -- The mark of the directory holds a separator, so the path has a last part.
  obtain ⟨above, last, hpath, hlast⟩ := Text.exists_last_part
    (hmark.subset (show '/' ∈ functionMark from List.mem_cons_self))
  constructor
  · intro hname
    rw [hpath, Text.reverse_takeWhile_reverse hlast] at hname
    exact ⟨above, last, hpath, hlast, hname⟩
  · rintro ⟨other, part, hother, hpart, hname⟩
    rw [hother, Text.reverse_takeWhile_reverse hpart]
    exact hname

variable {service : Service} {name : Text} {vector : Vector64}

/-- The rows that document a function among the first ones of the ranking, in their order. -/
def documentedRows (vector : Vector64) (table : Table) (k : Int) (name : Text) :
    List (Row × Nat) :=
  ((Table.ranking vector table).take k.toNat).filter fun entry =>
    documents name (entry.1.hit vector).passage

/-- The hits that document a function among the first ones of the ranking. -/
def documentedHits (vector : Vector64) (table : Table) (k : Int) (name : Text) : List Hit :=
  (documentedRows vector table k name).map fun entry => entry.1.hit vector

theorem documenting_firstHits (hname : Snippet.IsName name) (table : Table) (k : Int) :
    documenting Hit.passage (Text.lower name) (Table.firstHits vector table k) =
      documentedHits vector table k (Text.lower name) := by
  have hsome : (Text.lower name).isEmpty = false := by
    rw [List.isEmpty_eq_false_iff]
    exact hname.lower.1
  rw [documenting, Reference.normalizeName_bare hname.lower, Text.lower_lower, hsome,
    if_neg Bool.false_ne_true, Table.firstHits, List.filter_map]
  rfl

theorem mem_documentedRows_iff {table : Table} {k : Int} {entry : Row × Nat} :
    entry ∈ documentedRows vector table k name ↔
      entry ∈ (Table.ranking vector table).take k.toNat ∧ entry.1.Documents name := by
  rw [documentedRows, List.mem_filter, documents_iff]

theorem pairwise_ahead_documentedRows {table : Table}
    (hnumbers : ∀ row ∈ table, row.similarityTo vector ≠ .notANumber) (k : Int) (name : Text) :
    (documentedRows vector table k name).Pairwise (Ahead vector) :=
  (Table.pairwise_ahead_ranking hnumbers).sublist
    (List.filter_sublist.trans (List.take_sublist _ _))

/-- The hits about a function are those that document it among the first ones of the ranking for its
name, up to a bound on their number. -/
theorem searchFunction_outcome_eq_done_iff (hname : Snippet.IsName name) {given : Text}
    (hgiven : Reference.normalizeName given = Text.lower name) {k : Int} {hits : List Hit} :
    (service.searchFunction given k).outcome = .done hits ↔
      ∃ vector, service.Embeds ('$' :: Text.lower name) vector ∧
        (0 < k → service.store.Searchable) ∧
        hits = upTo service.settings.functionResults
          (documentedHits vector service.store.table k (Text.lower name)) := by
  rw [searchFunction, hgiven, Work.outcome_bind_eq_done_iff]
  simp only [search_outcome_eq_done_iff]
  constructor
  · rintro ⟨found, ⟨vector, hanswer, hstore, rfl⟩, hend⟩
    refine ⟨vector, hanswer, hstore, ?_⟩
    rw [← documenting_firstHits hname]
    exact (Outcome.done.inj hend).symm
  · rintro ⟨vector, hanswer, hstore, rfl⟩
    refine ⟨_, ⟨vector, hanswer, hstore, rfl⟩, ?_⟩
    rw [documenting_firstHits hname]
    rfl

theorem bestScore_upTo {bound : Int} (hbound : 1 ≤ bound) (hits : List Hit) :
    bestScore (upTo bound hits) = bestScore hits := by
  rw [bestScore, bestScore, head?_upTo hbound]

/-- The score of a function is that of the first hit that documents it. -/
theorem topScore_outcome_eq_done_iff (hname : Snippet.IsName name)
    (hresults : 1 ≤ service.settings.functionResults) {top : Binary64} :
    (service.topScore ('$' :: name)).outcome = .done top ↔
      ∃ vector, service.Embeds ('$' :: Text.lower name) vector ∧
        (0 < service.settings.functionHits → service.store.Searchable) ∧
        top = bestScore (documentedHits vector service.store.table service.settings.functionHits
          (Text.lower name)) := by
  rw [topScore, Work.outcome_bind_eq_done_iff]
  simp only [searchFunction_outcome_eq_done_iff hname (Reference.normalizeName_sigiled hname)]
  constructor
  · rintro ⟨hits, ⟨vector, hanswer, hstore, rfl⟩, hend⟩
    refine ⟨vector, hanswer, hstore, ?_⟩
    rw [← bestScore_upTo hresults]
    exact (Outcome.done.inj hend).symm
  · rintro ⟨vector, hanswer, hstore, rfl⟩
    exact ⟨_, ⟨vector, hanswer, hstore, rfl⟩, congrArg _ (bestScore_upTo hresults _)⟩

section Searching

variable (hunbroken : service.store.isBroken = false)
  (hvalid : ∀ row ∈ service.store.table, row.Valid)
  (hread : ∀ row ∈ service.store.table, row.Readable)
  (hnumbers : ∀ row ∈ service.store.table, row.similarityTo vector ≠ .notANumber)

include hunbroken hvalid hread hnumbers

/-- The score of a function is the greatest one among the rows that document it and are among the
best ranked for its name, as many as are ranked; where none is, it is zero. Where as many rows are
ranked as there are, it is the greatest one among all rows that document the function. -/
theorem topScore_is_greatest (hname : Snippet.IsName name)
    (hanswer : (Work.within service.timeLimit .searchTimedOut
      (service.embed ('$' :: Text.lower name))).outcome = .done vector)
    (hresults : 1 ≤ service.settings.functionResults) :
    let table := service.store.table
    let ranked := service.settings.functionHits
    ∃ top, (service.topScore ('$' :: name)).outcome = .done top ∧
      IsTopScore vector table
        (fun entry => AmongBest vector table ranked entry ∧ entry.1.Documents (Text.lower name))
        top ∧
      ((table.length : Int) ≤ ranked →
        IsTopScore vector table (fun entry => entry.1.Documents (Text.lower name)) top) := by
  intro table ranked
  have hordered := pairwise_ahead_documentedRows hnumbers ranked (Text.lower name)
  refine ⟨_, (topScore_outcome_eq_done_iff hname hresults).mpr
      ⟨vector, hanswer, fun _ => ⟨hunbroken, hvalid, hread⟩, rfl⟩,
    Table.isTopScore_of_ordered hnumbers hordered fun entry => ?_,
    fun hmany => Table.isTopScore_of_ordered hnumbers hordered fun entry => ?_⟩
  · rw [mem_documentedRows_iff]
    constructor
    · rintro ⟨hfront, hdocuments⟩
      have hentry := Table.ranking_perm.mem_iff.mp (List.mem_of_mem_take hfront)
      exact ⟨hentry, (Table.mem_take_ranking_iff hnumbers hentry ranked).mp hfront, hdocuments⟩
    · rintro ⟨hentry, hbest, hdocuments⟩
      exact ⟨(Table.mem_take_ranking_iff hnumbers hentry ranked).mpr hbest, hdocuments⟩
  · have hwhole : (Table.ranking vector table).take ranked.toNat = Table.ranking vector table := by
      apply List.take_of_length_le
      rw [Table.ranking_perm.length_eq, List.length_zipIdx]
      omega
    rw [mem_documentedRows_iff, hwhole, Table.ranking_perm.mem_iff]

end Searching

/-- A row beside the directory of functions, in the direction of all queries. -/
def guideRow : Row :=
  { pingRow none "$ping[a]" with sourcePath := "/guides/ping.md" }

/-- A row about a function, in the opposite direction. -/
def opposedRow : Row :=
  { pingRow none "Pings." with vector := .vector [.neg .one] }

/-- The better row does not document the function, and the only one that does lies below zero. -/
theorem topScore_is_greatest_of_opposedRow :
    ((ofRows [guideRow, opposedRow]).topScore "$Ping").outcome = .done (.neg .one) := by
  have hrows : ∀ row ∈ [guideRow, opposedRow], row = guideRow ∨ row = opposedRow := by
    simp only [List.mem_cons, List.not_mem_nil, or_false, imp_self, implies_true]
  have hvalid : ∀ row ∈ [guideRow, opposedRow], row.Valid := by
    intro row hrow
    rcases hrows row hrow with rfl | rfl <;> exact ⟨by decide, by decide, by decide⟩
  have hread : ∀ row ∈ [guideRow, opposedRow], row.Readable := by
    intro row hrow
    rcases hrows row hrow with rfl | rfl <;> exact ⟨_, rfl⟩
  have hguide : ¬ guideRow.Documents (Text.lower "Ping") := by
    rw [← documents_iff [.one]]
    decide +kernel
  have hopposed : opposedRow.Documents (Text.lower "Ping") :=
    (documents_iff [.one]).mp (by decide +kernel)
  have hscore : opposedRow.similarityTo [.one] = .neg .one := by decide +kernel
  have hname : Snippet.IsName "Ping" := by
    refine ⟨by decide, ?_⟩
    show ∀ c ∈ ['P', 'i', 'n', 'g'], _
    simp only [List.forall_mem_cons]
    exact ⟨by decide, by decide, by decide, by decide, nofun⟩
  obtain ⟨top, hdone, -, hgreatest⟩ :=
    @topScore_is_greatest (ofRows [guideRow, opposedRow]) "Ping" [.one] rfl hvalid hread
      (by decide +kernel) hname rfl (by decide)
  rcases hgreatest (by decide) with ⟨⟨entry, hentry, hdocuments, htop⟩, -⟩ | ⟨hnone, -⟩
  · rcases hrows entry.1 (List.fst_mem_of_mem_zipIdx hentry) with hfirst | hsecond
    · exact absurd (hfirst ▸ hdocuments) hguide
    · rw [hsecond, hscore] at htop
      rw [htop]
      exact hdone
  · exact absurd hopposed
      (hnone (opposedRow, 1) (List.mk_mem_zipIdx_iff_getElem?.mpr rfl))

/-- A row that lacks its path ends the ranking, though its score is a number and it documents
nothing. -/
theorem topScore_of_pathlessRow :
    let row : Row := { pingRow none "$ping[a]" with sourcePath := [] }
    (row.similarityTo [.one] = .one ∧
        IsTopScore [.one] [row] (fun entry => entry.1.Documents "ping") .zero) ∧
      ((ofRows [row]).topScore "$ping").outcome =
        .failed (.fieldsInvalid [⟨[.name "source_path"], .textTooShort⟩]) := by
  intro row
  have hother : ¬ row.Documents "ping" := by
    rw [← documents_iff [.one]]
    decide +kernel
  refine ⟨⟨by decide +kernel, Or.inr ⟨fun entry hentry => ?_, rfl⟩⟩, by decide +kernel⟩
  show ¬ entry.1.Documents "ping"
  rw [List.mem_singleton.mp (List.fst_mem_of_mem_zipIdx hentry)]
  exact hother

end Service

end ScriptDocs
