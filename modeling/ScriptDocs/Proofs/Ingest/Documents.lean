/-
# Ingesting documents one after the other

When the provider answers every question, ingesting some documents in turn puts exactly
their fresh candidates behind the rows, asks once for each of these and for nothing
else, and counts every other piece as skipped. Ingesting the same documents again finds
nothing fresh and leaves everything as it is.
-/

import ScriptDocs.Proofs.Ingest.Step

namespace ScriptDocs

/-- A document: where it comes from, and its text. -/
structure Document where
  path : Text
  text : Text
  deriving DecidableEq, Repr

/-- The candidates of a document. -/
def Document.candidates (document : Document) : List Candidate :=
  candidatesOf document.path document.text

namespace Document

/-- The report on a document whose chunks are new to a table in so far as they are fresh. -/
def report (table : Table) (document : Document) : Report where
  files := 1
  chunks := document.candidates.length
  inserted := (table.fresh document.candidates).length
  skipped := document.candidates.length - (table.fresh document.candidates).length

/-- The reports on some documents one after the other, each on what its predecessors left. -/
def reports (vectorOf : Text → Vector64) (table : Table) : List Document → List Report
  | [] => []
  | document :: documents =>
    document.report table :: reports vectorOf (table.grown vectorOf document.candidates) documents

/-- The report on a document all of whose chunks are stored. -/
def repeated (document : Document) : Report where
  files := 1
  chunks := document.candidates.length
  skipped := document.candidates.length

/-- Documents whose chunks are all stored are reported as such. -/
theorem reports_of_held {vectorOf : Text → Vector64} {table : Table} {documents : List Document}
    (hheld : ∀ candidate ∈ documents.flatMap candidates,
      candidate.fingerprint ∈ table.fingerprints) :
    reports vectorOf table documents = documents.map repeated := by
  induction documents with
  | nil => rfl
  | cons document documents ih =>
      have hnone : table.fresh document.candidates = [] :=
        Table.fresh_eq_nil fun candidate hcandidate =>
          hheld candidate (List.mem_flatMap_of_mem List.mem_cons_self hcandidate)
      have hsame : table.grown vectorOf document.candidates = table := by
        rw [Table.grown, hnone, List.map_nil, List.append_nil]
      rw [reports, hsame, List.map_cons, ih]
      · simp [report, repeated, hnone]
      · intro candidate hcandidate
        apply hheld
        rw [List.flatMap_cons]
        exact List.mem_append_right _ hcandidate

end Document

/-- A report with some more chunks, some of which were new. -/
def Report.counting (report : Report) (chunks inserted : Nat) : Report :=
  { report with
    chunks := report.chunks + chunks
    inserted := report.inserted + inserted
    skipped := report.skipped + (chunks - inserted) }

theorem Report.count_true_counting (report : Report) (chunks inserted : Nat) :
    (report.count true).counting chunks inserted =
      report.counting (chunks + 1) (inserted + 1) := by
  simp only [count, counting, if_true, Report.mk.injEq, true_and]
  omega

theorem Report.count_false_counting (report : Report) {chunks inserted : Nat}
    (hinserted : inserted ≤ chunks) :
    (report.count false).counting chunks inserted = report.counting (chunks + 1) inserted := by
  simp only [count, counting, Bool.false_eq_true, if_false, Report.mk.injEq, true_and]
  omega

namespace Ingester

/-- The ingestion of some documents one after the other, each with its report, until one fails. -/
def ingestDocuments (ingester : Ingester) (run : Ingestion) :
    List Document → Ingestion × Outcome (List Report)
  | [] => (run, .done [])
  | document :: documents =>
    match ingester.ingestText document.path document.text run with
    | (run, .failed failure) => (run, .failed failure)
    | (run, .waiting limit) => (run, .waiting limit)
    | (run, .done report) =>
      match ingester.ingestDocuments run documents with
      | (run, .done reports) => (run, .done (report :: reports))
      | (run, .failed failure) => (run, .failed failure)
      | (run, .waiting limit) => (run, .waiting limit)

/-- What holds between two moments of an ingestion during which some candidates were fresh. -/
structure Added (vectorOf : Text → Vector64) (fresh : List Candidate)
    (before after : Ingestion) : Prop where
  table : after.store.table = before.store.table ++ fresh.map (Candidate.row vectorOf)
  events : after.events = before.events ++ fresh.map fun candidate => .embedded candidate.content
  unbroken : after.store.isBroken = before.store.isBroken
  unchanged : fresh = [] → after = before

namespace Added

variable {vectorOf : Text → Vector64}

theorem refl (run : Ingestion) : Added vectorOf [] run run :=
  ⟨by simp, by simp, rfl, fun _ => rfl⟩

theorem trans {first second : List Candidate} {before middle after : Ingestion}
    (hfirst : Added vectorOf first before middle) (hsecond : Added vectorOf second middle after) :
    Added vectorOf (first ++ second) before after where
  table := by rw [hsecond.table, hfirst.table, List.map_append, List.append_assoc]
  events := by rw [hsecond.events, hfirst.events, List.map_append, List.append_assoc]
  unbroken := hsecond.unbroken.trans hfirst.unbroken
  unchanged hnone := by
    rw [List.append_eq_nil_iff] at hnone
    rw [hsecond.unchanged hnone.2, hfirst.unchanged hnone.1]

end Added

variable {vectorOf : Text → Vector64} {length : Nat} {path : Text}

/-- A new piece is asked for and added. -/
theorem ingestPiece_answering_of_new (milliseconds : Option Number) (pause : Binary64)
    (hlength : ∀ text, (vectorOf text).length = length)
    (hpath : path ≠ []) {run : Ingestion} (hunbroken : run.store.isBroken = false)
    (hadmits : run.store.Admits length) {piece : Piece}
    (hnew : piece.chunk.fingerprint ∉ run.store.table.fingerprints) :
    ∃ kept, (answering vectorOf milliseconds).ingestPiece pause path run piece =
        (kept, .done true) ∧
      kept.store = run.store.extended (Candidate.row vectorOf ⟨path, piece⟩) length ∧
      kept.events = run.events ++ [.embedded piece.chunk.content] := by
  have hanswered : ((answering vectorOf milliseconds).embed run.events
      piece.chunk.content).outcome = .done (vectorOf piece.chunk.content) := rfl
  obtain ⟨pauses, hkept⟩ := keep_of_admits pause
    ((answering vectorOf milliseconds).ask run piece).1 piece (vectorOf piece.chunk.content)
    hunbroken hpath ((hlength piece.chunk.content).symm ▸ hadmits) hnew
  rw [ingestPiece_of_answered rfl hunbroken hnew hanswered, hkept]
  exact ⟨_, rfl, by rw [← hlength piece.chunk.content]; rfl, rfl⟩

/-- A run over some pieces adds their fresh candidates and counts the others as skipped. -/
theorem ingestPieces_answering (milliseconds : Option Number) (pause : Binary64)
    (hlength : ∀ text, (vectorOf text).length = length)
    (hpath : path ≠ []) {run : Ingestion} (hunbroken : run.store.isBroken = false)
    (hadmits : run.store.Admits length) (report : Report) (pieces : List Piece) :
    let fresh := run.store.table.fresh (pieces.map (Candidate.mk path))
    ∃ after, (answering vectorOf milliseconds).ingestPieces pause path report run pieces =
        (after, .done (report.counting pieces.length fresh.length)) ∧
      Added vectorOf fresh run after ∧ after.store.Admits length := by
  induction pieces generalizing run report with
  | nil =>
      refine ⟨run, ?_, Added.refl run, hadmits⟩
      simp [ingestPieces, Report.counting, Table.fresh, firstOfEach]
  | cons piece pieces ih =>
      intro fresh
      by_cases hheld : piece.chunk.fingerprint ∈ run.store.table.fingerprints
      · have hfresh : fresh = run.store.table.fresh (pieces.map (Candidate.mk path)) :=
          Table.fresh_cons_of_held _ hheld
        have hcounted : fresh.length ≤ pieces.length := by
          simpa [hfresh] using Table.length_fresh_le (pieces.map (Candidate.mk path))
        obtain ⟨after, hrest, hadded, hlast⟩ := ih hunbroken hadmits (report.count false)
        refine ⟨after, ?_, hfresh ▸ hadded, hlast⟩
        rw [ingestPieces, ingestPiece_of_held rfl hunbroken hheld]
        dsimp only
        rw [hrest, ← hfresh, Report.count_false_counting report hcounted, List.length_cons]
      · have hfresh : fresh = ⟨path, piece⟩ ::
            Table.fresh (run.store.table ++ [Candidate.row vectorOf ⟨path, piece⟩])
              (pieces.map (Candidate.mk path)) :=
          Table.fresh_cons_of_new _ hheld
        obtain ⟨kept, hfirst, hstore, hevents⟩ := ingestPiece_answering_of_new
          milliseconds pause hlength hpath hunbroken hadmits hheld
        have hstep : Added vectorOf [⟨path, piece⟩] run kept :=
          ⟨by rw [hstore]; rfl, hevents, by rw [hstore]; rfl, fun h => absurd h (by simp)⟩
        obtain ⟨after, hrest, hadded, hlast⟩ := ih (hstep.unbroken.trans hunbroken)
          (hstore ▸ hadmits.extended _) (report.count true)
        have hgrown : kept.store.table =
            run.store.table ++ [Candidate.row vectorOf ⟨path, piece⟩] := hstep.table
        rw [hgrown] at hrest hadded
        refine ⟨after, ?_, ?_, hlast⟩
        · rw [ingestPieces, hfirst]
          dsimp only
          rw [hrest, hfresh, Report.count_true_counting]
          rfl
        · rw [hfresh]
          exact hstep.trans hadded

/-- A run over a document adds its fresh candidates. -/
theorem ingestText_answering (hlength : ∀ text, (vectorOf text).length = length)
    {milliseconds : Option Number} {pause : Binary64} (hpause : seconds milliseconds = .ok pause)
    {document : Document} (hpath : document.path ≠ [])
    {run : Ingestion} (hunbroken : run.store.isBroken = false)
    (hadmits : run.store.Admits length) :
    ∃ after, (answering vectorOf milliseconds).ingestText document.path document.text run =
        (after, .done (document.report run.store.table)) ∧
      Added vectorOf (run.store.table.fresh document.candidates) run after ∧
      after.store.Admits length := by
  obtain ⟨after, hrun, hadded, hlast⟩ := ingestPieces_answering milliseconds pause
    hlength hpath hunbroken hadmits { files := 1 } (piecesOf document.text)
  refine ⟨after, ?_, hadded, hlast⟩
  have hseconds : seconds (answering vectorOf milliseconds).milliseconds = .ok pause := hpause
  rw [ingestText, hseconds]
  dsimp only
  rw [hrun]
  simp [Report.counting, Document.report, Document.candidates, candidatesOf]

/-- A run over some documents adds their fresh candidates, and reports on each document what
was fresh when its turn came. -/
theorem ingestDocuments_answering (hlength : ∀ text, (vectorOf text).length = length)
    {milliseconds : Option Number} {pause : Binary64} (hpause : seconds milliseconds = .ok pause)
    {documents : List Document} (hpaths : ∀ document ∈ documents, document.path ≠ [])
    {run : Ingestion} (hunbroken : run.store.isBroken = false)
    (hadmits : run.store.Admits length) :
    ∃ after, (answering vectorOf milliseconds).ingestDocuments run documents =
        (after, .done (Document.reports vectorOf run.store.table documents)) ∧
      Added vectorOf (run.store.table.fresh (documents.flatMap Document.candidates)) run after ∧
      after.store.Admits length := by
  induction documents generalizing run with
  | nil => exact ⟨run, rfl, Added.refl run, hadmits⟩
  | cons document documents ih =>
      obtain ⟨middle, hfirst, hadded, hmiddle⟩ := ingestText_answering
        hlength hpause (hpaths document List.mem_cons_self) hunbroken hadmits
      obtain ⟨after, hrest, hlater, hlast⟩ :=
        ih (fun other h => hpaths other (List.mem_cons_of_mem document h))
          (hadded.unbroken.trans hunbroken) hmiddle
      have hgrown : middle.store.table =
          run.store.table.grown vectorOf document.candidates := hadded.table
      refine ⟨after, ?_, ?_, hlast⟩
      · rw [ingestDocuments, hfirst]
        dsimp only
        rw [hrest, hgrown]
        rfl
      · rw [List.flatMap_cons, Table.fresh_append vectorOf, ← hgrown]
        exact hadded.trans hlater

/-- Ingesting some documents puts their fresh candidates behind the rows, in order, with one
question for each of them and none besides; doing it again changes nothing, asks nothing,
and reports every chunk as skipped. -/
theorem ingestDocuments_appends_fresh (vectorOf : Text → Vector64) (length : Nat)
    (milliseconds : Option Number) (pause : Binary64) (documents : List Document)
    (run : Ingestion) (hlength : ∀ text, (vectorOf text).length = length)
    (hpause : seconds milliseconds = .ok pause)
    (hpaths : ∀ document ∈ documents, document.path ≠ [])
    (hunbroken : run.store.isBroken = false) (hadmits : run.store.Admits length) :
    let ingester := answering vectorOf milliseconds
    let fresh := run.store.table.fresh (documents.flatMap Document.candidates)
    ∃ after, ingester.ingestDocuments run documents =
        (after, .done (Document.reports vectorOf run.store.table documents)) ∧
      after.store.table = run.store.table ++ fresh.map (Candidate.row vectorOf) ∧
      after.events = run.events ++ fresh.map (fun candidate => .embedded candidate.content) ∧
      ingester.ingestDocuments after documents =
        (after, .done (documents.map Document.repeated)) := by
  intro ingester fresh
  obtain ⟨after, hfirst, hadded, hafter⟩ :=
    ingestDocuments_answering hlength hpause hpaths hunbroken hadmits
  refine ⟨after, hfirst, hadded.table, hadded.events, ?_⟩
  obtain ⟨last, hsecond, hagain, -⟩ := ingestDocuments_answering hlength hpause hpaths
    (hadded.unbroken.trans hunbroken) hafter
  have hheld : ∀ candidate ∈ documents.flatMap Document.candidates,
      candidate.fingerprint ∈ after.store.table.fingerprints := by
    intro candidate hcandidate
    have hgrown : after.store.table =
        run.store.table.grown vectorOf (documents.flatMap Document.candidates) := hadded.table
    rw [hgrown, Table.mem_fingerprints_grown]
    exact Or.inr (List.mem_map_of_mem hcandidate)
  have hsame : last = after := hagain.unchanged (Table.fresh_eq_nil hheld)
  rw [hsame, Document.reports_of_held hheld] at hsecond
  exact hsecond

/-- Two documents with one text. -/
def twoCopies : List Document := [⟨"a.md", "Text"⟩, ⟨"b.md", "Text"⟩]

/-- Of two copies the chunk of the first one becomes a row. -/
theorem ingestDocuments_appends_fresh_of_twoCopies :
    let vectorOf : Text → Vector64 := fun _ => [.one]
    let ingester := answering vectorOf (some (.integer 0))
    let run : Ingestion := { store := {} }
    let fresh := run.store.table.fresh (twoCopies.flatMap Document.candidates)
    fresh.map Candidate.path = ["a.md"] ∧
    ∃ after, ingester.ingestDocuments run twoCopies =
        (after, .done (Document.reports vectorOf run.store.table twoCopies)) ∧
      after.store.table = run.store.table ++ fresh.map (Candidate.row vectorOf) ∧
      after.events = run.events ++ fresh.map (fun candidate => .embedded candidate.content) ∧
      ingester.ingestDocuments after twoCopies =
        (after, .done (twoCopies.map Document.repeated)) := by
  refine ⟨by decide +kernel, ?_⟩
  apply ingestDocuments_appends_fresh (fun _ => [.one]) 1 (some (.integer 0)) .zero
  · exact fun _ => rfl
  · decide +kernel
  · decide
  · rfl
  · exact ⟨by decide, by decide, Or.inl rfl⟩

/-- A document without a path, a broken transaction and a database of another kind each keep
a fresh candidate from becoming a row. -/
theorem ingestDocuments_without_row :
    let ingester := answering (fun _ => [.one]) (some (.integer 0))
    let fresh := fun document : Document => Table.fresh [] document.candidates
    let table := fun (document : Document) (store : Store) =>
      (ingester.ingestDocuments { store } [document]).1.store.table
    (fresh ⟨[], "Text"⟩ ≠ [] ∧ table ⟨[], "Text"⟩ {} = []) ∧
    (fresh ⟨"a.md", "Text"⟩ ≠ [] ∧
      table ⟨"a.md", "Text"⟩ { isBroken := true } = [] ∧
      table ⟨"a.md", "Text"⟩ { dialect := "mysql" } = []) := by
  decide +kernel

end Ingester

end ScriptDocs
