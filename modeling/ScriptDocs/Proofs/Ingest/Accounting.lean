/-
# What a report accounts for

The rows of a file are committed one by one, while its counters reach the report of the whole run
only when the file is done. So a file that fails after some insertions leaves rows that no
counter has: these are called stranded. The rows that a run over files adds are those that it
reports as inserted and the stranded ones.
-/

import ScriptDocs.Proofs.Ingest.Documents
import ScriptDocs.Proofs.Ingest.Resume
import ScriptDocs.Proofs.Store.Memory
import ScriptDocs.Proofs.Work

namespace ScriptDocs

namespace Store

/-- Some rows are put behind those of a store. Then everything is committed, or no row was added
and what is committed is what was so before. -/
structure Gains (rows : List Row) (before after : Store) : Prop where
  table : after.table = before.table ++ rows
  saved : after.saved = after.table ∨ rows = [] ∧ after.saved = before.saved

namespace Gains

variable {before middle after : Store}

theorem refl (store : Store) : Gains [] store store :=
  ⟨(List.append_nil _).symm, Or.inr ⟨rfl, rfl⟩⟩

theorem of_alike (halike : after.Alike before) : Gains [] before after :=
  ⟨by rw [halike.table, List.append_nil], Or.inr ⟨rfl, halike.saved⟩⟩

theorem trans {first second : List Row} (hfirst : Gains first before middle)
    (hsecond : Gains second middle after) : Gains (first ++ second) before after where
  table := by rw [hsecond.table, hfirst.table, List.append_assoc]
  saved := by
    rcases hsecond.saved with hsaved | ⟨rfl, hsaved⟩
    · exact Or.inl hsaved
    · have htable : after.table = middle.table := by rw [hsecond.table, List.append_nil]
      rw [hsaved, htable, List.append_nil]
      exact hfirst.saved

/-- What is left of the store behind the rows, or of what is committed there, is what is left of
the store before them, or of what was committed then, with the rows behind it. -/
theorem exists_kept {rows kept : List Row} {taken : Prop} (hgains : Gains rows before after)
    (hkept : kept = after.table ∨ kept = after.saved ∧ taken) :
    ∃ left, kept = left ++ rows ∧ (left = before.table ∨ left = before.saved ∧ taken) := by
  have hall : after.table = before.table ++ rows := hgains.table
  rcases hkept with rfl | ⟨rfl, htaken⟩
  · exact ⟨before.table, hall, Or.inl rfl⟩
  rcases hgains.saved with hsaved | ⟨rfl, hsaved⟩
  · exact ⟨before.table, hsaved.trans hall, Or.inl rfl⟩
  · exact ⟨before.saved, hsaved.trans (List.append_nil _).symm, Or.inr ⟨rfl, htaken⟩⟩

end Gains

end Store

namespace Ingester

/-- The provider leaves no question open: it answers or it fails. -/
def Responsive (ingester : Ingester) : Prop :=
  ∀ events text limit, (ingester.embed events text).outcome ≠ .waiting limit

variable {ingester : Ingester} {pause : Binary64} {path : Text} {run : Ingestion}

theorem content_of_passageOf {piece : Piece} {vector : Vector64} {passage : Passage}
    (hpassage : passageOf path piece vector = .ok passage) :
    passage.content = piece.chunk.content := by
  unfold passageOf at hpassage
  split at hpassage
  · cases hpassage
  · rw [← Except.ok.inj hpassage]

/-- A piece that is kept becomes one row, with its content, just where it is told to be new. -/
theorem keep_gains (pause : Binary64) (path : Text) (run : Ingestion) (piece : Piece)
    (vector : Vector64) :
    let result := keep pause path run piece vector
    (∃ row, row.content = piece.chunk.content ∧ result.2 = .ok true ∧
        run.store.Gains [row] result.1.store) ∨
      (result.2 ≠ .ok true ∧ run.store.Gains [] result.1.store) := by
  intro result
  dsimp only [result, keep]
  cases hpassage : passageOf path piece vector with
  | error failure => exact Or.inr ⟨by simp, .refl run.store⟩
  | ok passage =>
      dsimp only
      by_cases hadded : (run.store.upsert passage).2 = .ok true
      · obtain ⟨husable, -, hupsert⟩ := Store.upsert_eq_of_added hadded
        left
        refine ⟨Row.ofPassage passage, content_of_passageOf hpassage, ?_⟩
        rw [hupsert]
        simp only [Store.commit, Store.rows, husable.unbroken]
        exact ⟨rfl, rfl, Or.inl rfl⟩
      · -- Nothing is new, but a commit makes what was pending permanent.
        have hgains := Store.Gains.of_alike (Store.upsert_alike hadded)
        right
        rcases hupsert : run.store.upsert passage with ⟨store, failure | inserted⟩
        all_goals rw [hupsert] at hadded hgains
        · exact ⟨by simp, hgains⟩
        · dsimp only at hadded hgains ⊢
          cases hbroken : store.isBroken with
          | true =>
              simp only [Store.commit, Store.rows, hbroken, if_true]
              exact ⟨by simp, hgains⟩
          | false =>
              rw [Store.commit_of_unbroken hbroken]
              exact ⟨hadded, hgains.table, Or.inl rfl⟩

/-- A piece becomes one row, with its content, just where it is counted as new. -/
theorem ingestPiece_gains (ingester : Ingester) (pause : Binary64) (path : Text) (run : Ingestion)
    (piece : Piece) :
    let result := ingester.ingestPiece pause path run piece
    (∃ row, row.content = piece.chunk.content ∧ result.2 = .done true ∧
        run.store.Gains [row] result.1.store) ∨
      (result.2 ≠ .done true ∧ run.store.Gains [] result.1.store) := by
  intro result
  dsimp only [result, ingestPiece]
  rcases ingester.knows run piece with failure | known
  · exact Or.inr ⟨nofun, .refl run.store⟩
  cases known with
  | true => exact Or.inr ⟨by simp, .refl run.store⟩
  | false =>
      dsimp only [ask]
      cases (ingester.embed run.events piece.chunk.content).outcome with
      | failed failure => exact Or.inr ⟨nofun, .refl run.store⟩
      | waiting limit => exact Or.inr ⟨nofun, .refl run.store⟩
      | done vector =>
          have hkept := keep_gains pause path
            { run with
              events := run.events ++ (ingester.embed run.events piece.chunk.content).events }
            piece vector
          dsimp only at hkept ⊢
          rcases hkeep : keep pause path _ piece vector with ⟨kept, failure | inserted⟩
          all_goals rw [hkeep] at hkept
          · exact hkept.imp (fun ⟨_, _, hnone, _⟩ => nomatch hnone) fun h => ⟨nofun, h.2⟩
          · simpa using hkept

/-- The rows that some pieces become hold the contents of pieces, and are as many as are counted as
inserted, if the run over them is done. -/
theorem ingestPieces_gains (ingester : Ingester) (pause : Binary64) (path : Text) (report : Report)
    (run : Ingestion) (pieces : List Piece) :
    let result := ingester.ingestPieces pause path report run pieces
    ∃ rows, run.store.Gains rows result.1.store ∧
      (∀ row ∈ rows, ∃ piece ∈ pieces, row.content = piece.chunk.content) ∧
      rows.length ≤ pieces.length ∧
      ∀ counted, result.2 = .done counted →
        counted = report.counting pieces.length rows.length := by
  induction pieces generalizing run report with
  | nil =>
      refine ⟨[], .refl run.store, nofun, Nat.le_refl _, fun counted hcounted => ?_⟩
      exact (Outcome.done.inj hcounted).symm
  | cons piece pieces ih =>
      have hfirst := ingestPiece_gains ingester pause path run piece
      dsimp only [ingestPieces] at hfirst ⊢
      rcases hpiece : ingester.ingestPiece pause path run piece with
        ⟨middle, inserted | failure | limit⟩
      all_goals rw [hpiece] at hfirst
      · obtain ⟨rows, hgains, hcontents, hlength, hcounted⟩ := ih (report.count inserted) middle
        have hlater : ∀ row ∈ rows, ∃ other ∈ piece :: pieces, row.content = other.chunk.content :=
          fun row h => (hcontents row h).imp fun other ⟨hother, hsame⟩ =>
            ⟨List.mem_cons_of_mem piece hother, hsame⟩
        rcases hfirst with ⟨row, hcontent, hdone, hrow⟩ | ⟨hnot, hnone⟩
        · obtain rfl : inserted = true := Outcome.done.inj hdone
          refine ⟨row :: rows, hrow.trans hgains,
            List.forall_mem_cons.mpr ⟨⟨piece, List.mem_cons_self, hcontent⟩, hlater⟩,
            Nat.succ_le_succ hlength, fun counted h => ?_⟩
          rw [hcounted counted h, Report.count_true_counting]
          rfl
        · obtain rfl : inserted = false := by simpa using hnot
          refine ⟨rows, hnone.trans hgains, hlater, Nat.le_succ_of_le hlength, fun counted h => ?_⟩
          rw [hcounted counted h, Report.count_false_counting report hlength]
          rfl
      all_goals
        rcases hfirst with ⟨row, -, hdone, -⟩ | ⟨-, hnone⟩
        · cases hdone
        · exact ⟨[], hnone, nofun, Nat.zero_le _, nofun⟩

/-- A file that is done counts its rows as inserted; one that is not done has put in rows that no
counter has. -/
theorem ingestFile_gains (ingester : Ingester) (path : Text) (content : Bytes) (run : Ingestion) :
    let result := ingester.ingestFile path content run
    ∃ rows, run.store.Gains rows result.1.store ∧ ∀ counted, result.2 = .done counted →
      ∃ chunks, rows.length ≤ chunks ∧
        counted = Report.counting { files := 1 } chunks rows.length := by
  dsimp only [ingestFile]
  cases textOf content with
  | error failure => exact ⟨[], .refl run.store, nofun⟩
  | ok text =>
      dsimp only [ingestText]
      cases seconds ingester.milliseconds with
      | error failure => exact ⟨[], .refl run.store, nofun⟩
      | ok pause =>
          obtain ⟨rows, hgains, -, hlength, hcounted⟩ :=
            ingestPieces_gains ingester pause path { files := 1 } run (piecesOf text)
          exact ⟨rows, hgains, fun counted h => ⟨_, hlength, hcounted counted h⟩⟩

/-! ### Where every question is answered or refused -/

theorem Responsive.ingestPiece_ne_waiting (hresponsive : ingester.Responsive) (pause : Binary64)
    (path : Text) (run : Ingestion) (piece : Piece) (limit : Option (Binary64 × Failure)) :
    (ingester.ingestPiece pause path run piece).2 ≠ .waiting limit := by
  dsimp only [ingestPiece]
  rcases ingester.knows run piece with failure | known
  · exact nofun
  cases known with
  | true => exact nofun
  | false =>
      dsimp only [ask]
      cases hanswer : (ingester.embed run.events piece.chunk.content).outcome with
      | failed failure => exact nofun
      | waiting other => exact absurd hanswer (hresponsive _ _ other)
      | done vector =>
          dsimp only
          rcases keep pause path _ piece vector with ⟨kept, failure | inserted⟩ <;> exact nofun

theorem Responsive.ingestPieces_ne_waiting (hresponsive : ingester.Responsive) (pause : Binary64)
    (path : Text) (report : Report) (run : Ingestion) (pieces : List Piece)
    (limit : Option (Binary64 × Failure)) :
    (ingester.ingestPieces pause path report run pieces).2 ≠ .waiting limit := by
  induction pieces generalizing run report with
  | nil => exact nofun
  | cons piece pieces ih =>
      have hfirst := hresponsive.ingestPiece_ne_waiting pause path run piece
      dsimp only [ingestPieces]
      rcases hpiece : ingester.ingestPiece pause path run piece with
        ⟨middle, inserted | failure | other⟩
      · exact ih (report.count inserted) middle
      · exact nofun
      · exact absurd (congrArg Prod.snd hpiece) (hfirst other)

theorem Responsive.ingestFile_ne_waiting (hresponsive : ingester.Responsive) (path : Text)
    (content : Bytes) (run : Ingestion) (limit : Option (Binary64 × Failure)) :
    (ingester.ingestFile path content run).2 ≠ .waiting limit := by
  dsimp only [ingestFile]
  cases textOf content with
  | error failure => exact nofun
  | ok text =>
      dsimp only [ingestText]
      cases seconds ingester.milliseconds with
      | error failure => exact nofun
      | ok pause => exact hresponsive.ingestPieces_ne_waiting pause path _ run _ limit

/-! ### Runs over files -/

/-- What a run over files has counted before makes no difference to what it does, and is added to
what it counts. -/
theorem ingestFiles_add (ingester : Ingester) (root : Text) (before report : Report)
    (run : Ingestion) (files : List SourceFile) :
    (ingester.ingestFiles root (before.add report) run files).1 =
        (ingester.ingestFiles root report run files).1 ∧
      ∀ counted, (ingester.ingestFiles root report run files).2.1 = .done counted →
        (ingester.ingestFiles root (before.add report) run files).2.1 =
          .done (before.add counted) := by
  induction files generalizing report run with
  | nil =>
      refine ⟨rfl, fun counted hcounted => ?_⟩
      obtain rfl : report = counted := Outcome.done.inj hcounted
      rfl
  | cons file files ih =>
      rw [ingestFiles, ingestFiles]
      dsimp only
      rcases ingester.ingestFile (pathBelow root file.place) file.content run with
        ⟨next, added | failure | limit⟩
      · have hassoc : (before.add report).add added = before.add (report.add added) := by
          simp only [Report.add, Nat.add_assoc]
        dsimp only
        rw [hassoc]
        exact ih (report.add added) next
      · exact ih { report with failedFiles := report.failedFiles + 1 }
          { next with store := next.store.rollback }
      · refine ⟨rfl, fun counted hcounted => ?_⟩
        cases hcounted

/-- The rows that the failing files of a run have put in before they failed. -/
def stranded (ingester : Ingester) (root : Text) (run : Ingestion) : List SourceFile → List Row
  | [] => []
  | file :: files =>
    match ingester.ingestFile (pathBelow root file.place) file.content run with
    | (next, .done _) => ingester.stranded root next files
    | (next, .failed _) =>
      next.store.table.drop run.store.table.length ++
        ingester.stranded root { next with store := next.store.rollback } files
    | (_, .waiting _) => []

/-- A run goes on behind a file that is done, whose counters are added. -/
theorem ingestFiles_cons_of_done {root : Text} {run next : Ingestion} {file : SourceFile}
    {first : Report}
    (hfile : ingester.ingestFile (pathBelow root file.place) file.content run =
      (next, .done first)) (files : List SourceFile) :
    (ingester.ingestFiles root {} run (file :: files)).1 =
        (ingester.ingestFiles root {} next files).1 ∧
      ∀ counted, (ingester.ingestFiles root {} next files).2.1 = .done counted →
        (ingester.ingestFiles root {} run (file :: files)).2.1 = .done (first.add counted) := by
  have hstart : ({} : Report).add first = first.add {} := by
    simp only [Report.add, Nat.zero_add, Nat.add_zero]
  rw [ingestFiles]
  dsimp only
  rw [hfile]
  dsimp only
  rw [hstart]
  exact ingestFiles_add ingester root first {} next files

/-- A run goes on behind a file that has failed, which is counted as such, with the store as it
was committed. -/
theorem ingestFiles_cons_of_failed {root : Text} {run next : Ingestion} {file : SourceFile}
    {failure : Failure}
    (hfile : ingester.ingestFile (pathBelow root file.place) file.content run =
      (next, .failed failure)) (files : List SourceFile) :
    let back : Ingestion := { next with store := next.store.rollback }
    (ingester.ingestFiles root {} run (file :: files)).1 =
        (ingester.ingestFiles root {} back files).1 ∧
      ∀ counted, (ingester.ingestFiles root {} back files).2.1 = .done counted →
        (ingester.ingestFiles root {} run (file :: files)).2.1 =
          .done (Report.add { failedFiles := 1 } counted) := by
  rw [ingestFiles]
  dsimp only
  rw [hfile]
  exact ingestFiles_add ingester root { failedFiles := 1 } {} _ files

/-- The account of a run over some files: what it leaves of what it has found, what it adds, and
what it tells about that. -/
structure Accounts (ingester : Ingester) (root : Text) (run : Ingestion) (files : List SourceFile)
    (report : Report) (kept added : List Row) : Prop where
  done : (ingester.ingestFiles root {} run files).2.1 = .done report
  table : (ingester.ingestFiles root {} run files).1.store.table = kept ++ added
  kept : kept = run.store.table ∨ kept = run.store.saved ∧ 0 < report.failedFiles
  walked : report.files + report.failedFiles = files.length
  chunks : report.chunks = report.inserted + report.skipped
  stranded : (ingester.stranded root run files).Sublist added
  inserted : report.inserted + (ingester.stranded root run files).length = added.length

namespace Accounts

variable {root : Text} {next : Ingestion} {file : SourceFile} {files : List SourceFile}
  {report first : Report} {failure : Failure} {rows kept added : List Row}

/-- A file that is done has its rows and its counters behind those of the files before it. -/
theorem cons_of_done
    (hfile : ingester.ingestFile (pathBelow root file.place) file.content run =
      (next, .done first)) (hgains : run.store.Gains rows next.store) {chunks : Nat}
    (hlength : rows.length ≤ chunks)
    (hfirst : first = Report.counting { files := 1 } chunks rows.length)
    (hrest : ingester.Accounts root next files report kept added) :
    ∃ left, ingester.Accounts root run (file :: files) (first.add report) left
      (rows ++ added) := by
  obtain ⟨hsame, hdone⟩ := ingestFiles_cons_of_done hfile files
  obtain ⟨left, hleft, hcases⟩ := hgains.exists_kept hrest.kept
  have hstranded : ingester.stranded root run (file :: files) =
      ingester.stranded root next files := by
    rw [Ingester.stranded, hfile]
  subst hfirst
  have hwalked := hrest.walked
  have hchunks := hrest.chunks
  have hinserted := hrest.inserted
  refine ⟨left, hdone report hrest.done, ?_, ?_, ?_, ?_, ?_, ?_⟩
  · rw [hsame, hrest.table, hleft, List.append_assoc]
  · exact hcases.imp_right fun h => ⟨h.1, by simp only [Report.add, Report.counting]; omega⟩
  · simp only [Report.add, Report.counting, List.length_cons]
    omega
  · simp only [Report.add, Report.counting]
    omega
  · rw [hstranded]
    exact hrest.stranded.trans (List.sublist_append_right _ _)
  · rw [hstranded, List.length_append]
    simp only [Report.add, Report.counting]
    omega

/-- A file that has failed has its rows behind those of the files before it, too, but nothing
about them is counted. -/
theorem cons_of_failed
    (hfile : ingester.ingestFile (pathBelow root file.place) file.content run =
      (next, .failed failure)) (hgains : run.store.Gains rows next.store)
    (hrest : ingester.Accounts root { next with store := next.store.rollback } files report kept
      added) :
    ∃ left, ingester.Accounts root run (file :: files)
      (Report.add { failedFiles := 1 } report) left (rows ++ added) := by
  obtain ⟨hsame, hdone⟩ := ingestFiles_cons_of_failed hfile files
  -- Behind a failure the table is what was committed.
  have hback : kept = next.store.saved := by
    rcases hrest.kept with hkept | ⟨hkept, -⟩ <;> exact hkept
  have hfailed : 0 < (Report.add { failedFiles := 1 } report).failedFiles := by
    simp only [Report.add]
    omega
  obtain ⟨left, hleft, hcases⟩ := hgains.exists_kept (Or.inr ⟨hback, hfailed⟩)
  have hstranded : ingester.stranded root run (file :: files) =
      rows ++ ingester.stranded root { next with store := next.store.rollback } files := by
    rw [Ingester.stranded, hfile]
    dsimp only
    rw [hgains.table, List.drop_left]
  have hwalked := hrest.walked
  have hchunks := hrest.chunks
  have hinserted := hrest.inserted
  refine ⟨left, hdone report hrest.done, ?_, hcases, ?_, ?_, ?_, ?_⟩
  · rw [hsame, hrest.table, hleft, List.append_assoc]
  · simp only [Report.add, List.length_cons]
    omega
  · simp only [Report.add]
    omega
  · rw [hstranded]
    exact (List.Sublist.refl rows).append hrest.stranded
  · rw [hstranded, List.length_append, List.length_append]
    simp only [Report.add]
    omega

end Accounts

/-- Every run over files has its account. -/
theorem Responsive.exists_accounts (hresponsive : ingester.Responsive) (root : Text)
    (run : Ingestion) (files : List SourceFile) :
    ∃ report kept added, ingester.Accounts root run files report kept added := by
  induction files generalizing run with
  | nil =>
      refine ⟨{}, run.store.table, [], rfl, ?_, Or.inl rfl, rfl, rfl, ?_, rfl⟩
      · exact (List.append_nil _).symm
      · exact List.Sublist.refl []
  | cons file files ih =>
      obtain ⟨rows, hgains, hcounted⟩ :=
        ingestFile_gains ingester (pathBelow root file.place) file.content run
      rcases hfile : ingester.ingestFile (pathBelow root file.place) file.content run with
        ⟨next, first | failure | limit⟩
      all_goals rw [hfile] at hgains hcounted
      · obtain ⟨report, kept, added, hrest⟩ := ih next
        obtain ⟨chunks, hlength, hfirst⟩ := hcounted first rfl
        exact ⟨_, (hrest.cons_of_done hfile hgains hlength hfirst).imp fun _ h => ⟨_, h⟩⟩
      · obtain ⟨report, kept, added, hrest⟩ := ih { next with store := next.store.rollback }
        exact ⟨_, (hrest.cons_of_failed hfile hgains).imp fun _ h => ⟨_, h⟩⟩
      · exact absurd (congrArg Prod.snd hfile) (hresponsive.ingestFile_ne_waiting _ _ run limit)

/-! ### Files that fail late -/

section Late

variable {root : Text} {run next : Ingestion} {file : SourceFile} {files : List SourceFile}

/-- A file fails late: with more rows in the store than it has found there. -/
def FailsLate (ingester : Ingester) (root : Text) (run : Ingestion) (file : SourceFile) : Prop :=
  let result := ingester.ingestFile (pathBelow root file.place) file.content run
  (∃ failure, result.2 = .failed failure) ∧
    run.store.table.length < result.1.store.table.length

/-- Some file of a run fails late, in the store that the files before it leave. -/
def Strands (ingester : Ingester) (root : Text) (run : Ingestion) (files : List SourceFile) :
    Prop :=
  ∃ earlier file later, files = earlier ++ file :: later ∧
    ingester.FailsLate root (ingester.ingestFiles root {} run earlier).1 file

/-- The first file fails late, or one of those that go on from what it leaves. -/
theorem strands_cons_iff (hsame : ∀ files, (ingester.ingestFiles root {} run (file :: files)).1 =
      (ingester.ingestFiles root {} next files).1) :
    ingester.Strands root run (file :: files) ↔
      ingester.FailsLate root run file ∨ ingester.Strands root next files := by
  constructor
  · rintro ⟨earlier, late, later, hfiles, hlate⟩
    cases earlier with
    | nil =>
        obtain ⟨rfl, -⟩ := List.cons.inj hfiles
        exact Or.inl hlate
    | cons first earlier =>
        obtain ⟨rfl, hrest⟩ := List.cons.inj hfiles
        rw [hsame] at hlate
        exact Or.inr ⟨earlier, late, later, hrest, hlate⟩
  · rintro (hlate | ⟨earlier, late, later, rfl, hlate⟩)
    · exact ⟨[], file, files, rfl, hlate⟩
    · refine ⟨file :: earlier, late, later, rfl, ?_⟩
      rwa [hsame]

/-- Rows are stranded just where a file fails late. -/
theorem Responsive.stranded_eq_nil_iff (hresponsive : ingester.Responsive) (root : Text)
    (run : Ingestion) (files : List SourceFile) :
    ingester.stranded root run files = [] ↔ ¬ ingester.Strands root run files := by
  induction files generalizing run with
  | nil =>
      refine iff_of_true rfl ?_
      rintro ⟨earlier, late, later, hfiles, -⟩
      simp at hfiles
  | cons file files ih =>
      rw [stranded]
      rcases hfile : ingester.ingestFile (pathBelow root file.place) file.content run with
        ⟨next, first | failure | limit⟩
      · have hnot : ¬ ingester.FailsLate root run file := by
          rintro ⟨⟨failure, hfailed⟩, -⟩
          rw [hfile] at hfailed
          cases hfailed
        rw [strands_cons_iff fun files => (ingestFiles_cons_of_done hfile files).1,
          or_iff_right hnot]
        exact ih next
      · have hlate : ingester.FailsLate root run file ↔
            run.store.table.length < next.store.table.length := by
          rw [FailsLate, hfile]
          exact and_iff_right ⟨failure, rfl⟩
        rw [strands_cons_iff fun files => (ingestFiles_cons_of_failed hfile files).1, not_or,
          hlate, Nat.not_lt, ← ih, List.append_eq_nil_iff, List.drop_eq_nil_iff]
      · exact absurd (congrArg Prod.snd hfile) (hresponsive.ingestFile_ne_waiting _ _ run limit)

end Late

/-- The report on a directory and the rows that its ingestion adds: every file is counted, as done
or as failed, and every chunk of a file that is done, as inserted or as skipped. The rows that are
added are those counted as inserted and the stranded ones, so the report accounts for the rows just
where no file fails after it has put in some. -/
theorem ingestDirectory_accounts_iff (ingester : Ingester) (hresponsive : ingester.Responsive)
    (root : Text) (entries : List Entry) (run : Ingestion) :
    let files := Entry.listing entries
    let result := ingester.ingestDirectory root entries run
    let stranded := ingester.stranded root run files
    ∃ report kept added, result.2.1 = .done report ∧
      result.1.store.table = kept ++ added ∧
      (kept = run.store.table ∨ kept = run.store.saved ∧ 0 < report.failedFiles) ∧
      report.files + report.failedFiles = files.length ∧
      report.chunks = report.inserted + report.skipped ∧
      stranded.Sublist added ∧ report.inserted + stranded.length = added.length ∧
      (report.inserted = added.length ↔ ¬ ingester.Strands root run files) := by
  intro files result stranded
  obtain ⟨report, kept, added, haccounts⟩ := hresponsive.exists_accounts root run files
  refine ⟨report, kept, added, haccounts.done, haccounts.table, haccounts.kept, haccounts.walked,
    haccounts.chunks, haccounts.stranded, haccounts.inserted, ?_⟩
  have hinserted : report.inserted + stranded.length = added.length := haccounts.inserted
  rw [← hresponsive.stranded_eq_nil_iff, ← hinserted, ← List.length_eq_zero_iff]
  exact Nat.left_eq_add

/-- Three files of which the first fails at its only chunk and the second one at its last chunk. -/
def twoFailing : List Entry :=
  threeFiles (Text.utf8 "One\n\n# Title\n\nTwo")

/-- Two rows are left, and one of them is counted. -/
theorem ingestDirectory_twoFailing :
    let result := failsAtHeadings.ingestDirectory "/docs" twoFailing { store := {} }
    result.2.1 = .done { files := 1, failedFiles := 2, chunks := 1, inserted := 1 } ∧
      result.1.store.table.map Row.sourcePath = ["/docs/b.md", "/docs/c.md"] := by
  dsimp only
  rw [ingestDirectory, twoFailing, listing_threeFiles]
  decide +kernel

theorem failsAtHeadings_responsive : failsAtHeadings.Responsive := by
  intro events text limit
  dsimp only [failsAtHeadings]
  split <;> exact nofun

/-- Where the second of three files fails behind a row that it has put in, that row is stranded. -/
theorem ingestDirectory_accounts_iff_of_twoFailing :
    ∃ report added, (failsAtHeadings.ingestDirectory "/docs" twoFailing
        { store := {} }).2.1 = .done report ∧
      report.inserted = 1 ∧ added.length = 2 ∧
      (failsAtHeadings.stranded "/docs" { store := {} } (Entry.listing twoFailing)).Sublist added ∧
      failsAtHeadings.Strands "/docs" { store := {} } (Entry.listing twoFailing) := by
  obtain ⟨houtcome, hpaths⟩ := ingestDirectory_twoFailing
  obtain ⟨report, kept, added, hdone, htable, hkept, -, -, hstranded, -, haccounts⟩ :=
    ingestDirectory_accounts_iff failsAtHeadings failsAtHeadings_responsive "/docs" twoFailing
      { store := {} }
  obtain rfl : report = _ := Outcome.done.inj (hdone.symm.trans houtcome)
  obtain rfl : kept = [] := by rcases hkept with hkept | ⟨hkept, -⟩ <;> exact hkept
  have hlength : added.length = 2 := by
    have hpaths' := congrArg List.length hpaths
    rwa [List.length_map, htable, List.nil_append] at hpaths'
  refine ⟨_, added, hdone, rfl, hlength, hstranded, ?_⟩
  by_contra hnone
  have htold := haccounts.mpr hnone
  rw [hlength] at htold
  cases htold

/-- A report may tell of fewer insertions than there are rows in a store that was empty before. -/
theorem ingestDirectory_tells_less :
    let result := failsAtHeadings.ingestDirectory "/docs" twoFailing { store := {} }
    ∃ report, result.2.1 = .done report ∧ report.inserted < result.1.store.table.length := by
  obtain ⟨houtcome, hpaths⟩ := ingestDirectory_twoFailing
  refine ⟨_, houtcome, ?_⟩
  rw [← List.length_map Row.sourcePath, hpaths]
  decide

end Ingester

end ScriptDocs
