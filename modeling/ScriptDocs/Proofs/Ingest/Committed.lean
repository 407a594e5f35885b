/-
# What is committed stays

The committed rows are the first rows of the table. A faltering run over files only adds
to them: an insertion is committed at once, and taking back the others leaves them
alone. So the rows that are committed at any moment of a run, before a file or within
it, are the first rows of the table at its end, whether or not everything was
committed at the start.
-/

import ScriptDocs.Proofs.Ingest.Directory

namespace ScriptDocs

namespace Store

/-- The committed rows of one moment are the first ones of a later moment, and the rows that
are committed then are the first ones of the table. -/
structure Keeps (before after : Store) : Prop where
  committed : before.saved <+: after.saved
  first : after.saved <+: after.table

variable {before middle after : Store}

theorem Keeps.trans (hfirst : before.Keeps middle) (hsecond : middle.Keeps after) :
    before.Keeps after :=
  ⟨hfirst.committed.trans hsecond.committed, hsecond.first⟩

theorem Keeps.refl (hfirst : before.saved <+: before.table) : before.Keeps before :=
  ⟨List.prefix_refl _, hfirst⟩

theorem Alike.keeps (halike : after.Alike before) (hfirst : before.saved <+: before.table) :
    before.Keeps after where
  committed := halike.saved ▸ List.prefix_refl _
  first := by rwa [halike.saved, halike.table]

theorem Advanced.keeps {vectorOf : Text → Vector64} {length : Nat} {part : List Candidate}
    (hadvanced : before.Advanced vectorOf length part after)
    (hfirst : before.saved <+: before.table) : before.Keeps after := by
  rcases hadvanced.saved with hsaved | ⟨htable, hsaved⟩
  · have hgrown : before.table <+: after.table := by
      rw [hadvanced.table]
      exact List.prefix_append _ _
    refine ⟨?_, hsaved ▸ List.prefix_refl _⟩
    rw [hsaved]
    exact hfirst.trans hgrown
  · refine ⟨hsaved ▸ List.prefix_refl _, ?_⟩
    rwa [hsaved, htable]

/-- Taking back what is not committed leaves the committed rows. -/
theorem keeps_rollback (store : Store) : store.Keeps store.rollback :=
  ⟨List.prefix_refl _, List.prefix_refl _⟩

end Store

namespace Ingester

variable {ingester : Ingester} {vectorOf : Text → Vector64} {length : Nat} {root : Text}

theorem ingestPieces_keeps (hlength : ∀ text, (vectorOf text).length = length)
    (hfaltering : ingester.Faltering vectorOf) (pause : Binary64) (path : Text)
    (report : Report) {run : Ingestion} (hfirst : run.store.saved <+: run.store.table)
    (pieces : List Piece) :
    run.store.Keeps (ingester.ingestPieces pause path report run pieces).1.store := by
  by_cases hrefuses : run.store.Refuses path length
  · exact (ingestPieces_of_refused hlength hfaltering hrefuses report pieces).keeps hfirst
  · obtain ⟨part, -, hadvanced, -⟩ :=
      ingestPieces_advanced pause hlength hfaltering hrefuses report pieces
    exact hadvanced.keeps hfirst

theorem ingestFile_keeps (hlength : ∀ text, (vectorOf text).length = length)
    (hfaltering : ingester.Faltering vectorOf) (path : Text) (content : Bytes)
    {run : Ingestion} (hfirst : run.store.saved <+: run.store.table) :
    run.store.Keeps (ingester.ingestFile path content run).1.store := by
  unfold ingestFile
  split
  · unfold ingestText
    split
    · exact ingestPieces_keeps hlength hfaltering _ path _ hfirst _
    · exact Store.Keeps.refl hfirst
  · exact Store.Keeps.refl hfirst

/-- What the files behind one keep, that one leaves to them. -/
theorem ingestFiles_cons_keeps (report : Report) {run : Ingestion} {file : SourceFile}
    {files : List SourceFile}
    (hfirst : let result := ingester.ingestFile (pathBelow root file.place) file.content run
      result.1.store.saved <+: result.1.store.table)
    (hrest : ∀ report (middle : Ingestion), middle.store.saved <+: middle.store.table →
      middle.store.Keeps (ingester.ingestFiles root report middle files).1.store) :
    (ingester.ingestFile (pathBelow root file.place) file.content run).1.store.Keeps
      (ingester.ingestFiles root report run (file :: files)).1.store := by
  rw [ingestFiles]
  dsimp only at hfirst ⊢
  rcases hfile : ingester.ingestFile (pathBelow root file.place) file.content run with
    ⟨middle, counted | failure | limit⟩
  · rw [hfile] at hfirst
    exact hrest _ middle hfirst
  · have hrollback := middle.store.keeps_rollback
    exact hrollback.trans
      (hrest _ { middle with store := middle.store.rollback } hrollback.first)
  · rw [hfile] at hfirst
    exact Store.Keeps.refl hfirst

/-- A run over files keeps what was committed at its start. -/
theorem ingestFiles_keeps (root : Text) (hlength : ∀ text, (vectorOf text).length = length)
    (hfaltering : ingester.Faltering vectorOf) (report : Report) {run : Ingestion}
    (hfirst : run.store.saved <+: run.store.table) (files : List SourceFile) :
    run.store.Keeps (ingester.ingestFiles root report run files).1.store := by
  induction files generalizing run report with
  | nil => exact Store.Keeps.refl hfirst
  | cons file files ih =>
      have hfile := ingestFile_keeps hlength hfaltering (pathBelow root file.place)
        file.content hfirst
      exact hfile.trans (ingestFiles_cons_keeps report hfile.first
        fun report _ h => ih report h)

/-- A run that gets through some files goes on with the next ones from there. -/
theorem ingestFiles_append {report counted : Report} {run : Ingestion}
    {earlier : List SourceFile}
    (hreached : (ingester.ingestFiles root report run earlier).2.1 = .done counted)
    (files : List SourceFile) :
    (ingester.ingestFiles root report run (earlier ++ files)).1 =
      (ingester.ingestFiles root counted (ingester.ingestFiles root report run earlier).1
        files).1 := by
  induction earlier generalizing report run with
  | nil =>
      obtain rfl : report = counted := Outcome.done.inj hreached
      rfl
  | cons file earlier ih =>
      rw [List.cons_append]
      rw [ingestFiles] at hreached
      rw [ingestFiles, ingestFiles]
      dsimp only at hreached ⊢
      rcases hfile : ingester.ingestFile (pathBelow root file.place) file.content run with
        ⟨next, added | failure | limit⟩
      all_goals rw [hfile] at hreached
      · exact ih hreached
      · exact ih hreached
      · cases hreached

/-- The moments of a run over files: it has got to a file and put in some pieces of it. -/
inductive Passes (ingester : Ingester) (root : Text) (run : Ingestion)
    (files : List SourceFile) : Ingestion → Prop
  | within {earlier later : List SourceFile} {file : SourceFile} {counted : Report}
      {text : Text} {pause : Binary64} {pieces rest : List Piece}
      (hfiles : files = earlier ++ file :: later)
      (hreached : (ingester.ingestFiles root {} run earlier).2.1 = .done counted)
      (htext : textOf file.content = .ok text)
      (hpause : seconds ingester.milliseconds = .ok pause)
      (hpieces : piecesOf text = pieces ++ rest) :
      Passes ingester root run files
        (ingester.ingestPieces pause (pathBelow root file.place) { files := 1 }
          (ingester.ingestFiles root {} run earlier).1 pieces).1

/-- A run over files keeps what is committed at any of its moments. -/
theorem ingestFiles_keeps_of_passes (hlength : ∀ text, (vectorOf text).length = length)
    (hfaltering : ingester.Faltering vectorOf) {run moment : Ingestion}
    (hfirst : run.store.saved <+: run.store.table) {files : List SourceFile}
    (hpasses : ingester.Passes root run files moment) :
    moment.store.Keeps (ingester.ingestFiles root {} run files).1.store := by
  obtain @⟨earlier, later, file, counted, text, pause, pieces, rest,
    rfl, hreached, htext, hpause, hpieces⟩ := hpasses
  rw [ingestFiles_append hreached]
  have hmiddle := ingestFiles_keeps root hlength hfaltering {} hfirst earlier
  generalize (ingester.ingestFiles root {} run earlier).1 = middle at hmiddle ⊢
  have hmoment := ingestPieces_keeps hlength hfaltering pause (pathBelow root file.place)
    { files := 1 } hmiddle.first pieces
  have hfile : (ingester.ingestPieces pause (pathBelow root file.place) { files := 1 } middle
      pieces).1.store.Keeps
        (ingester.ingestFile (pathBelow root file.place) file.content middle).1.store := by
    rw [ingestFile, htext]
    dsimp only
    rw [ingestText, hpause, hpieces]
    dsimp only
    rw [ingestPieces_append]
    rcases hsome : ingester.ingestPieces pause (pathBelow root file.place) { files := 1 } middle
        pieces with ⟨next, added | failure | limit⟩
    all_goals rw [hsome] at hmoment
    · exact ingestPieces_keeps hlength hfaltering pause _ added hmoment.first rest
    · exact Store.Keeps.refl hmoment.first
    · exact Store.Keeps.refl hmoment.first
  exact hfile.trans (ingestFiles_cons_keeps counted hfile.first
    fun report _ h => ingestFiles_keeps root hlength hfaltering report h later)

end Ingester

end ScriptDocs
