/-
# Going on after an interruption

A first ingestion may fail at any question and at any file. What it has put in is a part
of what a steady run puts in, and it is committed. So a steady run afterwards ends with
the fingerprints that it would have ended with at once, each of them once; for a single
document, where the part is a beginning, it ends with the very same rows.
-/

import ScriptDocs.Proofs.Ingest.Committed

namespace ScriptDocs

namespace Table

variable {vectorOf : Text → Vector64} {length : Nat}

/-- Rows with vectors of the length that the first row tells, if it tells one, change nothing
about what it tells. -/
theorem vectorLength?_grown {table : Table} (hlength : ∀ text, (vectorOf text).length = length)
    (hnonzero : length ≠ 0)
    (htold : table.vectorLength? = .ok none ∨ table.vectorLength? = .ok (some length))
    (candidates : List Candidate) :
    (table.grown vectorOf candidates).vectorLength? = .ok none ∨
      (table.grown vectorOf candidates).vectorLength? = .ok (some length) := by
  unfold grown
  cases table with
  | cons row table => exact htold
  | nil =>
      cases fresh [] candidates with
      | nil => exact Or.inl rfl
      | cons candidate rest =>
          right
          simp [vectorLength?, Candidate.row, StoredVector.decode, Except.map, hlength, hnonzero]

/-- The rows at the end of a resumed run, beside those at its start and those at the end of a
straight run. -/
structure Completes (vectorOf : Text → Vector64) (start straight final : Table) : Prop where
  same : ∀ fingerprint, fingerprint ∈ final.fingerprints ↔ fingerprint ∈ straight.fingerprints
  once : final.fingerprints.Nodup
  first : start <+: final
  embedded : ∀ row ∈ final, row ∈ start ∨ row.vector = .vector (vectorOf row.content)

/-- Putting in some of the candidates first makes no difference to the fingerprints. -/
theorem completes_grown {table : Table} (hdistinct : table.fingerprints.Nodup)
    {part candidates : List Candidate} (hpart : part ⊆ candidates) :
    Completes vectorOf table (table.grown vectorOf candidates)
      ((table.grown vectorOf part).grown vectorOf candidates) where
  same fingerprint := by
    rw [mem_fingerprints_grown, mem_fingerprints_grown, mem_fingerprints_grown, or_assoc]
    refine or_congr_right ⟨?_, Or.inr⟩
    rintro (hsome | hall)
    · exact (List.map_subset Candidate.fingerprint hpart) hsome
    · exact hall
  once := nodup_fingerprints_grown _ (nodup_fingerprints_grown _ hdistinct)
  first := (List.prefix_append _ _).trans (List.prefix_append _ _)
  embedded row hrow := by
    rcases mem_grown hrow with hold | hnew
    · exact mem_grown hold
    · exact Or.inr hnew

end Table

namespace Store

variable {vectorOf : Text → Vector64} {length : Nat} {start interrupted resumed : Store}

/-- What a later run may start from when an earlier one has ended: the same view, or a new
view of the same rows, where it was no matter at the start whether the view was new. -/
def Continues (length : Nat) (start interrupted resumed : Store) : Prop :=
  resumed = interrupted ∨
    resumed = interrupted.reopen ∧ (start.Admits length ↔ start.reopen.Admits length)

theorem continues_self (length : Nat) (start interrupted : Store) :
    Continues length start interrupted interrupted := Or.inl rfl

theorem continues_reopen (interrupted : Store)
    (hsame : start.Admits length ↔ start.reopen.Admits length) :
    Continues length start interrupted interrupted.reopen := Or.inr ⟨rfl, hsame⟩

theorem Continues.table (hcontinues : Continues length start interrupted resumed) :
    resumed.table = interrupted.table := by
  rcases hcontinues with rfl | ⟨rfl, -⟩ <;> rfl

theorem Continues.isBroken (hcontinues : Continues length start interrupted resumed) :
    resumed.isBroken = interrupted.isBroken := by
  rcases hcontinues with rfl | ⟨rfl, -⟩ <;> rfl

theorem Continues.settled (hcontinues : Continues length start interrupted resumed)
    (hsettled : interrupted.Settled) : resumed.Settled := by
  rcases hcontinues with rfl | ⟨rfl, -⟩
  · exact hsettled
  · exact ⟨hsettled.unbroken, hsettled.committed⟩

/-- A new view knows what the rows tell. -/
theorem knownLength_reopen (store : Store) :
    store.reopen.knownLength = store.rows >>= Table.vectorLength? := rfl

theorem Alike.reopen {first second : Store} (halike : first.Alike second) :
    first.reopen.Alike second.reopen := by
  refine ⟨halike.table, halike.saved, halike.isBroken, halike.dialect, ?_⟩
  rw [knownLength_reopen, knownLength_reopen, rows, rows, halike.isBroken, halike.table]

/-- Where insertions were admitted at the start, they still are. -/
theorem Continues.admits (hlength : ∀ text, (vectorOf text).length = length)
    (hcontinues : Continues length start interrupted resumed)
    (hunbroken : start.isBroken = false) (hadmits : start.Admits length)
    {part : List Candidate} (hadvanced : start.Advanced vectorOf length part interrupted) :
    resumed.Admits length := by
  rcases hcontinues with rfl | ⟨rfl, hsame⟩
  · exact hadvanced.admits
  · refine ⟨hadvanced.admits.supported, hadmits.nonzero, ?_⟩
    have hfits := (hsame.mp hadmits).fits
    rw [Fits, knownLength_reopen, rows_of_unbroken hunbroken] at hfits
    rw [Fits, knownLength_reopen, rows_of_unbroken (hadvanced.isBroken.trans hunbroken),
      hadvanced.table]
    exact Table.vectorLength?_grown hlength hadmits.nonzero hfits part

/-- Where insertions were not admitted at the start, they still are not. -/
theorem Continues.not_admits (hcontinues : Continues length start interrupted resumed)
    (hrefuses : ¬ start.Admits length) (halike : interrupted.Alike start) :
    ¬ resumed.Admits length := by
  intro hadmits
  rcases hcontinues with rfl | ⟨rfl, hsame⟩
  · exact hrefuses (hadmits.alike halike.symm)
  · exact hrefuses (hsame.mpr (hadmits.alike halike.symm.reopen))

end Store

namespace SourceFile

/-- A file as a run may find it: as it is, or unreadable. -/
def Damaged (found file : SourceFile) : Prop :=
  found.place = file.place ∧
    (found.content = file.content ∨ ∃ failure, Ingester.textOf found.content = .error failure)

theorem Damaged.candidates_subset {found file : SourceFile} (root : Text)
    (hdamaged : found.Damaged file) : found.candidates root ⊆ file.candidates root := by
  obtain ⟨hplace, hcontent | ⟨failure, hfailed⟩⟩ := hdamaged
  · unfold candidates
    rw [hplace, hcontent]
    exact List.Subset.refl _
  · have hnone : found.candidates root = [] := by
      unfold candidates
      rw [hfailed]
    rw [hnone]
    exact List.nil_subset _

/-- Damaged files have no other candidates than the files as they are. -/
theorem flatMap_candidates_subset {found files : List SourceFile} (root : Text)
    (hdamaged : List.Forall₂ Damaged found files) :
    found.flatMap (candidates root) ⊆ files.flatMap (candidates root) := by
  induction hdamaged with
  | nil => exact List.Subset.refl _
  | cons hfile _ ih =>
      rw [List.flatMap_cons, List.flatMap_cons, List.append_subset]
      exact ⟨List.Subset.trans (hfile.candidates_subset root) (List.subset_append_left _ _),
        List.Subset.trans ih (List.subset_append_right _ _)⟩

end SourceFile

namespace Ingester

variable {vectorOf : Text → Vector64} {length : Nat} {faltering steady : Ingester}

/-- A document that is resumed ends with the rows of the straight run. -/
theorem ingestText_resumed (hlength : ∀ text, (vectorOf text).length = length)
    (hfaltering : faltering.Faltering vectorOf) (hsteady : steady.Steady vectorOf)
    (hpause : ∃ pause, seconds steady.milliseconds = .ok pause) (path text : Text)
    {start resumed : Ingestion}
    (hcontinues : Store.Continues length start.store
      (faltering.ingestText path text start).1.store resumed.store) :
    (steady.ingestText path text resumed).1.store.table =
      (steady.ingestText path text start).1.store.table := by
  by_cases hrefuses : start.store.Refuses path length
  · have halike := ingestText_of_refused hlength hfaltering hrefuses text
    have hresumed : resumed.store.Refuses path length := by
      rcases hrefuses with hpath | hbroken | hnone
      · exact Or.inl hpath
      · exact Or.inr (Or.inl ((hcontinues.isBroken.trans halike.isBroken).trans hbroken))
      · exact Or.inr (Or.inr (hcontinues.not_admits hnone halike))
    have hfinal := ingestText_of_refused hlength hsteady.faltering hresumed text
    have hstraight := ingestText_of_refused hlength hsteady.faltering hrefuses text
    rw [hfinal.table, hstraight.table, hcontinues.table, halike.table]
  · obtain ⟨hpath, hunbroken, hadmits⟩ := Store.not_refuses_iff.mp hrefuses
    obtain ⟨part, hpart, hadvanced, -⟩ := ingestText_advanced hlength hfaltering hrefuses text
    have hresumed : ¬ resumed.store.Refuses path length :=
      Store.not_refuses_iff.mpr ⟨hpath,
        hcontinues.isBroken.trans (hadvanced.isBroken.trans hunbroken),
        hcontinues.admits hlength hunbroken hadmits hadvanced⟩
    obtain ⟨all, -, hfinal, hall⟩ :=
      ingestText_advanced hlength hsteady.faltering hresumed text
    obtain ⟨whole, -, hstraight, hwhole⟩ :=
      ingestText_advanced hlength hsteady.faltering hrefuses text
    rw [hfinal.table, hstraight.table, (hall hsteady hpause).1, (hwhole hsteady hpause).1,
      hcontinues.table, hadvanced.table, Table.grown_of_prefix hpart]

/-- A directory that is resumed ends with the candidates of the straight run, some of which
were put in before. -/
theorem ingestDirectory_resumed (hlength : ∀ text, (vectorOf text).length = length)
    (hfaltering : faltering.Faltering vectorOf) (hsteady : steady.Steady vectorOf)
    (hpause : ∃ pause, seconds steady.milliseconds = .ok pause) (root : Text)
    {entries damaged : List Entry}
    (hdamaged : List.Forall₂ SourceFile.Damaged (Entry.listing damaged) (Entry.listing entries))
    {start resumed : Ingestion} (hsettled : start.store.Settled)
    (hcontinues : Store.Continues length start.store
      (faltering.ingestDirectory root damaged start).1.store resumed.store) :
    ∃ part whole, part ⊆ whole ∧
      (steady.ingestDirectory root entries start).1.store.table =
        start.store.table.grown vectorOf whole ∧
      (steady.ingestDirectory root entries resumed).1.store.table =
        (start.store.table.grown vectorOf part).grown vectorOf whole := by
  unfold ingestDirectory at hcontinues ⊢
  by_cases hadmits : start.store.Admits length
  · obtain ⟨part, hpart, hadvanced, -⟩ := ingestFiles_advanced root hlength hfaltering
      hsettled hadmits {} fun _ => Entry.place_ne_nil_of_mem_listing
    have hresumed := hcontinues.settled (hsettled.advanced hadvanced)
    obtain ⟨all, -, hfinal, hall⟩ := ingestFiles_advanced root hlength
      hsteady.faltering hresumed
      (hcontinues.admits hlength hsettled.unbroken hadmits hadvanced) {}
      fun _ => Entry.place_ne_nil_of_mem_listing
    obtain ⟨whole, -, hstraight, hwhole⟩ := ingestFiles_advanced root hlength
      hsteady.faltering hsettled hadmits {} fun _ => Entry.place_ne_nil_of_mem_listing
    refine ⟨part, whole, ?_, hstraight.table, ?_⟩
    · rw [hwhole hsteady hpause]
      exact List.Subset.trans hpart (SourceFile.flatMap_candidates_subset root hdamaged)
    · rw [hfinal.table, hcontinues.table, hadvanced.table, hall hsteady hpause,
        hwhole hsteady hpause]
  · have halike := ingestFiles_of_refused root hlength hfaltering hsettled hadmits {}
      (Entry.listing damaged)
    have hresumed := hcontinues.settled (hsettled.alike halike)
    have hfinal := ingestFiles_of_refused root hlength hsteady.faltering hresumed
      (hcontinues.not_admits hadmits halike) {} (Entry.listing entries)
    have hstraight := ingestFiles_of_refused root hlength hsteady.faltering hsettled
      hadmits {} (Entry.listing entries)
    refine ⟨[], [], List.Subset.refl _, ?_, ?_⟩
    · rw [hstraight.table, Table.grown_nil]
    · rw [hfinal.table, hcontinues.table, halike.table, Table.grown_nil, Table.grown_nil]

/-- A faltering run over files leaves a settled store settled. -/
theorem ingestDirectory_settled (hlength : ∀ text, (vectorOf text).length = length)
    (hfaltering : faltering.Faltering vectorOf) (root : Text) (entries : List Entry)
    {start : Ingestion} (hsettled : start.store.Settled) :
    (faltering.ingestDirectory root entries start).1.store.Settled := by
  unfold ingestDirectory
  by_cases hadmits : start.store.Admits length
  · obtain ⟨part, -, hadvanced, -⟩ := ingestFiles_advanced root hlength hfaltering
      hsettled hadmits {} fun _ => Entry.place_ne_nil_of_mem_listing
    exact hsettled.advanced hadvanced
  · exact hsettled.alike (ingestFiles_of_refused root hlength hfaltering hsettled hadmits {} _)

/-- A faltering ingestion of a directory keeps what is committed at any moment. When everything
was committed at its start, everything is at its end, and a steady ingestion of the directory
afterwards completes it: the fingerprints are those of a straight run. A steady ingestion of a
single document ends with the very rows of a straight run. -/
theorem ingestion_resumes (vectorOf : Text → Vector64) (length : Nat)
    (faltering steady : Ingester) (root : Text) (start : Ingestion)
    (hlength : ∀ text, (vectorOf text).length = length)
    (hfaltering : faltering.Faltering vectorOf) (hsteady : steady.Steady vectorOf)
    (hpause : ∃ pause, seconds steady.milliseconds = .ok pause) :
    (∀ entries damaged,
      List.Forall₂ SourceFile.Damaged (Entry.listing damaged) (Entry.listing entries) →
      let interrupted := (faltering.ingestDirectory root damaged start).1.store
      let straight := (steady.ingestDirectory root entries start).1.store
      (start.store.saved <+: start.store.table → start.store.Keeps interrupted ∧
        ∀ moment, faltering.Passes root start (Entry.listing damaged) moment →
          moment.store.Keeps interrupted) ∧
      (start.store.Settled → start.store.table.fingerprints.Nodup → interrupted.Settled ∧
        ∀ resumed, Store.Continues length start.store interrupted resumed.store →
          Table.Completes vectorOf start.store.table straight.table
            (steady.ingestDirectory root entries resumed).1.store.table)) ∧
    ∀ path text resumed,
      Store.Continues length start.store
        (faltering.ingestText path text start).1.store resumed.store →
      (steady.ingestText path text resumed).1.store.table =
        (steady.ingestText path text start).1.store.table := by
  refine ⟨fun entries damaged hdamaged => ⟨fun hfirst => ⟨?_, ?_⟩, ?_⟩, ?_⟩
  · exact ingestFiles_keeps root hlength hfaltering {} hfirst _
  · intro moment hpasses
    exact ingestFiles_keeps_of_passes hlength hfaltering hfirst hpasses
  · intro hsettled hdistinct
    refine ⟨ingestDirectory_settled hlength hfaltering root damaged hsettled, ?_⟩
    intro resumed hcontinues
    obtain ⟨part, whole, hpart, hstraight, hfinal⟩ :=
      ingestDirectory_resumed hlength hfaltering hsteady hpause root hdamaged hsettled hcontinues
    rw [hstraight, hfinal]
    exact Table.completes_grown hdistinct hpart
  · intro path text resumed hcontinues
    exact ingestText_resumed hlength hfaltering hsteady hpause path text hcontinues

/-- The questions for texts that start with a heading fail. -/
def failsAtHeadings : Ingester where
  embed _ text :=
    if text.head? = some '#' then ⟨.failed .embeddingUnauthorized, [.embedded text]⟩
    else ⟨.done [.one], [.embedded text]⟩

theorem failsAtHeadings_faltering : failsAtHeadings.Faltering fun _ => [.one] where
  looksUp := rfl
  honest events text vector hanswer := by
    dsimp only [failsAtHeadings] at hanswer
    split at hanswer
    · cases hanswer
    · exact (Outcome.done.inj hanswer).symm

/-- Three files of which the first starts with a heading, but for the content of the second. -/
def threeFiles (second : Bytes) : List Entry :=
  [.file "a.md" (Text.utf8 "# A"), .file "b.md" second, .file "c.md" (Text.utf8 "C")]

theorem listing_threeFiles (second : Bytes) :
    Entry.listing (threeFiles second) =
      [⟨["a.md"], Text.utf8 "# A"⟩, ⟨["b.md"], second⟩, ⟨["c.md"], Text.utf8 "C"⟩] := by
  let group (name : Text) (content : Bytes) := (name, [SourceFile.mk [name] content])
  have hgroups : Entry.groups (threeFiles second) =
      [group "a.md" (Text.utf8 "# A"), group "b.md" second, group "c.md" (Text.utf8 "C")] := rfl
  rw [Entry.listing, hgroups, List.mergeSort_of_pairwise]
  · rfl
  · have hnames : (["a.md", "b.md", "c.md"] : List Text).Pairwise (Text.atMost · ·) := by decide
    exact List.Pairwise.of_map Prod.fst (fun _ _ h => h) hnames

/-- Where the first of three files fails and the second one is unreadable, the third one is
committed, and a new view completes the rows. -/
theorem ingestion_resumes_of_threeFiles :
    let steady := answering (fun _ => [.one]) (some (.integer 0))
    let start : Ingestion := { store := {} }
    let found := threeFiles [0xFF]
    let files := threeFiles (Text.utf8 "B")
    let text : Text := "One\n\n# Title\n\nTwo"
    (failsAtHeadings.ingestDirectory "/docs" found start).1.store.table.map Row.sourcePath =
      ["/docs/c.md"] ∧
    start.store.Keeps (failsAtHeadings.ingestDirectory "/docs" found start).1.store ∧
    Table.Completes (fun _ => [.one]) [] (steady.ingestDirectory "/docs" files start).1.store.table
      (steady.ingestDirectory "/docs" files
        { store := (failsAtHeadings.ingestDirectory "/docs" found
            start).1.store.reopen }).1.store.table ∧
    (steady.ingestText "a.md" text
        (failsAtHeadings.ingestText "a.md" text start).1).1.store.table =
      (steady.ingestText "a.md" text start).1.store.table := by
  intro steady start found files text
  have hresumes := ingestion_resumes (fun _ => [.one]) 1 failsAtHeadings steady "/docs" start
    (fun _ => rfl) failsAtHeadings_faltering (answering_steady _ _)
    ⟨.zero, by decide +kernel⟩
  have hdamaged : List.Forall₂ SourceFile.Damaged (Entry.listing found)
      (Entry.listing files) := by
    rw [listing_threeFiles, listing_threeFiles]
    refine .cons ?_ (.cons ?_ (.cons ?_ .nil))
    · exact ⟨rfl, Or.inl rfl⟩
    · exact ⟨rfl, Or.inr ⟨_, rfl⟩⟩
    · exact ⟨rfl, Or.inl rfl⟩
  obtain ⟨hkeeps, hcompletes⟩ := hresumes.1 _ _ hdamaged
  refine ⟨?_, (hkeeps (List.prefix_refl _)).1, ?_, ?_⟩
  · rw [ingestDirectory, listing_threeFiles]
    decide +kernel
  · apply (hcompletes ⟨rfl, rfl⟩ List.nodup_nil).2
    exact Store.continues_reopen _ Iff.rfl
  · apply hresumes.2
    exact Store.continues_self _ _ _

/-- A passage that a caller inserts without committing it. -/
def pendingPassage : Passage where
  sourcePath := "a.md"
  content := "Text"
  embedding := [.one]
  fingerprint := "mark"

/-- What is not committed at the start is lost with the first file that fails. And where the
transaction is broken at the start, the first run is the straight one, which misses its first
file, and the run after it does not. -/
theorem ingestDirectory_from_unsettled :
    let steady := answering (fun _ => [.one]) (some (.integer 0))
    let pending : Ingestion := { store := (({} : Store).upsert pendingPassage).1 }
    let broken : Ingestion := { store := { isBroken := true } }
    let once := (steady.ingestDirectory "/docs" [.file "a.md" [0x61]] broken).1
    let twice := (steady.ingestDirectory "/docs" [.file "a.md" [0x61]] once).1
    (pending.store.table = [Row.ofPassage pendingPassage] ∧
      (steady.ingestDirectory "/docs" [.file "a.md" [0xFF]] pending).1.store.table = []) ∧
    (once.store.table.length = 0 ∧ twice.store.table.length = 1) := by
  decide +kernel

end Ingester

end ScriptDocs
