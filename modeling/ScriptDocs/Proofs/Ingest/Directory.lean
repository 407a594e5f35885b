/-
# Ingesting a directory

A directory is ingested file by file, and behind a file that fails the insertions since
the last commit are taken back. When everything was committed at the start there is
never anything to take back, so that the run puts in some of the candidates of its
files, a steady one all of them. Whatever was committed at any moment stays.
-/

import ScriptDocs.Proofs.Ingest.Progress
import ScriptDocs.Proofs.Ingest.Walk

namespace ScriptDocs

namespace Entry

/-- Every listed file has a name. -/
theorem place_ne_nil_of_mem_listing {entries : List Entry} {file : SourceFile}
    (hfile : file ∈ listing entries) : file.place ≠ [] :=
  (mem_listing_iff_holds.mp hfile).1.ne_nil

end Entry

namespace Ingester

variable {ingester : Ingester} {vectorOf : Text → Vector64} {length : Nat} {root : Text}

/-- Behind a file that is done or has failed, the next file finds a settled store as it was
left; a run that waits stops there. -/
theorem ingestFiles_cons_of_settled (report : Report) {run : Ingestion} {file : SourceFile}
    (files : List SourceFile)
    (hsettled : (ingester.ingestFile (pathBelow root file.place) file.content
      run).1.store.Settled) :
    let result := ingester.ingestFile (pathBelow root file.place) file.content run
    ((∃ limit, result.2 = .waiting limit) ∧
      (ingester.ingestFiles root report run (file :: files)).1 = result.1) ∨
    ∃ report', (ingester.ingestFiles root report run (file :: files)).1 =
      (ingester.ingestFiles root report' result.1 files).1 := by
  rw [ingestFiles]
  dsimp only
  rcases hfile : ingester.ingestFile (pathBelow root file.place) file.content run with
    ⟨middle, counted | failure | limit⟩
  · exact Or.inr ⟨_, rfl⟩
  · refine Or.inr ⟨{ report with failedFiles := report.failedFiles + 1 }, ?_⟩
    rw [hfile] at hsettled
    have hsame : middle.store.rollback = middle.store := hsettled.rollback_eq
    simp only [afterFailure, hsame]
  · exact Or.inl ⟨⟨limit, rfl⟩, rfl⟩

/-- Files whose insertions are refused change nothing that is known. -/
theorem ingestFiles_of_refused (root : Text)
    (hlength : ∀ text, (vectorOf text).length = length)
    (hfaltering : ingester.Faltering vectorOf) {run : Ingestion} (hsettled : run.store.Settled)
    (hrefuses : ¬ run.store.Admits length) (report : Report) (files : List SourceFile) :
    (ingester.ingestFiles root report run files).1.store.Alike run.store := by
  induction files generalizing run report with
  | nil => exact Store.Alike.refl run.store
  | cons file files ih =>
      have hnone : run.store.Refuses (pathBelow root file.place) length :=
        Or.inr (Or.inr hrefuses)
      have hfirst := ingestFile_of_refused hlength hfaltering hnone file.content
      have hmiddle := hsettled.alike hfirst
      rcases ingestFiles_cons_of_settled report files hmiddle with ⟨-, hsame⟩ | ⟨report', hsame⟩
      · rw [hsame]
        exact hfirst
      · rw [hsame]
        have hrest := ih hmiddle (fun h => hrefuses (h.alike hfirst.symm)) report'
        exact hrest.trans hfirst

/-- Files whose insertions are admitted are put in as far as the run gets in each; a steady
run puts in all of them. -/
theorem ingestFiles_advanced (root : Text)
    (hlength : ∀ text, (vectorOf text).length = length)
    (hfaltering : ingester.Faltering vectorOf) {run : Ingestion} (hsettled : run.store.Settled)
    (hadmits : run.store.Admits length) (report : Report) {files : List SourceFile}
    (hplaces : ∀ file ∈ files, file.place ≠ []) :
    ∃ part, part ⊆ files.flatMap (SourceFile.candidates root) ∧
      run.store.Advanced vectorOf length part
        (ingester.ingestFiles root report run files).1.store ∧
      (ingester.Steady vectorOf → (∃ pause, seconds ingester.milliseconds = .ok pause) →
        part = files.flatMap (SourceFile.candidates root)) := by
  induction files generalizing run report with
  | nil => exact ⟨[], List.nil_subset _, Store.Advanced.refl hadmits, fun _ _ => rfl⟩
  | cons file files ih =>
      have hopen : ¬ run.store.Refuses (pathBelow root file.place) length :=
        Store.not_refuses_iff.mpr ⟨pathBelow_ne_nil root (hplaces file List.mem_cons_self),
          hsettled.unbroken, hadmits⟩
      obtain ⟨part, hpart, hfirst, hall⟩ := ingestFile_advanced hlength hfaltering hopen
      have hmiddle := hsettled.advanced hfirst
      rw [List.flatMap_cons]
      rcases ingestFiles_cons_of_settled report files hmiddle with
        ⟨⟨limit, hwaiting⟩, hsame⟩ | ⟨report', hsame⟩
      · rw [hsame]
        refine ⟨part, List.Subset.trans hpart.subset (List.subset_append_left _ _), hfirst, ?_⟩
        intro hsteady hpause
        exact absurd hwaiting ((hall hsteady hpause).2 limit)
      · obtain ⟨rest, hrest, hsecond, hothers⟩ := ih hmiddle hfirst.admits report'
          (fun other h => hplaces other (List.mem_cons_of_mem file h))
        rw [hsame]
        refine ⟨part ++ rest, ?_, hfirst.trans hsecond, fun hsteady hpause => ?_⟩
        · rw [List.append_subset]
          exact ⟨List.Subset.trans hpart.subset (List.subset_append_left _ _),
            List.Subset.trans hrest (List.subset_append_right _ _)⟩
        · rw [(hall hsteady hpause).1, hothers hsteady hpause]

end Ingester

end ScriptDocs
