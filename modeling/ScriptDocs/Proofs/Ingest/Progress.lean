/-
# How far a faltering ingestion gets

A run over documents or files may stop anywhere. Where insertions are refused, it
changes nothing that is known; where they are admitted, it has put in some of the
candidates, which those are that come before the place where it stopped, file by file,
and a steady run has put in all of them.
-/

import ScriptDocs.Proofs.Ingest.Step

namespace ScriptDocs

namespace Store

/-- No insertion for a document succeeds: it has no path, or the transaction is broken, or
its vectors are not admitted. -/
def Refuses (store : Store) (path : Text) (length : Nat) : Prop :=
  path = [] ∨ store.isBroken = true ∨ ¬ store.Admits length

theorem Refuses.alike {first second : Store} {path : Text} {length : Nat}
    (hrefuses : first.Refuses path length) (halike : second.Alike first) :
    second.Refuses path length := by
  rcases hrefuses with hpath | hbroken | hnone
  · exact Or.inl hpath
  · exact Or.inr (Or.inl (halike.isBroken.trans hbroken))
  · exact Or.inr (Or.inr fun hadmits => hnone (hadmits.alike halike.symm))

theorem not_refuses_iff {store : Store} {path : Text} {length : Nat} :
    ¬ store.Refuses path length ↔
      path ≠ [] ∧ store.isBroken = false ∧ store.Admits length := by
  unfold Refuses
  rw [not_or, not_or, not_not, Bool.not_eq_true]

/-- What an admitting view becomes when some candidates are put in, each committed at once. -/
structure Advanced (vectorOf : Text → Vector64) (length : Nat) (part : List Candidate)
    (before after : Store) : Prop where
  table : after.table = before.table.grown vectorOf part
  saved : after.saved = after.table ∨ after.table = before.table ∧ after.saved = before.saved
  isBroken : after.isBroken = before.isBroken
  admits : after.Admits length

namespace Advanced

variable {vectorOf : Text → Vector64} {length : Nat} {before middle after : Store}

theorem of_alike (hadmits : before.Admits length) (halike : after.Alike before) :
    Advanced vectorOf length [] before after where
  table := by rw [Table.grown_nil, halike.table]
  saved := Or.inr ⟨halike.table, halike.saved⟩
  isBroken := halike.isBroken
  admits := hadmits.alike halike

theorem refl (hadmits : before.Admits length) : Advanced vectorOf length [] before before :=
  of_alike hadmits (Alike.refl before)

theorem of_held (hadmits : before.Admits length) {candidate : Candidate}
    (hheld : candidate.fingerprint ∈ before.table.fingerprints) :
    Advanced vectorOf length [candidate] before before where
  table := by rw [Table.grown_cons_of_held [] hheld, Table.grown_nil]
  saved := Or.inr ⟨rfl, rfl⟩
  isBroken := rfl
  admits := hadmits

theorem of_new (hadmits : before.Admits length) {candidate : Candidate}
    (hnew : candidate.fingerprint ∉ before.table.fingerprints) :
    Advanced vectorOf length [candidate] before
      (before.extended (candidate.row vectorOf) length) where
  table := by
    rw [Table.grown_cons_of_new [] hnew, Table.grown_nil]
    rfl
  saved := Or.inl rfl
  isBroken := rfl
  admits := hadmits.extended _

theorem trans {first second : List Candidate}
    (hfirst : Advanced vectorOf length first before middle)
    (hsecond : Advanced vectorOf length second middle after) :
    Advanced vectorOf length (first ++ second) before after where
  table := by rw [hsecond.table, hfirst.table, Table.grown_append]
  saved := by
    rcases hsecond.saved with hsaved | ⟨htable, hsaved⟩
    · exact Or.inl hsaved
    · rw [htable, hsaved]
      exact hfirst.saved
  isBroken := hsecond.isBroken.trans hfirst.isBroken
  admits := hsecond.admits

theorem not_refuses {part : List Candidate} {path : Text}
    (hadvanced : Advanced vectorOf length part before after)
    (hadmits : ¬ before.Refuses path length) : ¬ after.Refuses path length := by
  obtain ⟨hpath, hunbroken, -⟩ := not_refuses_iff.mp hadmits
  exact not_refuses_iff.mpr
    ⟨hpath, hadvanced.isBroken.trans hunbroken, hadvanced.admits⟩

end Advanced

theorem Settled.advanced {vectorOf : Text → Vector64} {length : Nat} {part : List Candidate}
    {before after : Store} (hsettled : before.Settled)
    (hadvanced : Advanced vectorOf length part before after) : after.Settled where
  unbroken := hadvanced.isBroken.trans hsettled.unbroken
  committed := by
    rcases hadvanced.saved with hsaved | ⟨htable, hsaved⟩
    · exact hsaved
    · rw [htable, hsaved, hsettled.committed]

end Store

namespace Ingester

variable {ingester : Ingester} {vectorOf : Text → Vector64} {length : Nat}

section Pieces

variable {pause : Binary64} {path : Text}

/-- A run goes on behind a piece that is done. -/
theorem ingestPieces_cons_of_done {run middle : Ingestion} {piece : Piece} {inserted : Bool}
    (hdone : ingester.ingestPiece pause path run piece = (middle, .done inserted))
    (report : Report) (pieces : List Piece) :
    ingester.ingestPieces pause path report run (piece :: pieces) =
      ingester.ingestPieces pause path (report.count inserted) middle pieces := by
  rw [ingestPieces, hdone]

/-- A run ends at a piece that is not done. -/
theorem ingestPieces_cons_of_stopped {run : Ingestion} {piece : Piece}
    (hstopped : ∀ inserted, (ingester.ingestPiece pause path run piece).2 ≠ .done inserted)
    (report : Report) (pieces : List Piece) :
    (ingester.ingestPieces pause path report run (piece :: pieces)).1 =
      (ingester.ingestPiece pause path run piece).1 := by
  rw [ingestPieces]
  rcases hpiece : ingester.ingestPiece pause path run piece with ⟨middle, inserted | _ | _⟩
  · exact absurd (by rw [hpiece]) (hstopped inserted)
  · rfl
  · rfl

/-- A run over two lists of pieces stops in the first one or goes on with the second one. -/
theorem ingestPieces_append (report : Report) (run : Ingestion) (first second : List Piece) :
    ingester.ingestPieces pause path report run (first ++ second) =
      match ingester.ingestPieces pause path report run first with
      | (middle, .done counted) => ingester.ingestPieces pause path counted middle second
      | stopped => stopped := by
  induction first generalizing report run with
  | nil => rfl
  | cons piece pieces ih =>
      rw [List.cons_append]
      simp only [ingestPieces]
      rcases ingester.ingestPiece pause path run piece with ⟨middle, inserted | _ | _⟩
      · exact ih (report.count inserted) middle
      · rfl
      · rfl

/-- A piece whose insertion is refused changes nothing that is known. -/
theorem ingestPiece_of_refused (hlength : ∀ text, (vectorOf text).length = length)
    (hfaltering : ingester.Faltering vectorOf) {run : Ingestion}
    (hrefuses : run.store.Refuses path length) (pause : Binary64) (piece : Piece) :
    (ingester.ingestPiece pause path run piece).1.store.Alike run.store := by
  by_cases hbroken : run.store.isBroken = true
  · rw [ingestPiece_of_broken hfaltering.looksUp hbroken]
    exact Store.Alike.refl run.store
  rw [Bool.not_eq_true] at hbroken
  rcases ingestPiece_cases hfaltering hbroken pause path piece with
    ⟨-, hheld⟩ | ⟨-, halike, -⟩ | ⟨-, hpath, hadmits, -, -⟩
  · rw [hheld]
    exact Store.Alike.refl run.store
  · exact halike
  · rw [hlength] at hadmits
    rcases hrefuses with h | h | h
    · exact absurd h hpath
    · simp [hbroken] at h
    · exact absurd hadmits h

/-- Pieces whose insertions are refused change nothing that is known. -/
theorem ingestPieces_of_refused (hlength : ∀ text, (vectorOf text).length = length)
    (hfaltering : ingester.Faltering vectorOf) {run : Ingestion}
    (hrefuses : run.store.Refuses path length) (report : Report) (pieces : List Piece) :
    (ingester.ingestPieces pause path report run pieces).1.store.Alike run.store := by
  induction pieces generalizing run report with
  | nil => exact Store.Alike.refl run.store
  | cons piece pieces ih =>
      have hfirst := ingestPiece_of_refused hlength hfaltering hrefuses pause piece
      rw [ingestPieces]
      rcases hpiece : ingester.ingestPiece pause path run piece with ⟨middle, inserted | _ | _⟩
      · rw [hpiece] at hfirst
        exact (ih (hrefuses.alike hfirst) (report.count inserted)).trans hfirst
      · rwa [hpiece] at hfirst
      · rwa [hpiece] at hfirst

/-- A piece whose insertion is admitted is put in, or it is not done and nothing changes; a
steady run puts it in. -/
theorem ingestPiece_advanced (hlength : ∀ text, (vectorOf text).length = length)
    (hfaltering : ingester.Faltering vectorOf) {run : Ingestion}
    (hadmits : ¬ run.store.Refuses path length) (pause : Binary64) (piece : Piece) :
    let result := ingester.ingestPiece pause path run piece
    (∃ inserted, result.2 = .done inserted ∧
      run.store.Advanced vectorOf length [⟨path, piece⟩] result.1.store) ∨
    ((∀ inserted, result.2 ≠ .done inserted) ∧ result.1.store.Alike run.store ∧
      ¬ ingester.Steady vectorOf) := by
  intro result
  obtain ⟨hpath, hunbroken, hopen⟩ := Store.not_refuses_iff.mp hadmits
  rcases ingestPiece_cases hfaltering hunbroken pause path piece with
    ⟨hheld, hresult⟩ | ⟨hstopped, halike, hreason⟩ | ⟨hnew, -, -, hdone, hstore⟩
  · left
    refine ⟨false, congrArg Prod.snd hresult, ?_⟩
    rw [show result = (run, .done false) from hresult]
    exact Store.Advanced.of_held hopen hheld
  · right
    refine ⟨hstopped, halike, ?_⟩
    rw [hlength] at hreason
    exact (hreason.resolve_left hpath).resolve_left (not_not_intro hopen)
  · left
    refine ⟨true, hdone, ?_⟩
    rw [show result.1.store = _ from hstore, hlength]
    exact Store.Advanced.of_new hopen hnew

/-- Pieces whose insertions are admitted are put in up to the place where the run stops; a
steady run does not stop. -/
theorem ingestPieces_advanced (pause : Binary64)
    (hlength : ∀ text, (vectorOf text).length = length)
    (hfaltering : ingester.Faltering vectorOf) {run : Ingestion}
    (hadmits : ¬ run.store.Refuses path length) (report : Report) (pieces : List Piece) :
    let result := ingester.ingestPieces pause path report run pieces
    ∃ part, part <+: pieces.map (Candidate.mk path) ∧
      run.store.Advanced vectorOf length part result.1.store ∧
      (ingester.Steady vectorOf → part = pieces.map (Candidate.mk path) ∧
        ∃ counted, result.2 = .done counted) := by
  induction pieces generalizing run report with
  | nil =>
      obtain ⟨-, -, hopen⟩ := Store.not_refuses_iff.mp hadmits
      exact ⟨[], List.prefix_refl _, Store.Advanced.refl hopen, fun _ => ⟨rfl, report, rfl⟩⟩
  | cons piece pieces ih =>
      intro result
      rcases ingestPiece_advanced hlength hfaltering hadmits pause piece with
        ⟨inserted, hdone, hstep⟩ | ⟨hstopped, halike, hunsteady⟩
      · obtain ⟨part, hpart, hrest, hsteady⟩ :=
          ih (hstep.not_refuses hadmits) (report.count inserted)
        have hresult : result = _ :=
          ingestPieces_cons_of_done (Prod.ext rfl hdone) report pieces
        rw [← hresult] at hrest hsteady
        refine ⟨⟨path, piece⟩ :: part, ?_, hstep.trans hrest, fun h => ?_⟩
        · exact (List.prefix_cons_inj _).mpr hpart
        · obtain ⟨hall, hcounted⟩ := hsteady h
          exact ⟨congrArg _ hall, hcounted⟩
      · refine ⟨[], List.nil_prefix, ?_, fun hsteady => absurd hsteady hunsteady⟩
        obtain ⟨-, -, hopen⟩ := Store.not_refuses_iff.mp hadmits
        rw [show result.1 = _ from ingestPieces_cons_of_stopped hstopped report pieces]
        exact Store.Advanced.of_alike hopen halike

end Pieces

/-- A document whose insertions are refused changes nothing that is known. -/
theorem ingestText_of_refused (hlength : ∀ text, (vectorOf text).length = length)
    (hfaltering : ingester.Faltering vectorOf) {path : Text} {run : Ingestion}
    (hrefuses : run.store.Refuses path length) (text : Text) :
    (ingester.ingestText path text run).1.store.Alike run.store := by
  unfold ingestText
  split
  · exact ingestPieces_of_refused hlength hfaltering hrefuses _ _
  · exact Store.Alike.refl run.store

/-- A document whose insertions are admitted is put in up to the place where the run stops. -/
theorem ingestText_advanced (hlength : ∀ text, (vectorOf text).length = length)
    (hfaltering : ingester.Faltering vectorOf) {path : Text} {run : Ingestion}
    (hadmits : ¬ run.store.Refuses path length) (text : Text) :
    let result := ingester.ingestText path text run
    ∃ part, part <+: candidatesOf path text ∧
      run.store.Advanced vectorOf length part result.1.store ∧
      (ingester.Steady vectorOf → (∃ pause, seconds ingester.milliseconds = .ok pause) →
        part = candidatesOf path text ∧ ∃ counted, result.2 = .done counted) := by
  cases hpause : seconds ingester.milliseconds with
  | error failure =>
      obtain ⟨-, -, hopen⟩ := Store.not_refuses_iff.mp hadmits
      refine ⟨[], List.nil_prefix, ?_, fun _ hpauses => ?_⟩
      · rw [ingestText, hpause]
        exact Store.Advanced.refl hopen
      · obtain ⟨pause, hnone⟩ := hpauses
        cases hnone
  | ok pause =>
      obtain ⟨part, hpart, hadvanced, hsteady⟩ :=
        ingestPieces_advanced pause hlength hfaltering hadmits { files := 1 } (piecesOf text)
      rw [ingestText, hpause]
      exact ⟨part, hpart, hadvanced, fun h _ => hsteady h⟩

end Ingester

/-- The candidates of a file below a directory; an unreadable one has none. -/
def SourceFile.candidates (root : Text) (file : SourceFile) : List Candidate :=
  match Ingester.textOf file.content with
  | .ok text => candidatesOf (Ingester.pathBelow root file.place) text
  | .error _ => []

namespace Ingester

variable {ingester : Ingester} {vectorOf : Text → Vector64} {length : Nat} {root : Text}

/-- A file below a directory has a path. -/
theorem pathBelow_ne_nil (root : Text) {place : List Text} (hplace : place ≠ []) :
    pathBelow root place ≠ [] := by
  obtain ⟨name, names, rfl⟩ := List.exists_cons_of_ne_nil hplace
  simp [pathBelow, Text.join, List.intercalate]

/-- A file whose insertions are refused changes nothing that is known. -/
theorem ingestFile_of_refused (hlength : ∀ text, (vectorOf text).length = length)
    (hfaltering : ingester.Faltering vectorOf) {path : Text} {run : Ingestion}
    (hrefuses : run.store.Refuses path length) (content : Bytes) :
    (ingester.ingestFile path content run).1.store.Alike run.store := by
  unfold ingestFile
  split
  · exact ingestText_of_refused hlength hfaltering hrefuses _
  · exact Store.Alike.refl run.store

/-- A file whose insertions are admitted is put in up to the place where the run stops; a
steady run puts in all of it, and does not wait. -/
theorem ingestFile_advanced (hlength : ∀ text, (vectorOf text).length = length)
    (hfaltering : ingester.Faltering vectorOf) {file : SourceFile} {run : Ingestion}
    (hadmits : ¬ run.store.Refuses (pathBelow root file.place) length) :
    let result := ingester.ingestFile (pathBelow root file.place) file.content run
    ∃ part, part <+: file.candidates root ∧
      run.store.Advanced vectorOf length part result.1.store ∧
      (ingester.Steady vectorOf → (∃ pause, seconds ingester.milliseconds = .ok pause) →
        part = file.candidates root ∧ ∀ limit, result.2 ≠ .waiting limit) := by
  unfold ingestFile SourceFile.candidates
  cases textOf file.content with
  | error failure =>
      obtain ⟨-, -, hopen⟩ := Store.not_refuses_iff.mp hadmits
      refine ⟨[], List.nil_prefix, Store.Advanced.refl hopen, fun _ _ => ⟨rfl, ?_⟩⟩
      intro limit hnone
      cases hnone
  | ok text =>
      obtain ⟨part, hpart, hadvanced, hsteady⟩ :=
        ingestText_advanced hlength hfaltering hadmits text
      refine ⟨part, hpart, hadvanced, fun h hpause => ?_⟩
      obtain ⟨hall, counted, hdone⟩ := hsteady h hpause
      refine ⟨hall, fun limit hwaiting => ?_⟩
      rw [hdone] at hwaiting
      cases hwaiting

end Ingester

end ScriptDocs
