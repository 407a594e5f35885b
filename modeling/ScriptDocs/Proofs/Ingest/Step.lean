/-
# The ingestion of one piece

One piece of a document is known, refused, or becomes the last row, committed at once.
A refusal leaves all that is known of the table as it was, whether the provider failed,
the document has no path, or the vector is not admitted. An addition is possible
exactly where the view admits vectors of the length that the provider gives, and then it
admits them afterwards.
-/

import ScriptDocs.Proofs.Ingest.Candidate

namespace ScriptDocs

/-- The view with one more row, which is committed. -/
def Store.extended (store : Store) (row : Row) (length : Nat) : Store :=
  { store with
    table := store.table ++ [row]
    saved := store.table ++ [row]
    vectorLength := some length }

theorem Store.Admits.extended {store : Store} {length : Nat} (hadmits : store.Admits length)
    (row : Row) : (store.extended row length).Admits length :=
  ⟨hadmits.supported, hadmits.nonzero, Or.inr rfl⟩

namespace Ingester

/-- Every question is answered with the vector of its text, and leaves one event. -/
def answering (vectorOf : Text → Vector64) (milliseconds : Option Number) : Ingester where
  embed _ text := ⟨.done (vectorOf text), [.embedded text]⟩
  milliseconds := milliseconds

/-- Fingerprints are looked up, and no answer is another vector than that of the text. A
question may also fail or wait, depending on all that has been asked before. -/
structure Faltering (ingester : Ingester) (vectorOf : Text → Vector64) : Prop where
  looksUp : ingester.looksUp = true
  honest : ∀ events text vector,
    (ingester.embed events text).outcome = .done vector → vector = vectorOf text

/-- Fingerprints are looked up, and every question is answered with the vector of its text. -/
structure Steady (ingester : Ingester) (vectorOf : Text → Vector64) : Prop where
  looksUp : ingester.looksUp = true
  answers : ∀ events text, (ingester.embed events text).outcome = .done (vectorOf text)

theorem Steady.faltering {ingester : Ingester} {vectorOf : Text → Vector64}
    (hsteady : ingester.Steady vectorOf) : ingester.Faltering vectorOf where
  looksUp := hsteady.looksUp
  honest events text vector hanswer := by
    rw [hsteady.answers events text] at hanswer
    exact (Outcome.done.inj hanswer).symm

theorem answering_steady (vectorOf : Text → Vector64) (milliseconds : Option Number) :
    (answering vectorOf milliseconds).Steady vectorOf :=
  ⟨rfl, fun _ _ => rfl⟩

variable {ingester : Ingester} {vectorOf : Text → Vector64} {pause : Binary64} {path : Text}
  {run : Ingestion} {piece : Piece}

/-- The fingerprint is looked up among those of the rows. -/
theorem knows_eq (hlooks : ingester.looksUp = true) (hunbroken : run.store.isBroken = false) :
    ingester.knows run piece =
      .ok (decide (piece.chunk.fingerprint ∈ run.store.table.fingerprints)) := by
  simp [knows, hlooks, Store.holds, Store.rows_of_unbroken hunbroken, Except.map, Table.holds_eq]

/-- The passage of a piece is the row of its candidate. -/
theorem exists_passageOf (hpath : path ≠ []) (piece : Piece) (vector : Vector64) :
    ∃ passage, passageOf path piece vector = .ok passage ∧ passage.embedding = vector ∧
      passage.fingerprint = piece.chunk.fingerprint ∧
      Row.ofPassage passage = Candidate.row (fun _ => vector) ⟨path, piece⟩ := by
  refine ⟨_, by rw [passageOf, if_neg (by simpa using hpath)], rfl, rfl, ?_⟩
  by_cases htitle : piece.title = [] <;>
    simp [Row.ofPassage, Candidate.row, Candidate.content, Candidate.fingerprint, htitle]

/-- An admitted vector makes a new piece the last row, committed at once. -/
theorem keep_of_admits (pause : Binary64) (run : Ingestion) (piece : Piece) (vector : Vector64)
    (hunbroken : run.store.isBroken = false) (hpath : path ≠ [])
    (hadmits : run.store.Admits vector.length)
    (hnew : piece.chunk.fingerprint ∉ run.store.table.fingerprints) :
    ∃ pauses, keep pause path run piece vector =
      ({ run with
          store := run.store.extended (Candidate.row (fun _ => vector) ⟨path, piece⟩) vector.length
          pauses }, .ok true) := by
  obtain ⟨passage, hpassage, rfl, hmark, hrow⟩ := exists_passageOf hpath piece vector
  have hnonempty : passage.embedding ≠ [] := fun h => hadmits.nonzero (by rw [h]; rfl)
  have hupsert := Store.upsert_of_new ⟨hunbroken, hadmits.supported⟩ hnonempty hadmits.fits
    (hmark ▸ hnew)
  refine ⟨run.pauses ++ if Binary64.below .zero pause then [pause] else [], ?_⟩
  simp [keep, hpassage, hupsert, Store.commit, Store.rows, hunbroken, hrow, Store.extended]

/-- A vector that is not admitted, or a document without a path, is refused, and nothing is
known that was not known before. -/
theorem keep_of_not_admits (pause : Binary64) (run : Ingestion) (piece : Piece)
    (vector : Vector64) (hrefused : path = [] ∨ ¬ run.store.Admits vector.length) :
    (∃ failure, (keep pause path run piece vector).2 = .error failure) ∧
      (keep pause path run piece vector).1.store.Alike run.store := by
  by_cases hpath : path = []
  · have hnone : passageOf path piece vector =
        .error (.fieldsInvalid [⟨[.name "source_path"], .textTooShort⟩]) := by
      simp [passageOf, hpath]
    simp [keep, hnone, Store.Alike.refl]
  · obtain ⟨passage, hpassage, rfl, hmark, -⟩ := exists_passageOf hpath piece vector
    obtain ⟨failure, hfailed⟩ := Store.upsert_of_not_admits (hrefused.resolve_left hpath)
    have halike : (run.store.upsert passage).1.Alike run.store :=
      Store.upsert_alike (by simp [hfailed])
    have hsplit : run.store.upsert passage =
        ((run.store.upsert passage).1, .error failure) := by rw [← hfailed]
    rw [keep, hpassage]
    dsimp only
    rw [hsplit]
    exact ⟨⟨failure, rfl⟩, halike⟩

/-- A stored piece is passed over without a question. -/
theorem ingestPiece_of_held (hlooks : ingester.looksUp = true)
    (hunbroken : run.store.isBroken = false)
    (hheld : piece.chunk.fingerprint ∈ run.store.table.fingerprints) :
    ingester.ingestPiece pause path run piece = (run, .done false) := by
  simp [ingestPiece, knows_eq hlooks hunbroken, hheld]

/-- A broken transaction fails before any question. -/
theorem ingestPiece_of_broken (hlooks : ingester.looksUp = true)
    (hbroken : run.store.isBroken = true) :
    ingester.ingestPiece pause path run piece = (run, .failed .transactionBroken) := by
  simp [ingestPiece, knows, hlooks, Store.holds, Store.rows, hbroken, Except.map]

/-- A new piece without an answer is not done, and the store is not touched. -/
theorem ingestPiece_of_unanswered (hlooks : ingester.looksUp = true)
    (hunbroken : run.store.isBroken = false)
    (hnew : piece.chunk.fingerprint ∉ run.store.table.fingerprints)
    (hunanswered : ∀ vector,
      (ingester.embed run.events piece.chunk.content).outcome ≠ .done vector) :
    (∀ inserted, (ingester.ingestPiece pause path run piece).2 ≠ .done inserted) ∧
      (ingester.ingestPiece pause path run piece).1.store = run.store := by
  cases houtcome : (ingester.embed run.events piece.chunk.content).outcome with
  | done vector => exact absurd houtcome (hunanswered vector)
  | failed failure => simp [ingestPiece, knows_eq hlooks hunbroken, hnew, ask, houtcome]
  | waiting limit => simp [ingestPiece, knows_eq hlooks hunbroken, hnew, ask, houtcome]

/-- A new piece is kept with the answer to its question. -/
theorem ingestPiece_of_answered (hlooks : ingester.looksUp = true)
    (hunbroken : run.store.isBroken = false)
    (hnew : piece.chunk.fingerprint ∉ run.store.table.fingerprints) {vector : Vector64}
    (hanswered : (ingester.embed run.events piece.chunk.content).outcome = .done vector) :
    ingester.ingestPiece pause path run piece =
      ((keep pause path (ingester.ask run piece).1 piece vector).1,
        match (keep pause path (ingester.ask run piece).1 piece vector).2 with
        | .ok inserted => .done inserted
        | .error failure => .failed failure) := by
  simp only [ingestPiece, knows_eq hlooks hunbroken, hnew, decide_false, ask, hanswered]
  rcases keep pause path _ piece vector with ⟨kept, failure | inserted⟩ <;> rfl

/-- What becomes of one piece: it is stored already; it is not done, for want of a path, of
an admission or of an answer; or it is added. -/
theorem ingestPiece_cases (hfaltering : ingester.Faltering vectorOf)
    (hunbroken : run.store.isBroken = false) (pause : Binary64) (path : Text) (piece : Piece) :
    let candidate : Candidate := ⟨path, piece⟩
    let result := ingester.ingestPiece pause path run piece
    let length := (vectorOf candidate.content).length
    (candidate.fingerprint ∈ run.store.table.fingerprints ∧ result = (run, .done false)) ∨
    ((∀ inserted, result.2 ≠ .done inserted) ∧ result.1.store.Alike run.store ∧
      (path = [] ∨ ¬ run.store.Admits length ∨ ¬ ingester.Steady vectorOf)) ∨
    (candidate.fingerprint ∉ run.store.table.fingerprints ∧ path ≠ [] ∧
      run.store.Admits length ∧ result.2 = .done true ∧
      result.1.store = run.store.extended (candidate.row vectorOf) length) := by
  intro candidate result length
  by_cases hheld : piece.chunk.fingerprint ∈ run.store.table.fingerprints
  · exact Or.inl ⟨hheld, ingestPiece_of_held hfaltering.looksUp hunbroken hheld⟩
  right
  by_cases hanswered : ∃ vector,
      (ingester.embed run.events piece.chunk.content).outcome = .done vector
  · obtain ⟨vector, hanswered⟩ := hanswered
    obtain rfl := hfaltering.honest _ _ _ hanswered
    have hresult : result = _ :=
      ingestPiece_of_answered hfaltering.looksUp hunbroken hheld hanswered
    by_cases hrefused : path = [] ∨ ¬ run.store.Admits length
    · obtain ⟨⟨failure, hfailed⟩, halike⟩ :=
        keep_of_not_admits pause (ingester.ask run piece).1 piece
          (vectorOf piece.chunk.content) hrefused
      rw [hfailed] at hresult
      left
      refine ⟨?_, ?_, ?_⟩
      · intro inserted hdone
        rw [hresult] at hdone
        cases hdone
      · rw [hresult]
        exact halike
      · rcases hrefused with hpath | hnone
        · exact Or.inl hpath
        · exact Or.inr (Or.inl hnone)
    · rw [not_or, not_not] at hrefused
      obtain ⟨pauses, hkept⟩ := keep_of_admits pause (ingester.ask run piece).1 piece
        (vectorOf piece.chunk.content) hunbroken hrefused.1 hrefused.2 hheld
      rw [hkept] at hresult
      rw [hresult]
      exact Or.inr ⟨hheld, hrefused.1, hrefused.2, rfl, rfl⟩
  · rw [not_exists] at hanswered
    obtain ⟨hstopped, hstore⟩ :=
      ingestPiece_of_unanswered hfaltering.looksUp hunbroken hheld hanswered
    left
    refine ⟨hstopped, ?_, ?_⟩
    · rw [hstore]
      exact Store.Alike.refl run.store
    · refine Or.inr (Or.inr fun hsteady => ?_)
      exact hanswered _ (hsteady.answers run.events piece.chunk.content)

end Ingester

end ScriptDocs
