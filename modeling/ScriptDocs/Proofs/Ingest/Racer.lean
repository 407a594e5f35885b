/-
# An ingestion turn by turn

An ingestion that shares its table with others moves on by turns: it looks up the fingerprint of
its next piece, asks for the vector, and inserts and commits the row, each in a turn of its own.
Between two turns others may extend the table. While none does, the turns come to what the
ingestion does as a whole; and whatever the others do, an ingestion that nothing keeps from
inserting has one of three things to do at each turn.
-/

import ScriptDocs.Proofs.Ingest.Documents
import ScriptDocs.Proofs.Store.Sharing

namespace ScriptDocs

/-- How far an ingestion is with its next piece, unless it has failed. -/
inductive Stage
  | untouched
  | unknown
  | answered (vector : Vector64)
  | stopped (outcome : Outcome Report)

/-- The turns that the next piece has had. -/
def Stage.turns : Stage → Nat
  | .untouched | .stopped _ => 0
  | .unknown => 1
  | .answered _ => 2

theorem Stage.turns_le (stage : Stage) : stage.turns ≤ 2 := by
  cases stage <;> simp [turns]

/-- An ingestion that takes turns: the pieces that are left, how far it is with the first of
them, and the pieces that it has counted, each with whether it was new. -/
structure Racer where
  ingester : Ingester
  path : Text
  pause : Binary64
  run : Ingestion
  rest : List Piece
  stage : Stage := .untouched
  told : List (Piece × Bool) := []

namespace Racer

/-- The ingestion of a document before its first turn. -/
def of (ingester : Ingester) (document : Document) (store : Store) : Racer :=
  let racer (pause : Binary64) (stage : Stage) : Racer :=
    { ingester, path := document.path, pause, run := { store }, rest := piecesOf document.text,
      stage }
  match Ingester.seconds ingester.milliseconds with
  | .ok pause => racer pause .untouched
  | .error failure => racer .zero (.stopped (.failed failure))

/-- The counters so far. -/
def report (racer : Racer) : Report :=
  racer.told.foldl (fun report told => report.count told.2) { files := 1 }

/-- The fingerprints that the ingestion has counted as new. -/
def added (racer : Racer) : List Text :=
  (racer.told.filter Prod.snd).map fun told => told.1.chunk.fingerprint

/-- How the ingestion has ended, once it has. -/
def outcome? (racer : Racer) : Option (Outcome Report) :=
  match racer.stage, racer.rest with
  | .stopped outcome, _ => some outcome
  | _, [] => some (.done racer.report)
  | _, _ :: _ => none

/-- The ingestion goes on to a stage of its next piece. -/
def reach (racer : Racer) (run : Ingestion) (stage : Stage) : Racer :=
  { racer with run, stage }

/-- The ingestion is through with its next piece. -/
def tell (racer : Racer) (run : Ingestion) (piece : Piece) (rest : List Piece) (isNew : Bool) :
    Racer :=
  { racer with run, rest, stage := .untouched, told := racer.told ++ [(piece, isNew)] }

/-- One turn, and the table that it leaves. -/
def turn (racer : Racer) (table : Table) : Racer × Table :=
  let run := { racer.run with store := racer.run.store.onto table }
  match racer.rest, racer.stage with
  | [], _ | _, .stopped _ => (racer, table)
  | piece :: rest, .untouched =>
    match racer.ingester.knows run piece with
    | .error failure => (racer.reach run (.stopped (.failed failure)), table)
    | .ok true => (racer.tell run piece rest false, table)
    | .ok false => (racer.reach run .unknown, table)
  | piece :: _, .unknown =>
    match racer.ingester.ask run piece with
    | (run, .failed failure) => (racer.reach run (.stopped (.failed failure)), table)
    | (run, .waiting limit) => (racer.reach run (.stopped (.waiting limit)), table)
    | (run, .done vector) => (racer.reach run (.answered vector), table)
  | piece :: rest, .answered vector =>
    match Ingester.keep racer.pause racer.path run piece vector with
    | (run, .error failure) => (racer.reach run (.stopped (.failed failure)), run.store.saved)
    | (run, .ok isNew) => (racer.tell run piece rest isNew, run.store.saved)

/-- Some turns while nobody else takes one. -/
def alone (racer : Racer) (table : Table) : Nat → Racer × Table
  | 0 => (racer, table)
  | turns + 1 =>
    let (racer, table) := racer.turn table
    racer.alone table turns

end Racer

namespace Ingester

variable {ingester : Ingester} {pause : Binary64} {path : Text} {run : Ingestion} {piece : Piece}
  {vector : Vector64}

/-- What is kept is committed. -/
theorem settled_keep (hsettled : run.store.Settled) :
    (keep pause path run piece vector).1.store.Settled := by
  rw [keep]
  cases passageOf path piece vector with
  | error failure => exact hsettled
  | ok passage =>
      have hunbroken : (run.store.upsert passage).1.isBroken = false := by
        by_cases hadded : (run.store.upsert passage).2 = .ok true
        · rw [(Store.upsert_eq_of_added hadded).2.2]
          exact hsettled.unbroken
        · exact (Store.upsert_alike hadded).isBroken.trans hsettled.unbroken
      have hrefused : ∀ failure, (run.store.upsert passage).2 = .error failure →
          (run.store.upsert passage).1.Settled := by
        intro failure hfailed
        apply hsettled.alike
        apply Store.upsert_alike
        rw [hfailed]
        intro hok
        cases hok
      dsimp only
      rcases hupsert : run.store.upsert passage with ⟨store, failure | isNew⟩
      all_goals rw [hupsert] at hunbroken hrefused
      · exact hrefused failure rfl
      · have hcommit : store.commit = ({ store with saved := store.table }, .ok ()) :=
          Store.commit_of_unbroken hunbroken
        dsimp only
        rw [hcommit]
        exact ⟨hunbroken, rfl⟩

/-- A stored piece is not kept a second time. -/
theorem keep_of_held (hsettled : run.store.Settled) (hpath : path ≠ [])
    (hadmits : run.store.Admits vector.length)
    (hheld : piece.chunk.fingerprint ∈ run.store.table.fingerprints) :
    ∃ kept, keep pause path run piece vector = (kept, .ok false) ∧
      kept.store.Alike run.store := by
  obtain ⟨passage, hpassage, rfl, hmark, -⟩ := exists_passageOf hpath piece vector
  have hnonempty : passage.embedding ≠ [] := fun h => hadmits.nonzero (by rw [h]; rfl)
  have hanswer := Store.upsert_of_held ⟨hsettled.unbroken, hadmits.supported⟩ hnonempty
    hadmits.fits (hmark ▸ hheld)
  have halike : (run.store.upsert passage).1.Alike run.store :=
    Store.upsert_alike (by simp [hanswer])
  have hcommit := (hsettled.alike halike).commit_eq
  rw [keep, hpassage]
  dsimp only
  rcases hupsert : run.store.upsert passage with ⟨store, result⟩
  rw [hupsert] at hanswer halike hcommit
  obtain rfl : result = .ok false := hanswer
  dsimp only at hcommit ⊢
  rw [hcommit]
  exact ⟨_, rfl, halike⟩

/-- The lookup does not fail, and what it finds is stored. -/
theorem knows_cases (hunbroken : run.store.isBroken = false) :
    ingester.knows run piece = .ok false ∨
      ingester.knows run piece = .ok true ∧
        piece.chunk.fingerprint ∈ run.store.table.fingerprints := by
  cases hlooks : ingester.looksUp with
  | false => exact Or.inl (by rw [knows, hlooks]; rfl)
  | true =>
      rw [knows_eq hlooks hunbroken]
      by_cases hheld : piece.chunk.fingerprint ∈ run.store.table.fingerprints
      · exact Or.inr ⟨by rw [decide_eq_true hheld], hheld⟩
      · exact Or.inl (by rw [decide_eq_false hheld])

/-- Every question is answered with a vector of a certain length. -/
def Answers (ingester : Ingester) (length : Nat) : Prop :=
  ∀ events text, ∃ vector,
    (ingester.embed events text).outcome = .done vector ∧ vector.length = length

end Ingester

/-- A row with a vector of the admitted length changes nothing about what is admitted. -/
theorem Store.Admits.grow {store : Store} {table : Table} {length : Nat}
    (hadmits : (store.onto table).Admits length) (hunbroken : store.isBroken = false) {row : Row}
    (hrow : row.HasLength length) : (store.onto (table ++ [row])).Admits length := by
  refine ⟨hadmits.supported, hadmits.nonzero, ?_⟩
  have hfits := hadmits.fits
  unfold Store.Fits at hfits ⊢
  cases hlearnt : store.vectorLength with
  | some known =>
      have hbefore : (store.onto table).knownLength = .ok (some known) := by
        rw [Store.knownLength, Store.onto, hlearnt]
      have hafter : (store.onto (table ++ [row])).knownLength = .ok (some known) := by
        rw [Store.knownLength, Store.onto, hlearnt]
      rwa [hafter, ← hbefore]
  | none =>
      have htold : ∀ table, (store.onto table).knownLength = table.vectorLength? := by
        intro table
        have hgoing : (store.onto table).isBroken = false := hunbroken
        have hnone : (store.onto table).vectorLength = none := hlearnt
        exact Store.knownLength_of_none hgoing hnone
      rw [htold] at hfits ⊢
      by_cases hempty : table = []
      · obtain ⟨vector, hvector, rfl⟩ := hrow
        right
        rw [hempty]
        simp [Table.vectorLength?, hvector, StoredVector.decode, Except.map, hadmits.nonzero]
      · rwa [Table.vectorLength?_append hempty]

namespace Racer

/-- An ingestion that has ended takes no more turns. -/
theorem turn_of_ended {racer : Racer} {outcome : Outcome Report}
    (hended : racer.outcome? = some outcome) (table : Table) :
    racer.turn table = (racer, table) := by
  rcases racer with ⟨ingester, path, pause, run, _ | ⟨piece, rest⟩, stage, told⟩
  · rfl
  · cases stage with
    | stopped outcome => rfl
    | untouched | unknown | answered _ => cases hended

theorem alone_of_ended {racer : Racer} {outcome : Outcome Report}
    (hended : racer.outcome? = some outcome) (table : Table) (turns : Nat) :
    racer.alone table turns = (racer, table) := by
  induction turns with
  | zero => rfl
  | succ turns ih =>
      rw [alone, turn_of_ended hended]
      exact ih

theorem alone_add (racer : Racer) (table : Table) (first second : Nat) :
    racer.alone table (first + second) =
      (racer.alone table first).1.alone (racer.alone table first).2 second := by
  induction first generalizing racer table with
  | zero => rw [Nat.zero_add]; rfl
  | succ first ih =>
      rw [Nat.succ_add]
      exact ih _ _

/-- The ingestion behind its next piece, given what has become of that piece. -/
def behind (racer : Racer) (piece : Piece) (rest : List Piece) : Ingestion × Outcome Bool → Racer
  | (run, .done isNew) => racer.tell run piece rest isNew
  | (run, .failed failure) => racer.reach run (.stopped (.failed failure))
  | (run, .waiting limit) => racer.reach run (.stopped (.waiting limit))

/-- What three turns at most make of the next piece while nobody else takes one: what the
ingestion of that piece does. -/
theorem exists_alone_eq_ingestPiece {racer : Racer} {piece : Piece} {rest : List Piece}
    (hsettled : racer.run.store.Settled) (hrest : racer.rest = piece :: rest)
    (hstage : racer.stage = .untouched) :
    let result := racer.ingester.ingestPiece racer.pause racer.path racer.run piece
    result.1.store.Settled ∧ ∃ turns ≤ 3, racer.alone racer.run.store.table turns =
      (racer.behind piece rest result, result.1.store.table) := by
  obtain ⟨ingester, path, pause, run, _, _, told⟩ := racer
  obtain rfl : _ = piece :: rest := hrest
  obtain rfl : _ = Stage.untouched := hstage
  have hview : ∀ later : Ingestion, later.store = run.store →
      { later with store := later.store.onto run.store.table } = later := by
    intro later hstore
    have honto : later.store.onto run.store.table = later.store := by
      rw [hstore]
      exact hsettled.onto_eq
    rw [honto]
  have hsame := hview run rfl
  cases hknows : ingester.knows run piece with
  | error failure =>
      simp only [Ingester.ingestPiece, hknows]
      exact ⟨hsettled, 1, by decide, by simp [alone, turn, behind, hsame, hknows]⟩
  | ok isKnown =>
      cases isKnown with
      | true =>
          simp only [Ingester.ingestPiece, hknows]
          exact ⟨hsettled, 1, by decide, by simp [alone, turn, behind, hsame, hknows]⟩
      | false =>
          rcases hask : ingester.ask run piece with ⟨asked, vector | failure | limit⟩
          all_goals
            simp only [Ingester.ingestPiece, hknows, hask]
            have hstore : asked.store = run.store :=
              congrArg (fun result => result.1.store) hask.symm
            have hasked : asked.store.Settled := hstore.symm ▸ hsettled
          · have hagain := hview asked hstore
            have hkept : (Ingester.keep pause path asked piece vector).1.store.Settled :=
              Ingester.settled_keep hasked
            rcases hkeep : Ingester.keep pause path asked piece vector with
              ⟨kept, failure | isNew⟩
            all_goals
              rw [hkeep] at hkept
              have hsaved : kept.store.saved = kept.store.table := hkept.committed
              refine ⟨hkept, 3, Nat.le_refl 3, ?_⟩
              simp [alone, turn, behind, reach, tell, hsame, hknows, hask, hagain, hkeep, hsaved]
          · refine ⟨hasked, 2, by decide, ?_⟩
            simp [alone, turn, behind, reach, hsame, hknows, hask, hstore]
          · refine ⟨hasked, 2, by decide, ?_⟩
            simp [alone, turn, behind, reach, hsame, hknows, hask, hstore]

theorem report_tell (racer : Racer) (run : Ingestion) (piece : Piece) (rest : List Piece)
    (isNew : Bool) : (racer.tell run piece rest isNew).report = racer.report.count isNew := by
  rw [report, tell, List.foldl_append]
  rfl

/-- Turns enough for all pieces while nobody else takes one come to the ingestion of them all. -/
theorem alone_eq_ingestPieces {racer : Racer} (hsettled : racer.run.store.Settled)
    (hstage : racer.stage = .untouched) {turns : Nat} (henough : 3 * racer.rest.length ≤ turns) :
    let result :=
      racer.ingester.ingestPieces racer.pause racer.path racer.report racer.run racer.rest
    let last := racer.alone racer.run.store.table turns
    last.1.run = result.1 ∧ last.1.outcome? = some result.2 ∧ last.2 = result.1.store.table := by
  generalize hpieces : racer.rest = pieces at henough ⊢
  induction pieces generalizing racer turns with
  | nil =>
      have houtcome : racer.outcome? = some (.done racer.report) := by
        rw [outcome?, hstage, hpieces]
      intro result last
      have hlast : last = (racer, racer.run.store.table) :=
        alone_of_ended houtcome _ _
      rw [hlast]
      exact ⟨rfl, houtcome, rfl⟩
  | cons piece pieces ih =>
      intro result last
      rw [List.length_cons, Nat.mul_succ] at henough
      obtain ⟨hkept, spent, hspent, halone⟩ :=
        exists_alone_eq_ingestPiece hsettled hpieces hstage
      obtain ⟨left, rfl⟩ : ∃ left, turns = spent + left :=
        Nat.exists_eq_add_of_le (by omega)
      have hlast : last = (racer.alone racer.run.store.table spent).1.alone
          (racer.alone racer.run.store.table spent).2 left :=
        alone_add racer racer.run.store.table spent left
      rw [halone] at hlast
      have hresult : result = racer.ingester.ingestPieces racer.pause racer.path racer.report
          racer.run (piece :: pieces) := rfl
      rw [Ingester.ingestPieces] at hresult
      rw [hlast, hresult]
      rcases hpiece : racer.ingester.ingestPiece racer.pause racer.path racer.run piece with
        ⟨kept, isNew | failure | limit⟩
      all_goals
        rw [hpiece] at hkept
        dsimp only [behind]
      · rw [← report_tell racer kept piece pieces isNew]
        exact @ih (racer.tell kept piece pieces isNew) hkept rfl left rfl (by omega)
      · rw [alone_of_ended rfl]
        exact ⟨rfl, rfl, rfl⟩
      · rw [alone_of_ended rfl]
        exact ⟨rfl, rfl, rfl⟩

/-- Turns enough for all pieces while nobody else takes one come to the ingestion of the
document. -/
theorem alone_eq_ingestText (ingester : Ingester) (document : Document) {store : Store}
    (hsettled : store.Settled) {turns : Nat}
    (henough : 3 * (piecesOf document.text).length ≤ turns) :
    let result := ingester.ingestText document.path document.text { store }
    let last := (of ingester document store).alone store.table turns
    last.1.run = result.1 ∧ last.1.outcome? = some result.2 ∧ last.2 = result.1.store.table := by
  intro result last
  have hresult : result = ingester.ingestText document.path document.text { store } := rfl
  have hlast : last = (of ingester document store).alone store.table turns := rfl
  rw [Ingester.ingestText] at hresult
  rw [of] at hlast
  rw [hresult, hlast]
  cases hpause : Ingester.seconds ingester.milliseconds with
  | ok pause =>
      let racer : Racer :=
        { ingester, path := document.path, pause, run := { store }, rest := piecesOf document.text }
      exact @alone_eq_ingestPieces racer hsettled rfl turns henough
  | error failure =>
      rw [alone_of_ended rfl]
      exact ⟨rfl, rfl, rfl⟩

/-- The turns that the ingestion needs at most. -/
def left (racer : Racer) : Nat :=
  3 * racer.rest.length - racer.stage.turns

theorem rest_eq_nil {racer : Racer} (hleft : racer.left = 0) : racer.rest = [] := by
  have hturns := racer.stage.turns_le
  rw [← List.length_eq_zero_iff]
  unfold left at hleft
  omega

theorem left_of_cons {racer : Racer} {piece : Piece} {rest : List Piece}
    (hrest : racer.rest = piece :: rest) :
    racer.left = 3 * rest.length + 3 - racer.stage.turns := by
  rw [left, hrest, List.length_cons, Nat.mul_succ]

/-- Nothing keeps the ingestion from inserting vectors of a certain length into the table. -/
structure Ready (racer : Racer) (length : Nat) (table : Table) : Prop where
  path : racer.path ≠ []
  unbroken : racer.run.store.isBroken = false
  admits : (racer.run.store.onto table).Admits length
  answers : racer.ingester.Answers length
  answered : ∀ vector, racer.stage = .answered vector → vector.length = length
  going : ∀ outcome, racer.stage ≠ .stopped outcome

/-- What a turn may do: it is about a piece that the next turns go on with, it finds the next
piece stored, or it adds the row of that piece. -/
inductive Moves (length : Nat) (before after : Racer) (table : Table) : Table → Prop
  | goesOn (told : after.told = before.told) (rest : after.rest = before.rest) :
      Moves length before after table table
  | finds (piece : Piece) (told : after.told = before.told ++ [(piece, false)])
      (rest : before.rest = piece :: after.rest)
      (held : piece.chunk.fingerprint ∈ table.fingerprints) :
      Moves length before after table table
  | adds (piece : Piece) (row : Row) (told : after.told = before.told ++ [(piece, true)])
      (rest : before.rest = piece :: after.rest)
      (new : piece.chunk.fingerprint ∉ table.fingerprints)
      (fingerprint : row.fingerprint = piece.chunk.fingerprint) (fits : row.HasLength length) :
      Moves length before after table (table ++ [row])

/-- A turn does one of those things, nothing keeps the ingestion from inserting behind it, and
fewer turns are needed. -/
structure Advances (length : Nat) (before : Racer) (table : Table) (result : Racer × Table) :
    Prop where
  moves : Moves length before result.1 table result.2
  ready : result.1.Ready length result.2
  left : result.1.left ≤ before.left - 1

namespace Ready

variable {racer : Racer} {length : Nat} {table : Table} {piece : Piece} {rest : List Piece}

/-- Another ingestion has added a row. -/
theorem grow (hready : racer.Ready length table) {row : Row} (hrow : row.HasLength length) :
    racer.Ready length (table ++ [row]) :=
  { hready with admits := hready.admits.grow hready.unbroken hrow }

/-- A turn that leads to a later stage of the next piece. -/
theorem reaches (hready : racer.Ready length table) (hrest : racer.rest = piece :: rest)
    {run : Ingestion} {stage : Stage} (hstore : run.store = racer.run.store.onto table)
    (hanswered : ∀ vector, stage = .answered vector → vector.length = length)
    (hlater : racer.stage.turns < stage.turns) :
    Advances length racer table (racer.reach run stage, table) where
  moves := .goesOn rfl rfl
  ready := {
    path := hready.path
    unbroken := by
      show run.store.isBroken = false
      rw [hstore]
      exact hready.unbroken
    admits := by
      show (run.store.onto table).Admits length
      rw [hstore]
      exact hready.admits
    answers := hready.answers
    answered := hanswered
    going := by
      rintro outcome rfl
      exact absurd hlater (Nat.not_lt_zero _) }
  left := by
    have hbehind : (racer.reach run stage).left = 3 * rest.length + 3 - stage.turns :=
      left_of_cons hrest
    have hmost := stage.turns_le
    show (racer.reach run stage).left ≤ _
    rw [hbehind, left_of_cons hrest]
    omega

/-- A turn that ends the next piece. -/
theorem tells (hready : racer.Ready length table) (hrest : racer.rest = piece :: rest)
    {run : Ingestion} {isNew : Bool} {grown : Table} (hunbroken : run.store.isBroken = false)
    (hadmits : (run.store.onto grown).Admits length)
    (hmoves : Moves length racer (racer.tell run piece rest isNew) table grown) :
    Advances length racer table (racer.tell run piece rest isNew, grown) where
  moves := hmoves
  ready := {
    path := hready.path
    unbroken := hunbroken
    admits := hadmits
    answers := hready.answers
    answered := nofun
    going := nofun }
  left := by
    have hmost := racer.stage.turns_le
    show 3 * rest.length ≤ _
    rw [left_of_cons hrest]
    omega

/-- The fingerprint of the next piece is looked up. -/
theorem advances_of_untouched (hready : racer.Ready length table)
    (hrest : racer.rest = piece :: rest) (hstage : racer.stage = .untouched) :
    Advances length racer table (racer.turn table) := by
  let view : Ingestion := { racer.run with store := racer.run.store.onto table }
  have hknows : racer.ingester.knows view piece = .ok false ∨
      racer.ingester.knows view piece = .ok true ∧
        piece.chunk.fingerprint ∈ table.fingerprints :=
    Ingester.knows_cases hready.unbroken
  rw [turn, hrest, hstage]
  dsimp only
  rcases hknows with hnew | ⟨hknown, hheld⟩
  · rw [hnew]
    exact hready.reaches hrest rfl nofun (by rw [hstage]; decide)
  · rw [hknown]
    exact hready.tells hrest hready.unbroken hready.admits (.finds piece rfl hrest hheld)

/-- The vector of the next piece is asked for. -/
theorem advances_of_unknown (hready : racer.Ready length table)
    (hrest : racer.rest = piece :: rest) (hstage : racer.stage = .unknown) :
    Advances length racer table (racer.turn table) := by
  obtain ⟨vector, hvector, hlength⟩ := hready.answers racer.run.events piece.chunk.content
  rw [turn, hrest, hstage]
  dsimp only [Ingester.ask]
  rw [hvector]
  have hlater : racer.stage.turns < (Stage.answered vector).turns := by
    rw [hstage]
    exact Nat.lt_succ_self 1
  refine hready.reaches hrest rfl ?_ hlater
  rintro _ ⟨⟩
  exact hlength

/-- The next piece is inserted, unless another ingestion has done so since it was looked up. -/
theorem advances_of_answered (hready : racer.Ready length table)
    (hrest : racer.rest = piece :: rest) {vector : Vector64}
    (hstage : racer.stage = .answered vector) :
    Advances length racer table (racer.turn table) := by
  let view : Ingestion := { racer.run with store := racer.run.store.onto table }
  have hview : view.store.Settled := ⟨hready.unbroken, rfl⟩
  obtain rfl : vector.length = length := hready.answered vector hstage
  rw [turn, hrest, hstage]
  dsimp only
  by_cases hheld : piece.chunk.fingerprint ∈ table.fingerprints
  · obtain ⟨kept, hkeep, halike⟩ : ∃ kept,
        Ingester.keep racer.pause racer.path view piece vector = (kept, .ok false) ∧
          kept.store.Alike view.store :=
      Ingester.keep_of_held hview hready.path hready.admits hheld
    have hsaved : kept.store.saved = table := halike.saved
    have hfound : kept.store.table = table := halike.table
    have honto : kept.store.onto table = kept.store := by
      rw [← hfound]
      exact (hview.alike halike).onto_eq
    rw [hkeep]
    dsimp only
    rw [hsaved]
    refine hready.tells hrest (halike.isBroken.trans hready.unbroken) ?_
      (.finds piece rfl hrest hheld)
    rw [honto]
    exact hready.admits.alike halike
  · obtain ⟨pauses, hkeep⟩ := Ingester.keep_of_admits racer.pause view piece vector
      hready.unbroken hready.path hready.admits hheld
    rw [hkeep]
    refine hready.tells hrest hready.unbroken (hready.admits.extended _) ?_
    exact .adds piece _ rfl hrest hheld rfl ⟨vector, rfl, rfl⟩

/-- What a turn does. -/
theorem advances (hready : racer.Ready length table) :
    Advances length racer table (racer.turn table) := by
  cases hrest : racer.rest with
  | nil =>
      have hsame : racer.turn table = (racer, table) := by rw [turn, hrest]
      have hleft : racer.left = 0 := by rw [left, hrest]; exact Nat.zero_sub _
      rw [hsame]
      exact ⟨.goesOn rfl rfl, hready, hleft ▸ Nat.zero_le _⟩
  | cons piece rest =>
      cases hstage : racer.stage with
      | untouched => exact hready.advances_of_untouched hrest hstage
      | unknown => exact hready.advances_of_unknown hrest hstage
      | answered vector => exact hready.advances_of_answered hrest hstage
      | stopped outcome => exact absurd hstage (hready.going outcome)

end Ready

end Racer

end ScriptDocs
