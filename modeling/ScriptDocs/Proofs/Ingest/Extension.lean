/-
# Ingesting an extended section

A section that is stored, and is then extended, is embedded anew from its last chunk on: an
ingestion passes over the chunks before that one without a question, and what it may ask for
holds the characters of the last chunk and of the added text.
-/

import ScriptDocs.Proofs.Ingest.Documents
import ScriptDocs.Proofs.Markdown.Extension

namespace ScriptDocs

namespace Ingester

variable {ingester : Ingester} {pause : Binary64} {path : Text} {run : Ingestion}

/-- Pieces that are stored are counted and passed over. -/
theorem ingestPieces_append_of_held (hlooks : ingester.looksUp = true)
    (hunbroken : run.store.isBroken = false) (report : Report) {known : List Piece}
    (hheld : ∀ piece ∈ known, piece.chunk.fingerprint ∈ run.store.table.fingerprints)
    (pieces : List Piece) :
    ingester.ingestPieces pause path report run (known ++ pieces) =
      ingester.ingestPieces pause path (report.counting known.length 0) run pieces := by
  induction known generalizing report with
  | nil => rfl
  | cons piece known ih =>
      rw [List.forall_mem_cons] at hheld
      rw [List.cons_append, ingestPieces, ingestPiece_of_held hlooks hunbroken hheld.1]
      dsimp only
      rw [ih (report.count false) hheld.2, Report.count_false_counting report (Nat.zero_le _),
        List.length_cons]

end Ingester

namespace Markdown

/-- All chunks of a section but the last one are, unchanged and in their places, the first ones
of the section extended by a break and more text; the chunks behind them hold the characters of
the last chunk and of the added text that are no white space. So an ingestion that finds the
kept chunks stored only counts them, and goes on with the chunks behind them. -/
theorem extension_keeps_chunks (limits : Limits) (text more : Text) (hmost : 1 ≤ limits.most) :
    ∃ shorter longer rest : List Chunk, chunks? limits text = some shorter ∧
      chunks? limits (text ++ paragraphBreak ++ more) = some longer ∧
      longer = shorter.dropLast ++ rest ∧
      rest.flatMap (fun chunk => Text.inked chunk.content) =
        shorter.getLast?.toList.flatMap (fun chunk => Text.inked chunk.content) ++
          Text.inked more ∧
      ∀ (ingester : Ingester) (pause : Binary64) (path title : Text) (report : Report)
        (run : Ingestion), ingester.looksUp = true → run.store.isBroken = false →
        (∀ chunk ∈ shorter.dropLast, chunk.fingerprint ∈ run.store.table.fingerprints) →
        ingester.ingestPieces pause path report run (longer.map (Piece.mk title)) =
          ingester.ingestPieces pause path (report.counting (shorter.length - 1) 0) run
            (rest.map (Piece.mk title)) := by
  obtain ⟨rest, hlonger, hinked⟩ := exists_chunkTexts_extended hmost text more
  let chunkOf : Text → Chunk := fun content => ⟨content, fingerprint content⟩
  have hwhole : chunks limits (text ++ paragraphBreak ++ more) =
      (chunks limits text).dropLast ++ rest.map chunkOf := by
    rw [chunks, chunks, hlonger, List.map_append, List.map_dropLast]
  refine ⟨_, _, rest.map chunkOf, chunks?_of_positive hmost text,
    chunks?_of_positive hmost _, hwhole, ?_, ?_⟩
  · rw [chunks, List.getLast?_map]
    cases hlast : (chunkTexts limits text).getLast? with
    | none => simpa [hlast, List.flatMap_map] using hinked
    | some last => simpa [hlast, List.flatMap_map] using hinked
  · intro ingester pause path title report run hlooks hunbroken hheld
    have hknown : ∀ piece ∈ (chunks limits text).dropLast.map (Piece.mk title),
        piece.chunk.fingerprint ∈ run.store.table.fingerprints := by
      intro piece hpiece
      obtain ⟨chunk, hchunk, rfl⟩ := List.mem_map.mp hpiece
      exact hheld chunk hchunk
    rw [hwhole, List.map_append,
      Ingester.ingestPieces_append_of_held hlooks hunbroken report hknown, List.length_map,
      List.length_dropLast]

/-- Of two chunks the second one takes in the added text, and an ingestion into the rows of the
first run asks for nothing else. -/
theorem extension_keeps_chunks_of_shortTail :
    let limits : Limits := { least := 2, most := 4 }
    let text : Text := "abcd\n\ne"
    let ingester := Ingester.answering (fun _ => [.one]) (some (.integer 0))
    let rows := (chunks limits text).map fun chunk =>
      Candidate.row (fun _ => [.one]) ⟨"a.md", ⟨"Title", chunk⟩⟩
    let run : Ingestion := { store := { table := rows, saved := rows } }
    1 ≤ limits.most ∧ chunkTexts limits text = ["abcd".toList, "e".toList] ∧
    ∃ shorter longer rest : List Chunk, chunks? limits text = some shorter ∧
      chunks? limits (text ++ paragraphBreak ++ "f".toList) = some longer ∧
      longer = shorter.dropLast ++ rest ∧ rest.map Chunk.content = ["e\n\nf".toList] ∧
      ingester.looksUp = true ∧ run.store.isBroken = false ∧
      (∀ chunk ∈ shorter.dropLast, chunk.fingerprint ∈ run.store.table.fingerprints) ∧
      ingester.ingestPieces .zero "a.md" {} run (longer.map (Piece.mk "Title")) =
        ingester.ingestPieces .zero "a.md" (Report.counting {} 1 0) run
          (rest.map (Piece.mk "Title")) := by
  intro limits text ingester rows run
  obtain ⟨shorter, longer, rest, hshorter, hlonger, hparts, -, hingest⟩ :=
    extension_keeps_chunks limits text "f" (by decide)
  obtain rfl : chunks limits text = shorter :=
    Option.some.inj ((chunks?_of_positive (by decide) text).symm.trans hshorter)
  have hrest : rest.map Chunk.content = ["e\n\nf".toList] := by
    have hwhole := Option.some.inj ((chunks?_of_positive (by decide) _).symm.trans hlonger)
    have hcontents := congrArg (List.map Chunk.content) (hwhole.trans hparts)
    rw [map_content_chunks, List.map_append, List.map_dropLast, map_content_chunks] at hcontents
    exact List.append_cancel_left (hcontents.symm.trans (by decide))
  have hheld : ∀ chunk ∈ (chunks limits text).dropLast,
      chunk.fingerprint ∈ run.store.table.fingerprints := by
    intro chunk hchunk
    have hrow : Candidate.row (fun _ => [.one]) ⟨"a.md", ⟨"Title", chunk⟩⟩ ∈ run.store.table :=
      List.mem_map_of_mem (List.dropLast_subset _ hchunk)
    exact List.mem_map.mpr ⟨_, hrow, rfl⟩
  have hlength : (chunks limits text).length - 1 = 1 := by
    rw [chunks, List.length_map]
    decide
  have hrun := hingest ingester .zero "a.md" "Title" {} run rfl rfl hheld
  rw [hlength] at hrun
  exact ⟨by decide, by decide, _, longer, rest, hshorter, hlonger, hparts, hrest, rfl, rfl, hheld,
    hrun⟩

end Markdown

end ScriptDocs
