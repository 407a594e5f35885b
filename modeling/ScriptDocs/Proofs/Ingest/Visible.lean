/-
# Blank texts in an ingestion

A document has a blank chunk just where a paragraph of one of its sections has a blank slice.
Where none has, the provider is asked for visible texts only, so that it makes no difference
what it does with blank ones, and only visible texts become rows.
-/

import ScriptDocs.Proofs.Ingest.Accounting
import ScriptDocs.Proofs.Markdown.BlankSlice
import ScriptDocs.Proofs.Markdown.Rereading

namespace ScriptDocs

namespace Ingester

/-- Two ingesters that do the same, as far as the provider is asked for visible texts. -/
structure AgreeOnVisible (first second : Ingester) : Prop where
  embed : ∀ events text, Text.isBlankText text = false →
    first.embed events text = second.embed events text
  milliseconds : first.milliseconds = second.milliseconds
  looksUp : first.looksUp = second.looksUp

namespace AgreeOnVisible

variable {first second : Ingester}

theorem ingestPiece_eq (hagree : AgreeOnVisible first second) (pause : Binary64) (path : Text)
    (run : Ingestion) {piece : Piece} (hvisible : Text.isBlankText piece.chunk.content = false) :
    first.ingestPiece pause path run piece = second.ingestPiece pause path run piece := by
  have hknows : first.knows run piece = second.knows run piece := by
    rw [knows, knows, hagree.looksUp]
  have hask : first.ask run piece = second.ask run piece := by
    rw [ask, ask, hagree.embed _ _ hvisible]
  rw [ingestPiece, ingestPiece, hknows, hask]

/-- The provider is asked for the contents of the pieces and for nothing else. -/
theorem ingestPieces_eq (hagree : AgreeOnVisible first second) (pause : Binary64) (path : Text)
    (report : Report) (run : Ingestion) {pieces : List Piece}
    (hvisible : ∀ piece ∈ pieces, Text.isBlankText piece.chunk.content = false) :
    first.ingestPieces pause path report run pieces =
      second.ingestPieces pause path report run pieces := by
  induction pieces generalizing report run with
  | nil => rfl
  | cons piece pieces ih =>
      obtain ⟨hpiece, hlater⟩ := List.forall_mem_cons.mp hvisible
      rw [ingestPieces, ingestPieces, hagree.ingestPiece_eq pause path run hpiece]
      rcases second.ingestPiece pause path run piece with ⟨middle, inserted | failure | limit⟩
      · exact ih (report.count inserted) middle hlater
      · rfl
      · rfl

theorem ingestText_eq (hagree : AgreeOnVisible first second) (path : Text) {text : Text}
    (run : Ingestion)
    (hvisible : ∀ piece ∈ piecesOf text, Text.isBlankText piece.chunk.content = false) :
    first.ingestText path text run = second.ingestText path text run := by
  rw [ingestText, ingestText, hagree.milliseconds]
  cases seconds second.milliseconds with
  | error failure => rfl
  | ok pause => exact hagree.ingestPieces_eq pause path { files := 1 } run hvisible

end AgreeOnVisible

/-- Every row that the ingestion of a document adds holds the content of a piece. -/
theorem mem_table_ingestText (ingester : Ingester) (path text : Text) (run : Ingestion) {row : Row}
    (hrow : row ∈ (ingester.ingestText path text run).1.store.table) :
    row ∈ run.store.table ∨ ∃ piece ∈ piecesOf text, row.content = piece.chunk.content := by
  unfold ingestText at hrow
  cases hpause : seconds ingester.milliseconds with
  | error failure =>
      rw [hpause] at hrow
      exact Or.inl hrow
  | ok pause =>
      rw [hpause] at hrow
      obtain ⟨rows, hgains, hcontents, -⟩ :=
        ingestPieces_gains ingester pause path { files := 1 } run (piecesOf text)
      have htable : row ∈ run.store.table ++ rows := hgains.table ▸ hrow
      exact (List.mem_append.mp htable).imp_right (hcontents row)

end Ingester

namespace Markdown

/-- No paragraph of a document has a blank slice. -/
def CutsVisibly (size : Nat) (text : Text) : Prop :=
  ∀ part ∈ sections text, ∀ paragraph ∈ paragraphs (Text.trim part.content), ∀ slice,
    ¬ IsBlankSlice size (Text.trim paragraph) slice

/-- A chunk of a document is blank just where it is a whole slice of a paragraph that is cut, so
that no chunk is blank just where no paragraph has a blank slice. Then an ingestion is the same
whatever the provider does with blank texts, and adds no blank row. -/
theorem chunks_visible_iff (text : Text) :
    (∀ limits : Limits,
      (∀ part ∈ sections text, ∀ chunk ∈ (chunks? limits part.content).getD [],
        ∃ c ∈ chunk.content, Text.isBlank c = false) ↔ CutsVisibly limits.most.toNat text) ∧
    (CutsVisibly 3500 text → ∀ (path : Text) (run : Ingestion) (first second : Ingester),
      first.AgreeOnVisible second →
        first.ingestText path text run = second.ingestText path text run ∧
        ∀ row ∈ (first.ingestText path text run).1.store.table,
          row ∈ run.store.table ∨ ∃ c ∈ row.content, Text.isBlank c = false) := by
  have hiff : ∀ limits : Limits,
      (∀ part ∈ sections text, ∀ chunk ∈ (chunks? limits part.content).getD [],
        ∃ c ∈ chunk.content, Text.isBlank c = false) ↔ CutsVisibly limits.most.toNat text := by
    refine fun limits => forall₂_congr fun part _ => ?_
    simp only [← Text.isBlankText_eq_false_iff]
    constructor
    · intro hvisible paragraph hparagraph slice hslice
      have hblank := blank_mem_chunks?_iff limits part.content hslice.blank
      obtain ⟨chunk, hchunk, rfl⟩ := List.mem_map.mp (hblank.mpr ⟨paragraph, hparagraph, hslice⟩)
      exact absurd hslice.blank (Bool.eq_false_iff.mp (hvisible chunk hchunk))
    · intro hcuts chunk hchunk
      rw [Bool.eq_false_iff]
      intro hblank
      obtain ⟨paragraph, hparagraph, hslice⟩ :=
        (blank_mem_chunks?_iff limits part.content hblank).mp (List.mem_map_of_mem hchunk)
      exact hcuts paragraph hparagraph chunk.content hslice
  refine ⟨hiff, fun hcuts path run first second hagree => ?_⟩
  have hpieces : ∀ piece ∈ piecesOf text, ∃ c ∈ piece.chunk.content, Text.isBlank c = false := by
    intro piece hpiece
    obtain ⟨part, hpart, hpiece⟩ := List.mem_flatMap.mp hpiece
    obtain ⟨chunk, hchunk, rfl⟩ := List.mem_map.mp hpiece
    refine (hiff {}).mpr hcuts part hpart chunk ?_
    rwa [chunks?_of_positive (by decide), Option.getD_some]
  refine ⟨hagree.ingestText_eq path run fun piece hpiece =>
    Text.isBlankText_eq_false_iff.mpr (hpieces piece hpiece), fun row hrow => ?_⟩
  refine (first.mem_table_ingestText path text run hrow).imp_right ?_
  rintro ⟨piece, hpiece, hcontent⟩
  exact hcontent ▸ hpieces piece hpiece

/-- A provider that gives every visible text one vector and refuses blank ones. -/
def refusingBlank : Ingester where
  embed _ text :=
    if Text.isBlankText text then .fail .codeEmpty else ⟨.done [.one], [.embedded text]⟩

/-- Two letters with spaces between them. -/
def gapped (width : Nat) : Text :=
  'a' :: List.replicate width ' ' ++ ['b']

theorem gapped_ne_nil (width : Nat) : gapped width ≠ [] :=
  List.cons_ne_nil _ _

theorem getLast?_gapped (width : Nat) : (gapped width).getLast? = some 'b' :=
  List.getLast?_concat

theorem isTrimmed_gapped (width : Nat) : Text.IsTrimmed (gapped width) := by
  constructor
  · rintro c ⟨⟩
    decide
  · intro c hc
    rw [getLast?_gapped] at hc
    obtain rfl := Option.some.inj hc
    decide

/-- A line that begins with a letter is no heading. -/
theorem title?_gapped (width : Nat) : title? (gapped width) = none := by
  have hmarks : afterMarks? (gapped width) = none := by
    have hletter : Text.isBlank 'a' = false := by decide
    simp [gapped, afterMarks?, hletter]
  rw [title?, hmarks]

/-- A gapped text that ends within its second slice has no blank one. -/
theorem not_isBlankSlice_gapped {size width : Nat} (hshort : width + 2 < 2 * size) (slice : Text) :
    ¬ IsBlankSlice size (gapped width) slice := by
  rintro ⟨⟨before, behind, hwhole, further, hbefore⟩, hlength, hsome, hblank⟩
  have hcounts := congrArg List.length hwhole
  simp only [gapped, List.length_append, List.length_cons, List.length_replicate,
    List.length_nil] at hcounts
  cases further with
  | zero =>
      -- The first slice begins with the letter in front.
      obtain rfl := List.length_eq_zero_iff.mp hbefore
      obtain ⟨c, others, rfl⟩ := List.exists_cons_of_ne_nil hsome
      obtain rfl : 'a' = c := (List.cons.inj hwhole).1
      exact absurd (List.all_eq_true.mp hblank 'a' List.mem_cons_self) (by decide)
  | succ further =>
      rw [Nat.mul_succ] at hbefore
      omega

/-- A heading, a blank paragraph, and a gapped one. -/
def cutDocument (width : Nat) : Text :=
  ['#', ' ', 'C', '\n', '\n', ' ', '\n', '\n'] ++ gapped width

theorem isTrimmed_cutDocument (width : Nat) : Text.IsTrimmed (cutDocument width) := by
  constructor
  · rintro c ⟨⟩
    decide
  · intro c hc
    rw [cutDocument, List.getLast?_append_of_ne_nil _ (gapped_ne_nil width), getLast?_gapped] at hc
    obtain rfl := Option.some.inj hc
    decide

theorem newline_not_mem_gapped (width : Nat) : '\n' ∉ gapped width := by
  simp [gapped, List.mem_replicate]

theorem sections_cutDocument (width : Nat) :
    sections (cutDocument width) = [⟨['C'], cutDocument width⟩] := by
  have hjoin : Text.join "\n".toList ([['#', ' ', 'C'], [], [' '], []] ++ [gapped width]) =
      cutDocument width :=
    Text.join_concat '\n' [['#', ' ', 'C'], [], [' '], []] (gapped width)
  have hlines : documentLines (cutDocument width) =
      [['#', ' ', 'C'], [], [' '], [], gapped width] := by
    rw [← hjoin, documentLines_join (by decide) (newline_not_mem_gapped width)]
    rfl
  have htitle : title? ['#', ' ', 'C'] = some ['C'] := by decide
  rw [sections_of_isTrimmed (isTrimmed_cutDocument width) nofun hlines]
  · rw [htitle, ← hjoin]
    rfl
  · simp only [List.forall_mem_cons]
    exact ⟨by decide, by decide, by decide, title?_gapped width, nofun⟩

theorem paragraphs_cutDocument (width : Nat) :
    paragraphs (cutDocument width) = [['#', ' ', 'C'], [' '], gapped width] := by
  have hlast : Parted (gapped width) [gapped width] :=
    .last fun hbreak => newline_not_mem_gapped width (hbreak.subset (by simp [paragraphBreak_eq]))
  have hletter : some 'a' ≠ some '\n' := by decide
  have hspace : some ' ' ≠ some '\n' := by decide
  have hmiddle : Parted (' ' :: '\n' :: '\n' :: gapped width) [[' '], gapped width] :=
    @Parted.more [' '] _ _ 0 (by decide) (by decide) hletter hlast
  have hfirst : Parted (cutDocument width) [['#', ' ', 'C'], [' '], gapped width] :=
    @Parted.more ['#', ' ', 'C'] _ _ 0 (by decide) (by decide) hspace hmiddle
  exact (parted_iff.mp hfirst).symm

/-- The document has no blank slice where its last paragraph ends within the second one. -/
theorem cutsVisibly_cutDocument {size width : Nat} (hsize : 3 < size)
    (hshort : width + 2 < 2 * size) : CutsVisibly size (cutDocument width) := by
  intro part hpart paragraph hparagraph slice hslice
  rw [sections_cutDocument, List.mem_singleton] at hpart
  subst hpart
  rw [Text.trim_eq_self_iff.mpr (isTrimmed_cutDocument width), paragraphs_cutDocument] at hparagraph
  simp only [List.mem_cons, List.not_mem_nil, or_false] at hparagraph
  obtain rfl | rfl | rfl := hparagraph
  · have hwhole := hslice.length_le
    have hline : (Text.trim ['#', ' ', 'C']).length = 3 := by decide
    omega
  · have hwhole := hslice.length_le
    have hline : (Text.trim [' ']).length = 0 := by decide
    omega
  · rw [Text.trim_eq_self_iff.mpr (isTrimmed_gapped width)] at hslice
    exact not_isBlankSlice_gapped hshort slice hslice

/-- The last paragraph is cut, and the provider is asked for both of its slices. -/
theorem chunks_visible_iff_refusingBlank :
    let text := cutDocument 5000
    let answering := Ingester.answering (fun _ => [.one]) (some (.integer 0))
    let run : Ingestion := { store := {} }
    (∃ part ∈ sections text, ∃ paragraph ∈ paragraphs (Text.trim part.content),
        3500 < (Text.trim paragraph).length) ∧
      CutsVisibly 3500 text ∧ answering.AgreeOnVisible refusingBlank ∧
      (∀ part ∈ sections text, ∀ chunk ∈ (chunks? {} part.content).getD [],
        ∃ c ∈ chunk.content, Text.isBlank c = false) ∧
      answering.ingestText "a.md" text run = refusingBlank.ingestText "a.md" text run ∧
      ∀ row ∈ (answering.ingestText "a.md" text run).1.store.table,
        row ∈ run.store.table ∨ ∃ c ∈ row.content, Text.isBlank c = false := by
  intro text answering run
  obtain ⟨hiff, hingested⟩ := chunks_visible_iff text
  have hcuts : CutsVisibly 3500 text := cutsVisibly_cutDocument (by omega) (by omega)
  have hagree : answering.AgreeOnVisible refusingBlank := by
    refine ⟨fun events visible hvisible => ?_, rfl, rfl⟩
    simp [answering, Ingester.answering, refusingBlank, hvisible]
  refine ⟨?_, hcuts, hagree, (hiff {}).mpr hcuts,
    hingested hcuts "a.md" run answering refusingBlank hagree⟩
  refine ⟨_, sections_cutDocument 5000 ▸ List.mem_singleton_self _, gapped 5000, ?_, ?_⟩
  · rw [Text.trim_eq_self_iff.mpr (isTrimmed_cutDocument 5000), paragraphs_cutDocument]
    exact List.mem_cons_of_mem _ (List.mem_cons_of_mem _ (List.mem_singleton_self _))
  · rw [Text.trim_eq_self_iff.mpr (isTrimmed_gapped 5000), gapped, List.length_append,
      List.length_cons, List.length_replicate]
    omega

/-- A document of one line, which is no heading, has each blank slice of the line as a chunk. -/
theorem exists_blank_chunk_of_line {line slice : Text} (hline : '\n' ∉ line)
    (htrimmed : Text.IsTrimmed line) (hsome : line ≠ []) (hplain : title? line = none)
    (hslice : IsBlankSlice 3500 line slice) :
    ∃ part ∈ sections line, ∃ chunk ∈ chunks {} part.content,
      ∀ c ∈ chunk.content, Text.isBlank c = true := by
  have hsections : sections line = [⟨untitled, line⟩] := by
    rw [sections_of_isTrimmed htrimmed hsome (documentLines_of_not_mem hline) nofun, hplain,
      Text.join_singleton]
    rfl
  have hparagraphs : paragraphs line = [line] := by
    refine (parted_iff.mp (.last fun hbreak => hline ?_)).symm
    exact hbreak.subset (by simp [paragraphBreak_eq])
  have htrim : Text.trim line = line := Text.trim_eq_self_iff.mpr htrimmed
  have hcontent : slice ∈ (chunks {} line).map Chunk.content := by
    rw [map_content_chunks, blank_mem_chunkTexts_iff {} line hslice.blank, htrim, hparagraphs]
    exact ⟨line, List.mem_singleton_self line, by rwa [htrim]⟩
  obtain ⟨chunk, hchunk, rfl⟩ := List.mem_map.mp hcontent
  refine ⟨⟨untitled, line⟩, ?_, chunk, hchunk, List.all_eq_true.mp hslice.blank⟩
  exact hsections ▸ List.mem_singleton_self _

/-- The second slice of a gapped text falls within its spaces. -/
theorem isBlankSlice_gapped {size : Nat} (hsize : 0 < size) (further : Nat) :
    IsBlankSlice size (gapped (size - 1 + size + further)) (List.replicate size ' ') where
  cut := by
    refine ⟨'a' :: List.replicate (size - 1) ' ', List.replicate further ' ' ++ ['b'], ?_, 1, ?_⟩
    · simp only [gapped, List.replicate_add, List.cons_append, List.append_assoc]
    · simp only [List.length_cons, List.length_replicate]
      omega
  whole := List.length_replicate
  ne_nil := by
    rw [Ne, List.replicate_eq_nil_iff]
    omega
  blank := by
    rw [Text.isBlankText, List.all_replicate]
    split_ifs
    · rfl
    · decide

theorem blank_chunk_of_gapped :
    ∃ part ∈ sections (gapped 7000), ∃ chunk ∈ chunks {} part.content,
      ∀ c ∈ chunk.content, Text.isBlank c = true :=
  exists_blank_chunk_of_line (newline_not_mem_gapped 7000) (isTrimmed_gapped 7000)
    (gapped_ne_nil 7000) (title?_gapped 7000) (isBlankSlice_gapped (by decide) 1)

end Markdown

end ScriptDocs
