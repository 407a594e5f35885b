/-
# Collecting paragraph by paragraph

Between two paragraphs a section is known by its finished chunks and the text collected since.
The next paragraph goes behind the collected text, or closes it and is collected itself, or
closes it and is sliced; a blank one does nothing. The collected text is trimmed at every
moment, so that it is closed as it stands, and what follows never makes it shorter.
-/

import ScriptDocs.Proofs.Markdown.Partition

namespace ScriptDocs.Markdown

theorem length_paragraphBreak : paragraphBreak.length = 2 := rfl

@[simp]
theorem map_content_chunks (limits : Limits) (text : Text) :
    (chunks limits text).map Chunk.content = chunkTexts limits text := by
  simp [chunks, Function.comp_def]

/-- With a positive upper limit every section has chunks. -/
theorem chunks?_of_positive {limits : Limits} (hmost : 1 ≤ limits.most) (text : Text) :
    chunks? limits text = some (chunks limits text) :=
  if_neg fun h => by omega

/-- What is carried from paragraph to paragraph: the finished chunks, last first, and the text
collected since. -/
structure Collection where
  finished : List Text := []
  collected : Text := []

/-- The trimmed paragraphs that are not blank. -/
def solid (parts : List Text) : List Text :=
  (parts.map Text.trim).filter (· ≠ [])

theorem solid_cons_of_blank {part : Text} (hblank : Text.trim part = []) (parts : List Text) :
    solid (part :: parts) = solid parts := by
  simp [solid, hblank]

theorem solid_cons_of_solid {part : Text} (hsome : Text.trim part ≠ []) (parts : List Text) :
    solid (part :: parts) = Text.trim part :: solid parts := by
  simp [solid, hsome]

theorem paragraphs_solid (parts : List Text) : Paragraphs (solid parts) := by
  intro part hpart
  obtain ⟨hpart, hsome⟩ := List.mem_filter.mp hpart
  obtain ⟨raw, -, rfl⟩ := List.mem_map.mp hpart
  exact ⟨by simpa using hsome, Text.isTrimmed_trim raw⟩

namespace Collection

/-- The chunks, last first, if the collected text is closed now. -/
def closed (limits : Limits) (state : Collection) : List Text :=
  addCollected limits state.finished state.collected

/-- The collected text with one more paragraph. -/
def joinedWith (state : Collection) (paragraph : Text) : Text :=
  if state.collected.isEmpty then paragraph else state.collected ++ paragraphBreak ++ paragraph

/-- What one more paragraph makes of a collection. -/
def take (limits : Limits) (state : Collection) (paragraph : Text) : Collection :=
  if (state.joinedWith paragraph).length ≤ limits.most then
    { state with collected := state.joinedWith paragraph }
  else if paragraph.length ≤ limits.most then ⟨state.closed limits, paragraph⟩
  else ⟨(slices limits.most paragraph).reverse ++ state.closed limits, []⟩

/-- The chunks from the next paragraph on are those that taking the solid paragraphs one by one
and closing what is collected at the end gives. -/
theorem collect_eq (limits : Limits) (state : Collection) (parts : List Text) :
    collect limits state.finished state.collected parts =
      (((solid parts).foldl (take limits) state).closed limits).reverse := by
  induction parts generalizing state with
  | nil => rfl
  | cons part parts ih =>
      rw [collect]
      by_cases hblank : Text.trim part = []
      · simpa [hblank, solid_cons_of_blank] using ih state
      have hempty : (Text.trim part).isEmpty = false := by simpa using hblank
      simp only [hempty, Bool.false_eq_true, if_false]
      rw [solid_cons_of_solid hblank, List.foldl_cons, ← ih]
      change (if (state.joinedWith (Text.trim part)).length ≤ limits.most then
        collect limits state.finished (state.joinedWith (Text.trim part)) parts else _) = _
      unfold take
      split_ifs <;> rfl

theorem chunkTexts_eq (limits : Limits) (text : Text) :
    chunkTexts limits text =
      (((solid (paragraphs (Text.trim text))).foldl (take limits) {}).closed limits).reverse :=
  collect_eq limits {} _

variable {state : Collection} {paragraph : Text}

/-- Paragraphs are collected in a trimmed text, which is as long as each part of it. -/
theorem joinedWith_spec (hstate : Text.IsTrimmed state.collected) (hsome : paragraph ≠ [])
    (hparagraph : Text.IsTrimmed paragraph) :
    state.joinedWith paragraph ≠ [] ∧ Text.IsTrimmed (state.joinedWith paragraph) ∧
      state.collected.length ≤ (state.joinedWith paragraph).length ∧
      paragraph.length ≤ (state.joinedWith paragraph).length := by
  unfold joinedWith
  by_cases hnone : state.collected = []
  · simp [hnone, hsome, hparagraph]
  have hgroup : Paragraphs [state.collected, paragraph] := by
    simp [Paragraphs, hnone, hstate, hsome, hparagraph]
  have hjoin : Text.join paragraphBreak [state.collected, paragraph] =
      state.collected ++ paragraphBreak ++ paragraph := by
    simp [Text.join, List.intercalate_cons_cons]
  have hwhole := hgroup.join (List.cons_ne_nil _ _)
  rw [hjoin] at hwhole
  rw [if_neg (by simpa using hnone)]
  refine ⟨hwhole.1, hwhole.2, ?_, ?_⟩ <;>
    simp only [List.length_append] <;> omega

/-- One more paragraph leaves a trimmed text collected. -/
theorem trimmed_take (limits : Limits) (hstate : Text.IsTrimmed state.collected)
    (hsome : paragraph ≠ []) (hparagraph : Text.IsTrimmed paragraph) :
    Text.IsTrimmed (state.take limits paragraph).collected := by
  unfold take
  split_ifs
  · exact (joinedWith_spec hstate hsome hparagraph).2.1
  · exact hparagraph
  · exact Text.isTrimmed_nil

/-- What closing does to the finished chunks: nothing where nothing is collected; else the
collected text is merged with the last one, because one of them is too short and both fit
together, or it is put behind them. -/
theorem closed_cases (limits : Limits) (hstate : Text.IsTrimmed state.collected) :
    (state.collected = [] ∧ state.closed limits = state.finished) ∨
    (∃ previous earlier, state.collected ≠ [] ∧ state.finished = previous :: earlier ∧
      (state.collected.length < limits.least ∨ previous.length < limits.least) ∧
      previous.length + 2 + state.collected.length ≤ limits.most ∧
      state.closed limits = (previous ++ paragraphBreak ++ state.collected) :: earlier) ∨
    (state.collected ≠ [] ∧
      (∀ previous ∈ state.finished.head?,
        (limits.least ≤ state.collected.length ∧ limits.least ≤ previous.length) ∨
        limits.most < previous.length + 2 + state.collected.length) ∧
      state.closed limits = state.collected :: state.finished) := by
  obtain ⟨finished, collected⟩ := state
  dsimp only at hstate ⊢
  unfold closed addCollected
  simp only [Text.trim_eq_self_iff.mpr hstate]
  by_cases hnone : collected = []
  · exact Or.inl ⟨hnone, by simp [hnone]⟩
  have hempty : collected.isEmpty = false := by simpa using hnone
  simp only [hempty, Bool.false_eq_true, if_false]
  right
  cases finished with
  | nil => exact Or.inr ⟨hnone, by simp, rfl⟩
  | cons previous earlier =>
      have hlength : ((previous ++ paragraphBreak ++ collected).length : Int) =
          previous.length + 2 + collected.length := by
        simp only [List.length_append, length_paragraphBreak]
        omega
      simp only [hlength]
      split
      · rename_i hmerged
        exact Or.inl ⟨previous, earlier, hnone, rfl, hmerged.1, hmerged.2, rfl⟩
      · rename_i hseparate
        refine Or.inr ⟨hnone, ?_, rfl⟩
        intro other hother
        obtain rfl : previous = other := by simpa using hother
        omega

end Collection

end ScriptDocs.Markdown
