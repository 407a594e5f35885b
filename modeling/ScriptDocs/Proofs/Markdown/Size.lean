/-
# The size of chunks

No chunk is empty or above the upper limit, and of two neighbours neither is below the lower
limit unless the two do not fit together. A chunk only grows while it is the last one, and a
longer chunk stands as well beside its neighbour; a slice that another one follows is as
long as a chunk may be, so that nothing fits together with it.
-/

import ScriptDocs.Proofs.Markdown.Collecting
import Mathlib.Data.List.Chain

namespace ScriptDocs.Markdown

/-- Two neighbours stay apart: both are long enough, or they do not fit together. -/
def Apart (limits : Limits) (a b : Text) : Prop :=
  (limits.least ≤ a.length ∧ limits.least ≤ b.length) ∨
    limits.most < a.length + 2 + b.length

/-- A chunk has some characters, and not more than fit. -/
def Fits (limits : Limits) (chunk : Text) : Prop :=
  1 ≤ chunk.length ∧ chunk.length ≤ limits.most

variable {limits : Limits}

theorem Apart.symm {a b : Text} (hapart : Apart limits a b) : Apart limits b a := by
  unfold Apart at hapart ⊢
  omega

/-- A chunk that has grown stands as well beside its neighbour. -/
theorem Apart.grow {a longer b : Text} (hlength : a.length ≤ longer.length)
    (hapart : Apart limits a b) : Apart limits longer b := by
  unfold Apart at hapart ⊢
  omega

/-- Nothing fits together with a chunk that is as long as a chunk may be. -/
theorem Apart.of_full {a : Text} (hfull : (a.length : Int) = limits.most) (b : Text) :
    Apart limits a b := by
  unfold Apart
  omega

/-- Slices fit, and all of them but the last one are full. -/
theorem Sliced.fits {size : Nat} (hsize : 1 ≤ size) {s : Text} {slices : List Text}
    (hsliced : Sliced size s slices) :
    (∀ slice ∈ slices, 1 ≤ slice.length ∧ slice.length ≤ size) ∧
      slices.IsChain fun slice _ => slice.length = size := by
  induction hsliced with
  | last hsome hfits =>
      refine ⟨?_, List.isChain_singleton _⟩
      simpa using ⟨List.length_pos_iff.mpr hsome, hfits⟩
  | more hfull _ ih =>
      refine ⟨List.forall_mem_cons.mpr ⟨by omega, ih.1⟩, ?_⟩
      exact List.isChain_cons.mpr ⟨fun _ _ => hfull, ih.2⟩

/-- Of what is longer than a slice the first slice is full. -/
theorem Sliced.full_first {size : Nat} {s : Text} {slices : List Text}
    (hsliced : Sliced size s slices) (hlong : size < s.length) :
    ∀ first ∈ slices.head?, first.length = size := by
  cases hsliced with
  | last _ hfits => omega
  | more hfull => simpa using hfull

/-- The slices of a paragraph that is too long, last one first, fit, stand apart, and stand
apart from whatever comes before them. -/
theorem slices_apart {paragraph : Text} (hmost : 1 ≤ limits.most)
    (hlong : limits.most < paragraph.length) :
    (∀ slice ∈ slices limits.most paragraph, Fits limits slice) ∧
      (slices limits.most paragraph).reverse.IsChain (Apart limits) ∧
      ∀ last ∈ (slices limits.most paragraph).reverse.getLast?, ∀ chunk,
        Apart limits last chunk := by
  have hsome : paragraph ≠ [] := by
    rintro rfl
    rw [List.length_nil] at hlong
    omega
  have hsliced := sliced_slices hmost hsome
  have hsize : (limits.most.toNat : Int) = limits.most := Int.toNat_of_nonneg (by omega)
  have hfull : ∀ slice : Text, slice.length = limits.most.toNat →
      ∀ chunk, Apart limits slice chunk := fun slice h =>
    Apart.of_full (by rw [h, hsize])
  obtain ⟨hfits, hchain⟩ := hsliced.fits (by omega)
  refine ⟨fun slice hslice => ?_, ?_, ?_⟩
  · obtain ⟨hleast, hmost⟩ := hfits slice hslice
    exact ⟨hleast, by omega⟩
  · rw [List.isChain_reverse]
    exact hchain.imp fun slice next h => (hfull slice h next).symm
  · rw [List.getLast?_reverse]
    exact fun last hlast => hfull last (hsliced.full_first (by omega) last hlast)

namespace Collection

/-- What holds between two paragraphs: the finished chunks fit and stand apart, and the collected
text is trimmed and fits. -/
structure Sized (limits : Limits) (state : Collection) : Prop where
  trimmed : Text.IsTrimmed state.collected
  collected : state.collected.length ≤ limits.most
  finished : ∀ chunk ∈ state.finished, Fits limits chunk
  apart : state.finished.IsChain (Apart limits)

variable {state : Collection}

/-- Closing gives chunks that fit and stand apart. -/
theorem Sized.closed (hsized : state.Sized limits) :
    (∀ chunk ∈ state.closed limits, Fits limits chunk) ∧
      (state.closed limits).IsChain (Apart limits) := by
  have hfinished := hsized.finished
  have hapart := hsized.apart
  rcases closed_cases limits hsized.trimmed with
    ⟨-, hclosed⟩ | ⟨previous, earlier, hsome, hstate, -, hfits, hclosed⟩ |
    ⟨hsome, hseparate, hclosed⟩
  · rw [hclosed]
    exact ⟨hfinished, hapart⟩
  · -- The last chunk grows, and the ones before it stay.
    rw [hstate] at hfinished hapart
    rw [hclosed]
    have hlength : (previous ++ paragraphBreak ++ state.collected).length =
        previous.length + 2 + state.collected.length := by
      simp only [List.length_append, length_paragraphBreak]
    refine ⟨List.forall_mem_cons.mpr ⟨⟨by omega, by rw [hlength]; exact_mod_cast hfits⟩, ?_⟩, ?_⟩
    · exact fun chunk hchunk => hfinished chunk (List.mem_cons_of_mem previous hchunk)
    · exact hapart.imp_head fun h => h.grow (by omega)
  · -- The collected text is a chunk of its own.
    rw [hclosed]
    have hone : 1 ≤ state.collected.length := List.length_pos_iff.mpr hsome
    refine ⟨List.forall_mem_cons.mpr ⟨⟨hone, hsized.collected⟩, hfinished⟩, ?_⟩
    refine List.isChain_cons.mpr ⟨fun previous hprevious => ?_, hapart⟩
    have hboth := hseparate previous hprevious
    unfold Apart
    omega

/-- One more paragraph keeps the sizes. -/
theorem Sized.take (hmost : 1 ≤ limits.most) (hsized : state.Sized limits) {paragraph : Text}
    (hsome : paragraph ≠ []) (hparagraph : Text.IsTrimmed paragraph) :
    (state.take limits paragraph).Sized limits := by
  have htrimmed := trimmed_take limits hsized.trimmed hsome hparagraph
  obtain ⟨hclosed, hapart⟩ := hsized.closed
  unfold Collection.take at htrimmed ⊢
  split_ifs at htrimmed ⊢ with hjoined hfits
  · exact ⟨htrimmed, hjoined, hsized.finished, hsized.apart⟩
  · exact ⟨htrimmed, hfits, hclosed, hapart⟩
  · obtain ⟨hslices, hchain, hlast⟩ := slices_apart hmost (Int.not_le.mp hfits)
    refine ⟨htrimmed, ?_, fun chunk hchunk => ?_, ?_⟩
    · rw [List.length_nil]
      omega
    · rw [List.mem_append, List.mem_reverse] at hchunk
      exact hchunk.elim (hslices chunk) (hclosed chunk)
    · exact hchain.append hapart fun last h chunk _ => hlast last h chunk

theorem Sized.foldl (hmost : 1 ≤ limits.most) (hsized : state.Sized limits) {parts : List Text}
    (hparts : Paragraphs parts) : (parts.foldl (Collection.take limits) state).Sized limits := by
  induction parts generalizing state with
  | nil => exact hsized
  | cons part parts ih =>
      obtain ⟨hsome, hpart⟩ := hparts part List.mem_cons_self
      exact ih (hsized.take hmost hsome hpart) fun other h =>
        hparts other (List.mem_cons_of_mem part h)

end Collection

/-- Every chunk of a section has between one character and as many as the upper limit says; and
of two neighbours both reach the lower limit, unless they do not fit together. -/
theorem chunks_sized (limits : Limits) (text : Text) (hmost : 1 ≤ limits.most) :
    ∃ contents, (chunks? limits text).map (List.map Chunk.content) = some contents ∧
      (∀ content ∈ contents, 1 ≤ content.length ∧ content.length ≤ limits.most) ∧
      contents.IsChain fun a b =>
        (limits.least ≤ a.length ∧ limits.least ≤ b.length) ∨
          limits.most < a.length + 2 + b.length := by
  have hstart : Collection.Sized limits {} :=
    ⟨Text.isTrimmed_nil, by simp; omega, by simp, List.isChain_nil⟩
  have hend := hstart.foldl hmost (paragraphs_solid (paragraphs (Text.trim text)))
  obtain ⟨hfits, hapart⟩ := hend.closed
  refine ⟨chunkTexts limits text, ?_, ?_, ?_⟩
  · rw [chunks?_of_positive hmost, Option.map_some, map_content_chunks]
  · intro content hcontent
    rw [Collection.chunkTexts_eq, List.mem_reverse] at hcontent
    exact hfits content hcontent
  · rw [Collection.chunkTexts_eq, List.isChain_reverse]
    exact hapart.imp fun later earlier h => h.symm

/-- A short paragraph that does not fit to the slices behind it, and a last slice that a short
paragraph is merged with. -/
theorem chunks_sized_of_shortParagraphs :
    let limits : Limits := { least := 3, most := 6 }
    let text : Text := "ab\n\ncdefghi\n\njk"
    1 ≤ limits.most ∧
    ∃ contents, (chunks? limits text).map (List.map Chunk.content) = some contents ∧
      contents = ["ab".toList, "cdefgh".toList, "i\n\njk".toList] ∧
      (∀ content ∈ contents, 1 ≤ content.length ∧ content.length ≤ limits.most) ∧
      contents.IsChain fun a b =>
        (limits.least ≤ a.length ∧ limits.least ≤ b.length) ∨
          limits.most < a.length + 2 + b.length := by
  intro limits text
  obtain ⟨contents, hcontents, hsized, hapart⟩ := chunks_sized limits text (by decide)
  refine ⟨by decide, contents, hcontents, ?_, hsized, hapart⟩
  rw [chunks?_of_positive (by decide), Option.map_some, map_content_chunks] at hcontents
  rw [← Option.some.inj hcontents]
  decide

end ScriptDocs.Markdown
