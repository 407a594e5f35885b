/-
# Blank chunks

Blank sections, blank paragraphs and blank collected texts are dropped, so that a chunk is blank
only where a paragraph is cut: there a whole slice may fall within white space. The last slice of a
paragraph ends with its last character, which is visible, so nothing that is collected later is
merged with a blank slice, and every blank slice stays a chunk of its own.
-/

import ScriptDocs.Proofs.Markdown.Collecting

namespace ScriptDocs

namespace Markdown

/-- A whole slice of a text, cut at a multiple of the size, that holds nothing but white space. -/
structure IsBlankSlice (size : Nat) (s slice : Text) : Prop where
  cut : ∃ before behind, s = before ++ slice ++ behind ∧ size ∣ before.length
  whole : slice.length = size
  ne_nil : slice ≠ []
  blank : Text.isBlankText slice = true

section Slices

variable {size : Nat} {s slice : Text} {slices : List Text}

theorem IsBlankSlice.length_le (hslice : IsBlankSlice size s slice) : size ≤ s.length := by
  obtain ⟨⟨before, behind, rfl, -⟩, rfl, -, -⟩ := hslice
  simp only [List.length_append]
  omega

/-- What ends with a visible character is longer than any blank slice of it. -/
theorem IsBlankSlice.length_lt (hslice : IsBlankSlice size s slice)
    (hend : ∀ c, s.getLast? = some c → Text.isBlank c = false) : size < s.length := by
  obtain ⟨⟨before, behind, rfl, -⟩, rfl, hsome, hblank⟩ := hslice
  have hbehind : behind ≠ [] := by
    rintro rfl
    have hvisible := Text.isBlankText_eq_false_of_getLast? hsome fun c hc => hend c (by
      rw [List.append_nil, List.getLast?_append_of_ne_nil _ hsome, hc])
    rw [hblank] at hvisible
    cases hvisible
  have hpos := List.length_pos_iff.mpr hbehind
  simp only [List.length_append]
  omega

/-- The blank slices of a text with one more slice in front. -/
theorem isBlankSlice_append_iff {first rest : Text} (hsize : 0 < size)
    (hfull : first.length = size) :
    IsBlankSlice size (first ++ rest) slice ↔
      slice = first ∧ Text.isBlankText first = true ∨ IsBlankSlice size rest slice := by
  constructor
  · rintro ⟨⟨before, behind, hwhole, further, hbefore⟩, hlength, hsome, hblank⟩
    rw [List.append_assoc] at hwhole
    cases further with
    | zero =>
        obtain rfl := List.length_eq_zero_iff.mp hbefore
        rw [List.nil_append] at hwhole
        obtain ⟨hfirst, -⟩ := List.append_inj hwhole (hfull.trans hlength.symm)
        exact Or.inl ⟨hfirst.symm, hfirst ▸ hblank⟩
    | succ further =>
        -- The first slice lies before the blank one.
        have hlonger : first.length ≤ before.length := by
          rw [hfull, hbefore]
          exact Nat.le_mul_of_pos_right size (Nat.succ_pos further)
        obtain ⟨between, rfl⟩ := List.prefix_of_prefix_length_le (List.prefix_append first rest)
          (hwhole ▸ List.prefix_append before _) hlonger
        rw [List.append_assoc, List.append_cancel_left_eq] at hwhole
        refine Or.inr ⟨⟨between, behind, by rw [hwhole, List.append_assoc], further, ?_⟩,
          hlength, hsome, hblank⟩
        rw [List.length_append, hfull, Nat.mul_succ] at hbefore
        omega
  · rintro (⟨rfl, hblank⟩ | ⟨⟨before, behind, rfl, hbefore⟩, hlength, hsome, hblank⟩)
    · have hsome : slice ≠ [] := List.length_pos_iff.mp (hfull ▸ hsize)
      exact ⟨⟨[], rest, rfl, Nat.dvd_zero size⟩, hfull, hsome, hblank⟩
    · refine ⟨⟨first ++ before, behind, by simp, ?_⟩, hlength, hsome, hblank⟩
      rw [List.length_append, hfull]
      exact (Nat.dvd_add_right (Nat.dvd_refl size)).mpr hbefore

/-- Of a text that ends with a visible character the slices that are blank are whole ones, and the
last slice is none of them. -/
theorem Sliced.blank_iff (hsize : 0 < size) (hsliced : Sliced size s slices)
    (hend : ∀ c, s.getLast? = some c → Text.isBlank c = false) :
    (∀ slice, slice ∈ slices ∧ Text.isBlankText slice = true ↔ IsBlankSlice size s slice) ∧
      ∀ last ∈ slices.getLast?, Text.isBlankText last = false := by
  induction hsliced with
  | @last only hsome hfits =>
      have hvisible := Text.isBlankText_eq_false_of_getLast? hsome hend
      refine ⟨fun slice => ?_, by simpa using hvisible⟩
      constructor
      · rintro ⟨hslice, hblank⟩
        rw [List.mem_singleton.mp hslice, hvisible] at hblank
        cases hblank
      · exact fun hslice => absurd (hslice.length_lt hend) (Nat.not_lt.mpr hfits)
  | @more first rest slices hfull hrest ih =>
      have hsome : rest ≠ [] ∧ slices ≠ [] := by
        cases hrest with
        | last hsome _ => exact ⟨hsome, List.cons_ne_nil _ _⟩
        | more hfull _ =>
            refine ⟨List.append_ne_nil_of_left_ne_nil ?_ _, List.cons_ne_nil _ _⟩
            exact List.length_pos_iff.mp (hfull ▸ hsize)
      rw [List.getLast?_append_of_ne_nil _ hsome.1] at hend
      obtain ⟨hblanks, hlast⟩ := ih hend
      refine ⟨fun slice => ?_, ?_⟩
      · rw [isBlankSlice_append_iff hsize hfull, ← hblanks slice, List.mem_cons, or_and_right]
        refine or_congr_left (and_congr_right ?_)
        rintro rfl
        rfl
      · rwa [List.getLast?_cons_of_ne_nil hsome.2]

end Slices

/-- The slices of a paragraph that are blank, for any upper limit. -/
theorem blank_slices_iff (most : Int) {paragraph : Text} (hsome : paragraph ≠ [])
    (hparagraph : Text.IsTrimmed paragraph) :
    (∀ slice, slice ∈ slices most paragraph ∧ Text.isBlankText slice = true ↔
        IsBlankSlice most.toNat paragraph slice) ∧
      ∀ last ∈ (slices most paragraph).getLast?, Text.isBlankText last = false := by
  by_cases hmost : 1 ≤ most
  · exact (sliced_slices hmost hsome).blank_iff (by omega) hparagraph.2
  · -- There are no slices of a size that is not positive.
    have hnone : slices most paragraph = [] := if_pos (by omega)
    rw [hnone]
    refine ⟨fun slice => iff_of_false (fun h => List.not_mem_nil h.1) fun hslice => ?_, nofun⟩
    have hlength := hslice.whole
    exact hslice.ne_nil (List.length_eq_zero_iff.mp (by omega))

namespace Collection

/-- What holds between two paragraphs: the collected text is trimmed, and the last finished chunk is
not blank. -/
structure Visible (state : Collection) : Prop where
  trimmed : Text.IsTrimmed state.collected
  last : ∀ chunk ∈ state.finished.head?, Text.isBlankText chunk = false

variable {limits : Limits} {state : Collection} {content paragraph : Text}

/-- Closing neither makes a blank chunk nor takes one away. -/
theorem Visible.closed (hvisible : state.Visible) (limits : Limits) :
    (∀ content, Text.isBlankText content = true →
        (content ∈ state.closed limits ↔ content ∈ state.finished)) ∧
      ∀ chunk ∈ (state.closed limits).head?, Text.isBlankText chunk = false := by
  have hother : ∀ {content other : Text}, Text.isBlankText content = true →
      Text.isBlankText other = false → content ≠ other := by
    rintro content other hblank hink rfl
    rw [hblank] at hink
    cases hink
  rcases closed_cases limits hvisible.trimmed with
    ⟨-, hclosed⟩ | ⟨previous, earlier, hsome, hstate, -, -, hclosed⟩ | ⟨hsome, -, hclosed⟩
  · rw [hclosed]
    exact ⟨fun _ _ => Iff.rfl, hvisible.last⟩
  · -- The collected text is merged with the last chunk, which was not blank before.
    have hprevious : Text.isBlankText previous = false :=
      hvisible.last previous (by rw [hstate]; rfl)
    have hmerged : Text.isBlankText (previous ++ paragraphBreak ++ state.collected) = false := by
      rw [Text.isBlankText_append, hvisible.trimmed.isBlankText_eq_false hsome, Bool.and_false]
    rw [hclosed, hstate]
    refine ⟨fun content hblank => ?_, by simpa using hmerged⟩
    rw [List.mem_cons, List.mem_cons, or_iff_right (hother hblank hmerged),
      or_iff_right (hother hblank hprevious)]
  · have hcollected := hvisible.trimmed.isBlankText_eq_false hsome
    rw [hclosed]
    refine ⟨fun content hblank => ?_, by simpa using hcollected⟩
    simp [hother hblank hcollected]

/-- One more paragraph adds its blank slices and no other blank chunk. -/
theorem Visible.take (hvisible : state.Visible) (hsome : paragraph ≠ [])
    (hparagraph : Text.IsTrimmed paragraph) (limits : Limits) :
    (state.take limits paragraph).Visible ∧ ∀ content, Text.isBlankText content = true →
      (content ∈ (state.take limits paragraph).finished ↔
        content ∈ state.finished ∨ IsBlankSlice limits.most.toNat paragraph content) := by
  have htrimmed := trimmed_take limits hvisible.trimmed hsome hparagraph
  obtain ⟨hblanks, hlast⟩ := hvisible.closed limits
  have hwhole : (paragraph.length : Int) ≤ limits.most →
      ∀ content, ¬ IsBlankSlice limits.most.toNat paragraph content := by
    intro hfits content hslice
    have hlong := hslice.length_lt hparagraph.2
    omega
  have hjoined := (joinedWith_spec hvisible.trimmed hsome hparagraph).2.2.2
  have hslices := blank_slices_iff limits.most hsome hparagraph
  unfold Collection.take at htrimmed ⊢
  split_ifs at htrimmed ⊢ with hcollects hfits
  · refine ⟨⟨htrimmed, hvisible.last⟩, fun content _ => ?_⟩
    rw [or_iff_left (hwhole (by omega) content)]
  · refine ⟨⟨htrimmed, hlast⟩, fun content hblank => ?_⟩
    rw [or_iff_left (hwhole hfits content), hblanks content hblank]
  · refine ⟨⟨htrimmed, ?_⟩, fun content hblank => ?_⟩
    · rw [List.head?_append, List.head?_reverse]
      cases hcut : (slices limits.most paragraph).getLast? with
      | none => exact hlast
      | some last => simpa using hslices.2 last hcut
    · rw [List.mem_append, List.mem_reverse, hblanks content hblank, ← hslices.1 content,
        and_iff_left hblank, or_comm]

theorem Visible.foldl (hvisible : state.Visible) {parts : List Text} (hparts : Paragraphs parts)
    (limits : Limits) :
    (parts.foldl (Collection.take limits) state).Visible ∧
      ∀ content, Text.isBlankText content = true →
        (content ∈ (parts.foldl (Collection.take limits) state).finished ↔
          content ∈ state.finished ∨
            ∃ part ∈ parts, IsBlankSlice limits.most.toNat part content) := by
  induction parts generalizing state with
  | nil => exact ⟨hvisible, by simp⟩
  | cons part parts ih =>
      obtain ⟨hsome, hpart⟩ := hparts part List.mem_cons_self
      obtain ⟨htaken, hblanks⟩ := hvisible.take hsome hpart limits
      obtain ⟨hlast, hrest⟩ := ih htaken fun other h => hparts other (List.mem_cons_of_mem part h)
      refine ⟨hlast, fun content hblank => ?_⟩
      rw [List.foldl_cons, hrest content hblank, hblanks content hblank, List.exists_mem_cons_iff,
        or_assoc]

end Collection

/-- A blank text is a chunk of a section just where it is a whole slice of one of its paragraphs. -/
theorem blank_mem_chunkTexts_iff (limits : Limits) (text : Text) {content : Text}
    (hblank : Text.isBlankText content = true) :
    content ∈ chunkTexts limits text ↔ ∃ paragraph ∈ paragraphs (Text.trim text),
      IsBlankSlice limits.most.toNat (Text.trim paragraph) content := by
  have hstart : Collection.Visible {} := ⟨Text.isTrimmed_nil, nofun⟩
  obtain ⟨hend, hblanks⟩ :=
    hstart.foldl (paragraphs_solid (paragraphs (Text.trim text))) limits
  rw [Collection.chunkTexts_eq, List.mem_reverse, (hend.closed limits).1 content hblank,
    hblanks content hblank, or_iff_right List.not_mem_nil]
  constructor
  · rintro ⟨part, hpart, hslice⟩
    obtain ⟨paragraph, hparagraph, rfl⟩ := List.mem_map.mp (List.mem_filter.mp hpart).1
    exact ⟨paragraph, hparagraph, hslice⟩
  · rintro ⟨paragraph, hparagraph, hslice⟩
    refine ⟨Text.trim paragraph, List.mem_filter.mpr ⟨List.mem_map_of_mem hparagraph, ?_⟩, hslice⟩
    rw [decide_eq_true_eq]
    intro hnone
    obtain ⟨⟨before, behind, hwhole, -⟩, -, hsome, -⟩ := hslice
    rw [hnone] at hwhole
    simp [hsome] at hwhole

/-- So it is for any upper limit, also where a paragraph would have to be cut into slices of size
zero. -/
theorem blank_mem_chunks?_iff (limits : Limits) (text : Text) {content : Text}
    (hblank : Text.isBlankText content = true) :
    content ∈ ((chunks? limits text).getD []).map Chunk.content ↔
      ∃ paragraph ∈ paragraphs (Text.trim text),
        IsBlankSlice limits.most.toNat (Text.trim paragraph) content := by
  unfold chunks?
  split_ifs with hnone
  · refine iff_of_false List.not_mem_nil ?_
    rintro ⟨paragraph, -, hslice⟩
    have hlength := hslice.whole
    rw [hnone.1] at hlength
    exact hslice.ne_nil (List.length_eq_zero_iff.mp hlength)
  · rw [Option.getD_some, map_content_chunks, blank_mem_chunkTexts_iff limits text hblank]

end Markdown

end ScriptDocs
