/-
# Chunks as a partition of the paragraphs

Chunking loses, repeats and reorders nothing. The paragraphs of a section, those that are
too long in slices, are its pieces, and the chunks are the joined groups of an ordered
partition of the pieces. What is carried along the paragraphs is the partition so far: the
groups of the finished chunks and the group of the collected text, which is merged as a
whole or stands alone. Only a paragraph above the upper limit is ever cut.
-/

import ScriptDocs.Proofs.Markdown.Paragraph
import ScriptDocs.Proofs.Text.Blank
import ScriptDocs.Proofs.Text.Pieces

namespace ScriptDocs.Markdown

/-- Consecutive slices of one size, of which the last one may be shorter. -/
inductive Sliced (size : Nat) : Text → List Text → Prop
  | last {slice : Text} (hsome : slice ≠ []) (hfits : slice.length ≤ size) :
      Sliced size slice [slice]
  | more {slice rest : Text} {slices : List Text} (hfull : slice.length = size)
      (hrest : Sliced size rest slices) : Sliced size (slice ++ rest) (slice :: slices)

/-- The pieces of what stands between the breaks of a section, each trimmed first: nothing for
a blank part, a paragraph up to the limit as it is, and a longer one in slices. -/
inductive PiecesOf (most : Int) : List Text → List Text → Prop
  | nil : PiecesOf most [] []
  | blank {part : Text} {parts pieces : List Text} (hblank : Text.trim part = [])
      (hrest : PiecesOf most parts pieces) : PiecesOf most (part :: parts) pieces
  | whole {part : Text} {parts pieces : List Text} (hsome : Text.trim part ≠ [])
      (hfits : (Text.trim part).length ≤ most) (hrest : PiecesOf most parts pieces) :
      PiecesOf most (part :: parts) (Text.trim part :: pieces)
  | sliced {part : Text} {parts slices pieces : List Text} (hlong : most < (Text.trim part).length)
      (hslices : Sliced most.toNat (Text.trim part) slices) (hrest : PiecesOf most parts pieces) :
      PiecesOf most (part :: parts) (slices ++ pieces)

/-- As many slices as there are characters are enough. -/
theorem sliced_someSlices {size count : Nat} {s : Text} (hsize : 0 < size) (hsome : s ≠ [])
    (hcount : s.length ≤ count) : Sliced size s (someSlices size count s) := by
  induction count generalizing s with
  | zero => exact absurd (List.length_eq_zero_iff.mp (Nat.le_zero.mp hcount)) hsome
  | succ count ih =>
      have hfront : someSlices size (count + 1) s =
          s.take size :: someSlices size count (s.drop size) := by
        simp [someSlices, hsome]
      rw [hfront]
      by_cases hfits : s.length ≤ size
      · have hrest : someSlices size count (s.drop size) = [] := by
          rw [List.drop_eq_nil_of_le hfits]
          cases count <;> rfl
        rw [hrest, List.take_of_length_le hfits]
        exact .last hsome hfits
      · rw [not_le] at hfits
        have hrest : s.drop size ≠ [] := by simpa using hfits
        have hslices := ih hrest (by rw [List.length_drop]; omega)
        have hfull : (s.take size).length = size := by
          rw [List.length_take, Nat.min_eq_left hfits.le]
        simpa using Sliced.more hfull hslices

theorem sliced_slices {most : Int} {s : Text} (hmost : 1 ≤ most) (hsome : s ≠ []) :
    Sliced most.toNat s (slices most s) := by
  rw [slices, if_neg (by omega)]
  exact sliced_someSlices (by omega) hsome le_rfl

section Join

variable {separator : Text}

/-- Two groups that are joined one behind the other are joined as one. -/
theorem join_append {first second : List Text} (hfirst : first ≠ []) (hsecond : second ≠ []) :
    Text.join separator (first ++ second) =
      Text.join separator first ++ separator ++ Text.join separator second := by
  induction first with
  | nil => exact absurd rfl hfirst
  | cons part first ih =>
      cases first with
      | nil =>
          obtain ⟨next, second, rfl⟩ := List.exists_cons_of_ne_nil hsecond
          simp [Text.join, List.intercalate_cons_cons]
      | cons next first =>
          have hrest := ih (List.cons_ne_nil next first)
          unfold Text.join at hrest ⊢
          simp only [List.cons_append, List.intercalate_cons_cons, List.append_assoc] at hrest ⊢
          rw [hrest]

end Join

/-- Paragraphs as they are collected: trimmed, and none of them blank. -/
def Paragraphs (group : List Text) : Prop :=
  ∀ part ∈ group, part ≠ [] ∧ Text.IsTrimmed part

namespace Paragraphs

theorem trim_of_ne_nil {raw : Text} (hsome : Text.trim raw ≠ []) :
    Paragraphs [Text.trim raw] := by
  simpa [Paragraphs] using ⟨hsome, Text.isTrimmed_trim raw⟩

theorem append {first second : List Text} (hfirst : Paragraphs first)
    (hsecond : Paragraphs second) : Paragraphs (first ++ second) := fun part hpart =>
  (List.mem_append.mp hpart).elim (hfirst part) (hsecond part)

/-- Joined paragraphs neither begin nor end with white space. -/
theorem join {group : List Text} (hgroup : Paragraphs group) (hsome : group ≠ []) :
    Text.join paragraphBreak group ≠ [] ∧ Text.IsTrimmed (Text.join paragraphBreak group) := by
  induction group with
  | nil => exact absurd rfl hsome
  | cons part group ih =>
      obtain ⟨hpart, htrimmed⟩ := hgroup part List.mem_cons_self
      cases group with
      | nil => rw [Text.join_singleton]; exact ⟨hpart, htrimmed⟩
      | cons next group =>
          obtain ⟨hrest, hlast⟩ := ih (fun p hp => hgroup p (List.mem_cons_of_mem part hp))
            (List.cons_ne_nil next group)
          rw [← List.singleton_append, join_append (List.cons_ne_nil part [])
            (List.cons_ne_nil next group), Text.join_singleton, List.append_assoc]
          refine ⟨by simp [hpart], fun c hc => htrimmed.1 c ?_, fun c hc => hlast.2 c ?_⟩
          · rwa [List.head?_append_of_ne_nil _ hpart] at hc
          · rwa [List.getLast?_append_of_ne_nil _ (by simp [hrest]),
              List.getLast?_append_of_ne_nil _ hrest] at hc

theorem trim_join {group : List Text} (hgroup : Paragraphs group) :
    Text.trim (Text.join paragraphBreak group) = Text.join paragraphBreak group := by
  by_cases hsome : group = []
  · rw [hsome]; rfl
  · exact Text.trim_eq_self_iff.mpr (hgroup.join hsome).2

theorem join_isEmpty {group : List Text} (hgroup : Paragraphs group) :
    (Text.join paragraphBreak group).isEmpty = group.isEmpty := by
  cases group with
  | nil => rfl
  | cons part group => simpa using (hgroup.join (List.cons_ne_nil part group)).1

end Paragraphs

/-- The chunks that groups of pieces make. -/
def joined (groups : List (List Text)) : List Text :=
  groups.map (Text.join paragraphBreak)

/-- Collected paragraphs become a group of their own or go to the last group as a whole. -/
theorem exists_groups_addCollected (limits : Limits) {groups : List (List Text)}
    {group : List Text} (hgroups : [] ∉ groups) (hgroup : Paragraphs group) :
    ∃ later, [] ∉ later ∧
      addCollected limits (joined groups) (Text.join paragraphBreak group) = joined later ∧
      later.reverse.flatten = groups.reverse.flatten ++ group := by
  unfold addCollected
  simp only [hgroup.trim_join, hgroup.join_isEmpty]
  by_cases hnone : group = []
  · subst hnone
    exact ⟨groups, hgroups, rfl, by simp⟩
  have hempty : group.isEmpty = false := by simpa using hnone
  have hseparate : [] ∉ group :: groups := by
    rw [List.mem_cons, not_or]
    exact ⟨Ne.symm hnone, hgroups⟩
  simp only [hempty, Bool.false_eq_true, if_false]
  cases groups with
  | nil => exact ⟨[group], hseparate, rfl, by simp⟩
  | cons previous earlier =>
      rw [List.mem_cons, not_or] at hgroups
      simp only [joined, List.map_cons]
      split
      · refine ⟨(previous ++ group) :: earlier, ?_, ?_, by simp⟩
        · rw [List.mem_cons, not_or]
          exact ⟨by simp [hnone], hgroups.2⟩
        · rw [List.map_cons, join_append (Ne.symm hgroups.1) hnone]
      · exact ⟨group :: previous :: earlier, hseparate, rfl, by simp⟩

/-- A paragraph that is put behind the collected ones is the last one of their group. -/
theorem join_concat {group : List Text} (hgroup : Paragraphs group) (paragraph : Text) :
    (if (Text.join paragraphBreak group).isEmpty then paragraph
      else Text.join paragraphBreak group ++ paragraphBreak ++ paragraph) =
      Text.join paragraphBreak (group ++ [paragraph]) := by
  rw [hgroup.join_isEmpty]
  cases group with
  | nil => rw [List.nil_append, Text.join_singleton]; rfl
  | cons part group =>
      rw [join_append (List.cons_ne_nil part group) (List.cons_ne_nil paragraph []),
        Text.join_singleton]
      rfl

/-- What fits together with the collected paragraphs fits by itself. -/
theorem length_le_length_join_concat {group : List Text} (hgroup : Paragraphs group)
    (paragraph : Text) :
    paragraph.length ≤ (Text.join paragraphBreak (group ++ [paragraph])).length := by
  rw [← join_concat hgroup]
  split
  · exact le_rfl
  · simp only [List.length_append]
    omega

/-- Slices are finished chunks, each a group of its own. -/
theorem joined_slices (slices : List Text) (groups : List (List Text)) :
    joined ((slices.map ([·])).reverse ++ groups) = slices.reverse ++ joined groups := by
  simp [joined, Text.join_singleton, Function.comp_def]

/-- From any partition so far, the chunks are the partition with the pieces of the further
paragraphs behind it. -/
theorem exists_groups_collect {limits : Limits} (hmost : 1 ≤ limits.most) (parts : List Text)
    {groups : List (List Text)} {group : List Text} (hgroups : [] ∉ groups)
    (hgroup : Paragraphs group) :
    ∃ pieces final, PiecesOf limits.most parts pieces ∧ [] ∉ final ∧
      collect limits (joined groups) (Text.join paragraphBreak group) parts = joined final ∧
      final.flatten = groups.reverse.flatten ++ group ++ pieces := by
  induction parts generalizing groups group with
  | nil =>
      obtain ⟨later, hlater, hadded, hflat⟩ := exists_groups_addCollected limits hgroups hgroup
      refine ⟨[], later.reverse, .nil, by simpa using hlater, ?_, by simp [hflat]⟩
      rw [collect, hadded, joined, joined, List.map_reverse]
  | cons part parts ih =>
      rw [collect]
      simp only [join_concat hgroup]
      by_cases hblank : Text.trim part = []
      · obtain ⟨pieces, final, hpieces, hfinal⟩ := ih hgroups hgroup
        exact ⟨pieces, final, .blank hblank hpieces, by simpa [hblank] using hfinal⟩
      have hempty : (Text.trim part).isEmpty = false := by simpa using hblank
      simp only [hempty, Bool.false_eq_true, if_false]
      have hparagraph := Paragraphs.trim_of_ne_nil hblank
      split
      · -- It fits behind the collected paragraphs.
        rename_i hjoined
        have hfits : ((Text.trim part).length : Int) ≤ limits.most :=
          Int.le_trans (Int.ofNat_le.mpr (length_le_length_join_concat hgroup _)) hjoined
        obtain ⟨pieces, final, hpieces, hfinal, hcollect, hflat⟩ :=
          ih hgroups (hgroup.append hparagraph)
        exact ⟨_, final, .whole hblank hfits hpieces, hfinal, hcollect, by simp [hflat]⟩
      obtain ⟨later, hlater, hadded, hflat⟩ := exists_groups_addCollected limits hgroups hgroup
      rw [hadded]
      split
      · -- It begins a new collection.
        rename_i hfits
        obtain ⟨pieces, final, hpieces, hfinal, hcollect, hwhole⟩ := ih hlater hparagraph
        rw [Text.join_singleton] at hcollect
        exact ⟨_, final, .whole hblank hfits hpieces, hfinal, hcollect, by simp [hwhole, hflat]⟩
      · -- It is sliced, and nothing is left collected.
        rename_i hlong
        have hslices := sliced_slices hmost hblank
        rw [← joined_slices]
        generalize slices limits.most (Text.trim part) = cut at hslices ⊢
        have hlater' : [] ∉ (cut.map ([·])).reverse ++ later := by simp [hlater]
        have hnothing : Paragraphs [] := fun _ hpart => absurd hpart List.not_mem_nil
        obtain ⟨pieces, final, hpieces, hfinal, hcollect, hwhole⟩ := ih hlater' hnothing
        have hcut : (cut.map ([·])).flatten = cut := List.flatMap_singleton' cut
        exact ⟨_, final, .sliced (Int.not_le.mp hlong) hslices hpieces, hfinal, hcollect,
          by simp [hwhole, hflat, hcut]⟩

/-- The chunks of a section are, in order, the joined groups of an ordered partition of the
pieces of its paragraphs: every piece is in exactly one chunk, none is split between two, and
a paragraph up to the upper limit is a piece as it is. -/
theorem chunks_partition (limits : Limits) (text : Text) (hmost : 1 ≤ limits.most) :
    ∃ (parts pieces : List Text) (groups : List (List Text)),
      Parted (Text.trim text) parts ∧ PiecesOf limits.most parts pieces ∧
      (∀ group ∈ groups, group ≠ []) ∧ groups.flatten = pieces ∧
      (chunks? limits text).map (List.map Chunk.content) =
        some (groups.map (Text.join paragraphBreak)) := by
  have hnothing : Paragraphs [] := fun _ hpart => absurd hpart List.not_mem_nil
  have hnone : [] ∉ ([] : List (List Text)) := List.not_mem_nil
  obtain ⟨pieces, groups, hpieces, hsome, hcollect, hflat⟩ :=
    exists_groups_collect hmost (paragraphs (Text.trim text)) hnone hnothing
  refine ⟨_, pieces, groups, parted_paragraphs _, hpieces, ?_, hflat, ?_⟩
  · rintro group hgroup rfl
    exact hsome hgroup
  · have hlimit : ¬ (limits.most = 0 ∧ !Text.isBlankText text) := by omega
    rw [chunks?, if_neg hlimit, Option.map_some, chunks, List.map_map]
    exact congrArg some ((List.map_id _).trans hcollect)

/-- A short paragraph, one that is sliced, and a short one that goes to the last slice. -/
theorem chunks_partition_mergedSlice :
    let limits : Limits := { least := 2, most := 5 }
    let text : Text := " a\n\nbcdefgh\n\n\n i"
    1 ≤ limits.most ∧ chunkTexts limits text = ["a".toList, "bcdef".toList, "gh\n\ni".toList] ∧
      ∃ (parts pieces : List Text) (groups : List (List Text)),
        Parted (Text.trim text) parts ∧ PiecesOf limits.most parts pieces ∧
        (∀ group ∈ groups, group ≠ []) ∧ groups.flatten = pieces ∧
        (chunks? limits text).map (List.map Chunk.content) =
          some (groups.map (Text.join paragraphBreak)) := by
  intro limits text
  exact ⟨by decide, by decide, chunks_partition limits text (by decide)⟩

end ScriptDocs.Markdown
