/-
# Headings and the white space around them

An indent of at most three blanks makes no difference to a heading, and a wider one makes it none.
White space at its end makes no difference to its title, and where the title is visible it makes
none to whether the line is a heading. A heading without a visible title needs white space behind
its marks, and so it is none once it is trimmed.
-/

import ScriptDocs.Proofs.Markdown.Outline

namespace ScriptDocs.Markdown

theorem HeadingOf.isBlankText_eq_false {line words : Text} (hheading : HeadingOf line words) :
    Text.isBlankText line = false := by
  cases hheading with
  | @intro indent gap words tail marks hindent hshort hsome hmost hgap hblank hwords htail =>
      have hmark : '#' ∈ List.replicate marks '#' := by simp; omega
      refine Bool.eq_false_iff.mpr fun hall => ?_
      have hmarkBlank := List.all_eq_true.mp hall '#' (by simp [hmark])
      exact absurd hmarkBlank (by decide)

/-- A line is a heading as far as it is one without its indent, if that is not too wide. -/
theorem title?_eq (line : Text) :
    title? line =
      if (line.takeWhile Text.isBlank).length ≤ 3 then title? (Text.trimLeft line) else none := by
  have hmarked : (Text.trimLeft line).dropWhile Text.isBlank = line.dropWhile Text.isBlank :=
    List.dropWhile_idempotent Text.isBlank line
  have hindent : (Text.trimLeft line).takeWhile Text.isBlank = [] := by
    have hwhole := List.takeWhile_append_dropWhile (p := Text.isBlank) (l := Text.trimLeft line)
    rw [hmarked] at hwhole
    exact List.append_left_eq_self.mp hwhole
  unfold title? afterMarks?
  simp only [hmarked, hindent]
  by_cases hshort : (line.takeWhile Text.isBlank).length ≤ 3
  · simp [hshort]
  · simp [hshort]

theorem HeadingOf.append_blanks {line words back : Text} (hheading : HeadingOf line words)
    (hback : ∀ c ∈ back, Text.isBlank c = true) : HeadingOf (line ++ back) words := by
  cases hheading with
  | @intro indent gap words tail marks hindent hshort hsome hmost hgap hblank hwords htail =>
      have htails : ∀ c ∈ tail ++ back, Text.isBlank c = true := fun c hc =>
        (List.mem_append.mp hc).elim (htail c) (hback c)
      have hlonger := HeadingOf.intro hindent hshort hsome hmost hgap hblank hwords htails
      simpa using hlonger

theorem title?_append_blanks {line back title : Text} (hback : ∀ c ∈ back, Text.isBlank c = true)
    (htitle : title? line = some title) : title? (line ++ back) = some title := by
  obtain ⟨words, hheading, rfl⟩ := title?_eq_some_iff.mp htitle
  exact title?_eq_some_iff.mpr ⟨words, hheading.append_blanks hback, rfl⟩

/-- A heading with a visible title ends with it, but for white space. -/
theorem title?_trimRight {line title : Text} (htitle : title? line = some title)
    (hvisible : title ≠ []) : title? (Text.trimRight line) = some title := by
  obtain ⟨words, hheading, rfl⟩ := title?_eq_some_iff.mp htitle
  obtain ⟨back, hwords, hback⟩ := Text.exists_blanks_behind_trimRight words
  have hink : Text.isBlankText words = false :=
    Bool.eq_false_iff.mpr fun hblank => hvisible (Text.isBlankText_iff.mp hblank)
  have hsome : Text.trimRight words ≠ [] := by
    intro hnone
    rw [hnone] at hwords
    exact hvisible (Text.trim_eq_nil_iff.mpr (hwords ▸ hback))
  refine title?_eq_some_iff.mpr ⟨Text.trimRight words, ?_, ?_⟩
  · cases hheading with
    | @intro indent gap words tail marks hindent hshort hleast hmost hgap hblank _ htail =>
        have hline := HeadingOf.intro hindent hshort hleast hmost hgap hblank hsome
          (show ∀ c ∈ ([] : Text), Text.isBlank c = true from nofun)
        have hend :
            Text.trimRight (indent ++ (List.replicate marks '#' ++ (gap ++ words ++ tail))) =
            indent ++ (List.replicate marks '#' ++ (gap ++ Text.trimRight words ++ [])) := by
          -- What is trimmed away stands behind the words or at their end.
          have htogether : indent ++ (List.replicate marks '#' ++ (gap ++ words ++ tail)) =
              (indent ++ List.replicate marks '#' ++ gap) ++ words ++ tail := by simp
          rw [htogether, Text.trimRight_append_blanks _ htail, Text.trimRight_append _ hink]
          simp
        rwa [hend]
  · conv_lhs => rw [hwords]
    exact Text.trim_append_blanks _ hback

/-- White space at the end of a line makes no difference to a heading with a visible title. -/
theorem title?_of_append_blanks {line back title : Text}
    (hback : ∀ c ∈ back, Text.isBlank c = true) (hvisible : title ≠ [])
    (htitle : title? (line ++ back) = some title) : title? line = some title := by
  obtain ⟨tail, hline, htail⟩ := Text.exists_blanks_behind_trimRight line
  have htrimmed := title?_trimRight htitle hvisible
  rw [Text.trimRight_append_blanks _ hback] at htrimmed
  rw [hline]
  exact title?_append_blanks htail htrimmed

/-- A heading without a visible title ends with white space. -/
theorem title?_trimRight_ne_nil (line : Text) : title? (Text.trimRight line) ≠ some [] := by
  intro htitle
  obtain ⟨words, hheading, hnone⟩ := title?_eq_some_iff.mp htitle
  have hblank := Text.trim_eq_nil_iff.mp hnone.symm
  have hlast := Text.trimRight_eq_self_iff.mp (List.rdropWhile_idempotent Text.isBlank line)
  change ∀ c, (Text.trimRight line).getLast? = some c → Text.isBlank c = false at hlast
  generalize Text.trimRight line = trimmed at hheading hlast
  cases hheading with
  | @intro indent gap words tail marks _ _ _ _ _ _ hwords htail =>
      have hsome : words ++ tail ≠ [] := List.append_ne_nil_of_left_ne_nil hwords tail
      obtain ⟨front, c, hc⟩ := (List.eq_nil_or_concat' (words ++ tail)).resolve_left hsome
      have hmem : c ∈ words ++ tail := by simp [hc]
      have hink := hlast c (by simp [hc])
      rw [(List.mem_append.mp hmem).elim (hblank c) (htail c)] at hink
      cases hink

end ScriptDocs.Markdown
