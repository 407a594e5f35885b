/-
# Paragraphs of a section

A section is parted at its runs of two or more line feeds. The runs are the longest
ones: no part holds two line feeds in a row, and no line feed stands where a part touches
a run. There is exactly one way to part a text so.
-/

import ScriptDocs.Markdown.Chunk
import Mathlib.Data.List.Infix

namespace ScriptDocs.Markdown

theorem paragraphBreak_eq : paragraphBreak = ['\n', '\n'] := rfl

/-- A text and what stands between its runs of two or more line feeds. -/
inductive Parted : Text → List Text → Prop
  | last {part : Text} (hsolid : ¬ paragraphBreak <:+: part) : Parted part [part]
  | more {part rest : Text} {parts : List Text} (further : Nat)
      (hsolid : ¬ paragraphBreak <:+: part) (hbefore : part.getLast? ≠ some '\n')
      (hbehind : rest.head? ≠ some '\n') (hrest : Parted rest parts) :
      Parted (part ++ paragraphBreak ++ List.replicate further '\n' ++ rest) (part :: parts)

/-- No break begins where a character is put that makes none with the next one. -/
theorem not_break_infix_cons {c : Char} {s : Text} (hsolid : ¬ paragraphBreak <:+: s)
    (hfront : c = '\n' → s.head? ≠ some '\n') : ¬ paragraphBreak <:+: c :: s := by
  rw [List.infix_cons_iff, not_or]
  refine ⟨?_, hsolid⟩
  rintro ⟨rest, hrest⟩
  rw [paragraphBreak_eq, List.cons_append, List.cons.injEq] at hrest
  obtain ⟨rfl, rfl⟩ := hrest
  exact hfront rfl rfl

/-- A character that makes no break goes to the first part. -/
theorem Parted.cons {c : Char} {s : Text} {parts : List Text} (hparted : Parted s parts)
    (hfront : c = '\n' → s.head? ≠ some '\n') : Parted (c :: s) (Text.ontoFirst c parts) := by
  cases hparted with
  | last hsolid => exact .last (not_break_infix_cons hsolid hfront)
  | @more part rest parts further hsolid hbefore hbehind hrest =>
      have hpart : c = '\n' → part ≠ [] := by
        rintro hc rfl
        exact hfront hc rfl
      refine @more (c :: part) rest parts further
        (not_break_infix_cons hsolid fun hc hhead => ?_) ?_ hbehind hrest
      · obtain ⟨behind, rfl⟩ := List.head?_eq_some_iff.mp hhead
        exact hfront hc rfl
      · cases part with
        | nil => simpa using fun hc => hpart hc rfl
        | cons d part => simpa [List.getLast?_cons_cons] using hbefore

/-- Behind the end of a paragraph the further line feeds of its run are passed over. -/
theorem paragraphsFrom_replicate_append (further : Nat) (rest : Text) :
    paragraphsFrom true (List.replicate further '\n' ++ rest) = paragraphsFrom true rest := by
  induction further with
  | zero => rfl
  | succ further ih => simpa [List.replicate_succ, paragraphsFrom] using ih

/-- Where the run has ended, the next paragraph begins as if it stood alone. -/
theorem paragraphsFrom_of_head {rest : Text} (hbehind : rest.head? ≠ some '\n') :
    paragraphsFrom true rest = paragraphs rest := by
  cases rest with
  | nil => rfl
  | cons c s =>
      have hc : c ≠ '\n' := by simpa using hbehind
      simp [paragraphs, paragraphsFrom, hc]

/-- Every text begins with the line feeds of a run, maybe none. -/
theorem exists_replicate_append (s : Text) :
    ∃ further rest, s = List.replicate further '\n' ++ rest ∧ rest.head? ≠ some '\n' := by
  induction s with
  | nil => exact ⟨0, [], rfl, by simp⟩
  | cons c s ih =>
      by_cases hc : c = '\n'
      · obtain ⟨further, rest, rfl, hbehind⟩ := ih
        exact ⟨further + 1, rest, by rw [hc]; rfl, hbehind⟩
      · exact ⟨0, c :: s, rfl, by simpa using hc⟩

theorem paragraphs_cons_of_no_break {c : Char} {s : Text}
    (hfront : c = '\n' → s.head? ≠ some '\n') :
    paragraphs (c :: s) = Text.ontoFirst c (paragraphs s) := by
  have hnone : (c = '\n' && s.head? = some '\n') = false := by
    rw [Bool.eq_false_iff]
    simpa using hfront
  simp [paragraphs, paragraphsFrom, hnone]

theorem paragraphs_break_append {rest : Text} (further : Nat) (hbehind : rest.head? ≠ some '\n') :
    paragraphs (paragraphBreak ++ List.replicate further '\n' ++ rest) = [] :: paragraphs rest := by
  rw [← paragraphsFrom_of_head hbehind, ← paragraphsFrom_replicate_append (further + 1) rest]
  rfl

/-- The paragraphs of a text are what stands between its runs of line feeds. -/
theorem parted_paragraphs (s : Text) : Parted s (paragraphs s) := by
  -- Behind a run the text is shorter by all of it, so the induction is on the length.
  induction hlength : s.length using Nat.strong_induction_on generalizing s with
  | _ length ih =>
      cases s with
      | nil => exact .last (by simp [paragraphBreak_eq])
      | cons c s =>
          by_cases hfront : c = '\n' → s.head? ≠ some '\n'
          · rw [paragraphs_cons_of_no_break hfront]
            exact (ih s.length (by simp [← hlength]) s rfl).cons hfront
          · push Not at hfront
            obtain ⟨rfl, hhead⟩ := hfront
            obtain ⟨behind, rfl⟩ := List.head?_eq_some_iff.mp hhead
            obtain ⟨further, rest, rfl, hbehind⟩ := exists_replicate_append behind
            have hrest := ih rest.length (by simp [← hlength]; omega) rest rfl
            have hwhole := paragraphs_break_append further hbehind
            rw [paragraphBreak_eq] at hwhole
            rw [show '\n' :: '\n' :: (List.replicate further '\n' ++ rest) =
              ['\n', '\n'] ++ List.replicate further '\n' ++ rest from rfl, hwhole]
            have hsolid : ¬ paragraphBreak <:+: [] := by simp [paragraphBreak_eq]
            exact .more further hsolid (by simp) hbehind hrest

/-- A text without a break stays together with what follows, as far as that belongs to it. -/
theorem paragraphs_append {part tail first : Text} {others : List Text}
    (hsolid : ¬ paragraphBreak <:+: part)
    (hjoint : part.getLast? = some '\n' → tail.head? ≠ some '\n')
    (htail : paragraphs tail = first :: others) :
    paragraphs (part ++ tail) = (part ++ first) :: others := by
  induction part with
  | nil => exact htail
  | cons c part ih =>
      rw [List.infix_cons_iff, not_or] at hsolid
      have hfront : c = '\n' → (part ++ tail).head? ≠ some '\n' := by
        rintro rfl hhead
        cases part with
        | nil => exact hjoint rfl hhead
        | cons d part =>
            obtain rfl : d = '\n' := by simpa using hhead
            exact hsolid.1 ⟨part, rfl⟩
      have hlater : part.getLast? = some '\n' → tail.head? ≠ some '\n' := by
        intro hlast
        refine hjoint ?_
        rw [← List.singleton_append, List.getLast?_append, hlast]
        rfl
      rw [List.cons_append, paragraphs_cons_of_no_break hfront, ih hsolid.2 hlater]
      rfl

/-- A text is parted in one way only. -/
theorem Parted.eq_paragraphs {s : Text} {parts : List Text} (hparted : Parted s parts) :
    parts = paragraphs s := by
  induction hparted with
  | @last part hsolid =>
      have hwhole : paragraphs (part ++ []) = [part ++ []] :=
        paragraphs_append hsolid (by simp) rfl
      simpa using hwhole.symm
  | @more part rest parts further hsolid hbefore hbehind _ ih =>
      have htail := paragraphs_break_append further hbehind
      rw [← ih] at htail
      have hwhole := paragraphs_append hsolid (fun hlast => absurd hlast hbefore) htail
      simpa [List.append_assoc] using hwhole.symm

/-- The paragraphs are what stands between the runs, and nothing else is. -/
theorem parted_iff {s : Text} {parts : List Text} : Parted s parts ↔ parts = paragraphs s :=
  ⟨Parted.eq_paragraphs, fun h => h ▸ parted_paragraphs s⟩

end ScriptDocs.Markdown
