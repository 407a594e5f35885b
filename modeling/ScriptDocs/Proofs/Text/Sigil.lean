/-
# Runs behind a sigil

Some patterns read a sigil and the longest run of certain characters behind it, and decide by
that run alone. What they find in a text is told by the runs behind its sigils, and where a
character outside such runs parts a text, the runs of both parts are those of the whole.
-/

import ScriptDocs.Proofs.Text.Scan
import Mathlib.Data.List.TakeWhile

namespace ScriptDocs.Text

/-- The longest runs behind the sigils of a text, from left to right. -/
def runsBehind (sigil : Char) (inside : Char → Bool) : Text → List Text
  | [] => []
  | c :: s =>
    if c = sigil then s.takeWhile inside :: runsBehind sigil inside s
    else runsBehind sigil inside s

section Runs

variable {sigil : Char} {inside : Char → Bool}

theorem takeWhile_append_cons {mark : Char} (hmark : inside mark = false) (s rest : Text) :
    (s ++ mark :: rest).takeWhile inside = s.takeWhile inside := by
  induction s with
  | nil => simp [hmark]
  | cons c s ih => simp only [List.cons_append, List.takeWhile_cons, ih]

theorem takeWhile_eq_of_mem_runsBehind {s run : Text} (hrun : run ∈ runsBehind sigil inside s) :
    run.takeWhile inside = run := by
  induction s with
  | nil => cases hrun
  | cons c s ih =>
      rw [runsBehind] at hrun
      split at hrun
      · rcases List.mem_cons.mp hrun with rfl | hrest
        · exact List.takeWhile_idem
        · exact ih hrest
      · exact ih hrun

/-- In front of the first sigil there are no runs. -/
theorem runsBehind_append_of_not_mem {s : Text} (hs : sigil ∉ s) (rest : Text) :
    runsBehind sigil inside (s ++ rest) = runsBehind sigil inside rest := by
  induction s with
  | nil => rfl
  | cons c s ih =>
      rw [List.mem_cons, not_or] at hs
      rw [List.cons_append, runsBehind, if_neg (Ne.symm hs.1), ih hs.2]

theorem runsBehind_of_not_mem {s : Text} (hs : sigil ∉ s) : runsBehind sigil inside s = [] := by
  rw [← List.append_nil s, runsBehind_append_of_not_mem hs, runsBehind]

/-- Runs end where a character outside of them stands. -/
theorem runsBehind_append_cons {mark : Char} (hmark : inside mark = false) (s rest : Text) :
    runsBehind sigil inside (s ++ mark :: rest) =
      runsBehind sigil inside s ++ runsBehind sigil inside (mark :: rest) := by
  induction s with
  | nil => rfl
  | cons c s ih =>
      simp only [List.cons_append, runsBehind.eq_2 _ _ c, ih, takeWhile_append_cons hmark]
      split <;> rfl

/-- The runs of lines that follow a text are those of each line. -/
theorem runsBehind_append_flatMap {mark : Char} (hmark : inside mark = false) (s : Text)
    (lines : List Text) :
    runsBehind sigil inside (s ++ lines.flatMap (mark :: ·)) =
      runsBehind sigil inside s ++
        lines.flatMap fun line => runsBehind sigil inside (mark :: line) := by
  induction lines generalizing s with
  | nil => simp
  | cons line lines ih =>
      rw [List.flatMap_cons, List.flatMap_cons, ← List.append_assoc, ih,
        runsBehind_append_cons hmark, List.append_assoc]

end Runs

/-- A pattern that reads a sigil and the longest run behind it, and whose value is that of the
run. -/
structure ReadsRun {α : Type} (sigil : Char) (inside : Char → Bool) (value? : Text → Option α)
    (pattern : Pattern α) : Prop where
  /-- No run covers another sigil. -/
  outside : inside sigil = false
  none_of_ne : ∀ c s, c ≠ sigil → pattern (c :: s) = none
  behind : ∀ s, pattern (sigil :: s) =
    (value? (s.takeWhile inside)).map fun value => (value, (s.takeWhile inside).length + 1)

/-- The matches are the runs that have a value. -/
theorem ReadsRun.allMatches_eq {α : Type} {sigil : Char} {inside : Char → Bool}
    {value? : Text → Option α} {pattern : Pattern α}
    (hreads : ReadsRun sigil inside value? pattern) (s : Text) :
    allMatches pattern s = (runsBehind sigil inside s).filterMap value? := by
  induction s with
  | nil => rfl
  | cons c s ih =>
      by_cases hc : c = sigil
      case neg => rw [allMatches_cons_of_none (hreads.none_of_ne c s hc), ih, runsBehind, if_neg hc]
      subst c
      rw [runsBehind, if_pos rfl]
      have hmatch := hreads.behind s
      cases hvalue : value? (s.takeWhile inside) with
      | none =>
          rw [hvalue, Option.map_none] at hmatch
          rw [allMatches_cons_of_none hmatch, ih, List.filterMap_cons_none hvalue]
      | some value =>
          rw [hvalue, Option.map_some] at hmatch
          -- The run is read with its sigil; no sigil, and so no match, stands within it.
          obtain ⟨run, rest, hrun, rfl⟩ : ∃ run rest, s.takeWhile inside = run ∧ s = run ++ rest :=
            ⟨_, _, rfl, List.takeWhile_append_dropWhile.symm⟩
          have hnone : sigil ∉ run := by
            intro hmem
            have hinside := List.mem_takeWhile_imp (hrun ▸ hmem)
            simp [hreads.outside] at hinside
          rw [hrun] at hmatch hvalue
          rw [hrun, List.filterMap_cons_some hvalue, ← ih, ← List.cons_append,
            allMatches_append_of_some rest (List.cons_ne_nil sigil run) hmatch]
          congr 1
          exact (allMatches_append_of_none rest fun d hd t =>
            hreads.none_of_ne d t fun h => hnone (h ▸ hd)).symm

end ScriptDocs.Text
