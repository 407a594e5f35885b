/-
# Steps of a replacement

How replacing gets over the front of a text: over the characters of a match, over a match, in whose
place the value of the match stands, and over all that stands before the first match.
-/

import ScriptDocs.Text.Scan
import Mathlib.Data.List.Infix

namespace ScriptDocs.Text

variable {pattern : Pattern Text}

/-- The characters of a match are counted off. -/
theorem replaceFrom_length_append (front rest : Text) :
    replaceFrom pattern front.length (front ++ rest) = replaceMatches pattern rest := by
  induction front with
  | nil => rfl
  | cons c front ih => simpa [replaceFrom] using ih

/-- A match in front gives way to its value. -/
theorem replaceMatches_append_of_some {front : Text} (rest : Text) {value : Text}
    (hfront : front ≠ []) (hmatch : pattern (front ++ rest) = some (value, front.length)) :
    replaceMatches pattern (front ++ rest) = value ++ replaceMatches pattern rest := by
  cases front with
  | nil => exact absurd rfl hfront
  | cons c front =>
      rw [← replaceFrom_length_append front rest]
      rw [List.cons_append] at hmatch ⊢
      simp [replaceMatches, replaceFrom, hmatch]

/-- Where a match takes up the whole text, only its value is left. -/
theorem replaceMatches_eq_of_whole {s value : Text} (hsome : s ≠ [])
    (hmatch : pattern s = some (value, s.length)) : replaceMatches pattern s = value := by
  have hfront : pattern (s ++ []) = some (value, s.length) := by rwa [List.append_nil]
  have hreplaced := replaceMatches_append_of_some [] hsome hfront
  rwa [List.append_nil, show replaceMatches pattern [] = [] from rfl, List.append_nil] at hreplaced

/-- A match reads something, and no more than there is. -/
def ReadsPart (pattern : Pattern Text) : Prop :=
  ∀ s value read, pattern s = some (value, read) → 0 < read ∧ read ≤ s.length

/-- Replacing finds no match and changes nothing, or it passes over what stands before the first
match, and goes on behind that. -/
theorem replaceMatches_cases (hreads : ReadsPart pattern) (s : Text) :
    (replaceMatches pattern s = s ∧ ∀ t, t <:+ s → t ≠ [] → pattern t = none) ∨
      ∃ gap front rest value, s = gap ++ (front ++ rest) ∧ front ≠ [] ∧
        pattern (front ++ rest) = some (value, front.length) ∧
        (∀ t, t <:+ gap → t ≠ [] → pattern (t ++ (front ++ rest)) = none) ∧
        replaceMatches pattern s = gap ++ (value ++ replaceMatches pattern rest) := by
  induction s with
  | nil => exact Or.inl ⟨rfl, fun t ht hne => absurd (List.suffix_nil.mp ht) hne⟩
  | cons c s ih =>
      rcases hmatch : pattern (c :: s) with - | ⟨value, read⟩
      · have hover : replaceMatches pattern (c :: s) = c :: replaceMatches pattern s := by
          rw [replaceMatches, replaceFrom, hmatch]
          rfl
        rw [hover]
        rcases ih with ⟨hsame, hnone⟩ | ⟨gap, front, rest, value, rfl, hfront, hfound, hnone, hover⟩
        · left
          refine ⟨by rw [hsame], fun t ht hne => ?_⟩
          rcases List.suffix_cons_iff.mp ht with rfl | hlater
          · exact hmatch
          · exact hnone t hlater hne
        · right
          refine ⟨c :: gap, front, rest, value, rfl, hfront, hfound, fun t ht hne => ?_, ?_⟩
          · rcases List.suffix_cons_iff.mp ht with rfl | hlater
            · exact hmatch
            · exact hnone t hlater hne
          · rw [hover]
            rfl
      · right
        obtain ⟨hpos, hmost⟩ := hreads _ _ _ hmatch
        have hlength : ((c :: s).take read).length = read := List.length_take_of_le hmost
        have hsplit : (c :: s).take read ++ (c :: s).drop read = c :: s :=
          List.take_append_drop read (c :: s)
        have hfront : (c :: s).take read ≠ [] := by
          intro hnil
          rw [hnil] at hlength
          exact absurd hlength.symm (Nat.ne_of_gt hpos)
        have hfound : pattern ((c :: s).take read ++ (c :: s).drop read) =
            some (value, ((c :: s).take read).length) := by
          rw [hsplit, hlength, hmatch]
        refine ⟨[], (c :: s).take read, (c :: s).drop read, value, hsplit.symm, hfront, hfound,
          fun t ht hne => absurd (List.suffix_nil.mp ht) hne, ?_⟩
        rw [List.nil_append, ← replaceMatches_append_of_some _ hfront hfound, hsplit]

end ScriptDocs.Text
