/-
# Steps of a scan

How scanning gets over the front of a text: over characters that belong to the last
match, over characters where nothing matches, and over a match. What follows behind
is scanned as if it stood alone.
-/

import ScriptDocs.Text.Scan

namespace ScriptDocs.Text

variable {α : Type} {pattern : Pattern α}

/-- The characters of a match are counted off. -/
theorem matchesFrom_length_append (front rest : Text) :
    matchesFrom pattern front.length (front ++ rest) = allMatches pattern rest := by
  induction front with
  | nil => rfl
  | cons c front ih => simpa [matchesFrom] using ih

/-- Where no match starts, the scan goes on with the next character. -/
theorem allMatches_cons_of_none {c : Char} {s : Text} (hnone : pattern (c :: s) = none) :
    allMatches pattern (c :: s) = allMatches pattern s := by
  simp [allMatches, matchesFrom, hnone]

/-- Characters that start no match are passed over. -/
theorem allMatches_append_of_none {front : Text} (rest : Text)
    (hnone : ∀ c ∈ front, ∀ s, pattern (c :: s) = none) :
    allMatches pattern (front ++ rest) = allMatches pattern rest := by
  induction front with
  | nil => rfl
  | cons c front ih =>
      rw [List.cons_append, allMatches_cons_of_none (hnone c List.mem_cons_self _)]
      exact ih fun d hd => hnone d (List.mem_cons_of_mem c hd)

/-- A match in front is the first one, and the scan goes on behind it. -/
theorem allMatches_append_of_some {front : Text} (rest : Text) {value : α}
    (hfront : front ≠ []) (hmatch : pattern (front ++ rest) = some (value, front.length)) :
    allMatches pattern (front ++ rest) = value :: allMatches pattern rest := by
  cases front with
  | nil => exact absurd rfl hfront
  | cons c front =>
      rw [← matchesFrom_length_append front rest]
      rw [List.cons_append] at hmatch ⊢
      simp [allMatches, matchesFrom, hmatch]

/-- A pattern whose values are the images of those of another matches just where it does. -/
theorem matchesFrom_map {β : Type} {image : Pattern β} {f : α → β}
    (himage : ∀ s, image s = (pattern s).map (Prod.map f id)) (skip : Nat) (s : Text) :
    matchesFrom image skip s = (matchesFrom pattern skip s).map f := by
  induction s generalizing skip with
  | nil => cases skip <;> rfl
  | cons c s ih =>
      cases skip with
      | succ skip => exact ih skip
      | zero =>
          simp only [matchesFrom, himage]
          rcases pattern (c :: s) with - | ⟨value, - | read⟩
          · exact ih 0
          · exact ih 0
          · simp [ih]

end ScriptDocs.Text
