/-
# Taking matches out of a text

A pattern whose matches are replaced by nothing takes them out from the left, once. What is left
is in order what was there; it is the whole text just where the pattern occurs nowhere, and
shorter otherwise. So several such patterns in turn leave a text alone just where none of
them occurs, and repeating them comes to an end.
-/

import ScriptDocs.Text.Scan
import Mathlib.Data.List.Infix
import Mathlib.Logic.Function.Iterate

namespace ScriptDocs.Text

/-- A pattern occurs in a text where it matches in front of some rest of it. -/
def Occurs {α : Type} (pattern : Pattern α) (s : Text) : Prop :=
  ∃ t, t <:+ s ∧ (pattern t).isSome = true

/-- A pattern whose matches are not empty and leave nothing in their place. -/
def Erases (pattern : Pattern Text) : Prop :=
  ∀ s value read, pattern s = some (value, read) → value = [] ∧ 0 < read ∧ read ≤ s.length

theorem occurs_cons_iff {α : Type} {pattern : Pattern α} {c : Char} {s : Text} :
    Occurs pattern (c :: s) ↔ (pattern (c :: s)).isSome = true ∨ Occurs pattern s := by
  simp only [Occurs, List.suffix_cons_iff, or_and_right, exists_or, exists_eq_left]

variable {pattern : Pattern Text}

theorem Erases.not_occurs_nil (herases : Erases pattern) : ¬ Occurs pattern [] := by
  rintro ⟨t, ht, hmatch⟩
  obtain rfl := List.suffix_nil.mp ht
  obtain ⟨found, hfound⟩ := Option.isSome_iff_exists.mp hmatch
  obtain ⟨-, hread, hlength⟩ := herases [] found.1 found.2 hfound
  exact absurd (Nat.le_trans hread hlength) (Nat.not_succ_le_zero 0)

/-- Where a match begins, it is left out, and its other characters are counted off. -/
theorem Erases.replaceMatches_cons_of_some (herases : Erases pattern) {c : Char} {s : Text}
    (hmatch : (pattern (c :: s)).isSome = true) :
    ∃ skip, replaceMatches pattern (c :: s) = replaceFrom pattern skip s := by
  obtain ⟨⟨value, read⟩, hfound⟩ := Option.isSome_iff_exists.mp hmatch
  obtain ⟨rfl, hread, -⟩ := herases _ value read hfound
  obtain ⟨skip, rfl⟩ := Nat.exists_eq_succ_of_ne_zero (Nat.ne_of_gt hread)
  exact ⟨skip, by simp [replaceMatches, replaceFrom, hfound]⟩

theorem replaceMatches_cons_of_none {c : Char} {s : Text} (hnone : pattern (c :: s) = none) :
    replaceMatches pattern (c :: s) = c :: replaceMatches pattern s := by
  simp [replaceMatches, replaceFrom, hnone]

/-- A text without a match is left alone. -/
theorem replaceMatches_eq_self {s : Text} (hnone : ¬ Occurs pattern s) :
    replaceMatches pattern s = s := by
  induction s with
  | nil => rfl
  | cons c s ih =>
      obtain ⟨hhere, hrest⟩ := not_or.mp (mt occurs_cons_iff.mpr hnone)
      rw [replaceMatches_cons_of_none (by simpa using hhere), ih hrest]

/-- Nothing is put in, and the order is kept. -/
theorem Erases.replaceFrom_sublist (herases : Erases pattern) (skip : Nat) (s : Text) :
    (replaceFrom pattern skip s).Sublist s := by
  induction s generalizing skip with
  | nil => cases skip <;> exact List.Sublist.refl []
  | cons c s ih =>
      cases skip with
      | succ skip => exact (ih skip).cons c
      | zero =>
          show (replaceMatches pattern (c :: s)).Sublist (c :: s)
          by_cases hmatch : (pattern (c :: s)).isSome = true
          · obtain ⟨skip, hskip⟩ := herases.replaceMatches_cons_of_some hmatch
            rw [hskip]
            exact (ih skip).cons c
          · have hnone : pattern (c :: s) = none := by simpa using hmatch
            rw [replaceMatches_cons_of_none hnone]
            exact (ih 0).cons_cons c

theorem Erases.replaceMatches_sublist (herases : Erases pattern) (s : Text) :
    (replaceMatches pattern s).Sublist s :=
  herases.replaceFrom_sublist 0 s

/-- Something is taken out where the pattern occurs. -/
theorem Erases.length_replaceMatches_lt (herases : Erases pattern) {s : Text}
    (hoccurs : Occurs pattern s) : (replaceMatches pattern s).length < s.length := by
  induction s with
  | nil => exact absurd hoccurs herases.not_occurs_nil
  | cons c s ih =>
      by_cases hmatch : (pattern (c :: s)).isSome = true
      · obtain ⟨skip, hskip⟩ := herases.replaceMatches_cons_of_some hmatch
        rw [hskip]
        exact Nat.lt_succ_of_le (herases.replaceFrom_sublist skip s).length_le
      · have hnone : pattern (c :: s) = none := by simpa using hmatch
        have hrest := ih ((occurs_cons_iff.mp hoccurs).resolve_left hmatch)
        rw [replaceMatches_cons_of_none hnone]
        exact Nat.succ_lt_succ hrest

/-- A text is left alone just where the pattern does not occur in it. -/
theorem Erases.replaceMatches_eq_self_iff (herases : Erases pattern) {s : Text} :
    replaceMatches pattern s = s ↔ ¬ Occurs pattern s := by
  constructor
  · intro hself hoccurs
    have hshorter := herases.length_replaceMatches_lt hoccurs
    rw [hself] at hshorter
    exact Nat.lt_irrefl _ hshorter
  · exact replaceMatches_eq_self

/-- What a function that leaves some rest unread reads are the parts of one kind: it reads such a
part, and does not fail where one stands. -/
structure Reads (isPart : Text → Prop) (rest? : Text → Option Text) : Prop where
  ne_nil : ∀ part, isPart part → part ≠ []
  sound : ∀ s rest, rest? s = some rest → ∃ part, isPart part ∧ s = part ++ rest
  complete : ∀ part, isPart part → ∀ rest, (rest? (part ++ rest)).isSome = true

namespace Reads

variable {isPart : Text → Prop} {rest? : Text → Option Text}

theorem erases (hreads : Reads isPart rest?) : Erases (reading [] rest?) := by
  intro s value read hmatch
  obtain ⟨rest, hrest, hvalue⟩ := Option.map_eq_some_iff.mp hmatch
  obtain ⟨rfl, rfl⟩ := Prod.mk.inj hvalue
  obtain ⟨part, hpart, rfl⟩ := hreads.sound s rest hrest
  have hpos := List.length_pos_of_ne_nil (hreads.ne_nil part hpart)
  rw [List.length_append]
  exact ⟨rfl, by omega, by omega⟩

/-- The pattern occurs in the texts that hold a part it reads. -/
theorem occurs_iff (hreads : Reads isPart rest?) {α : Type} {value : α} {s : Text} :
    Occurs (reading value rest?) s ↔ ∃ part, isPart part ∧ part <:+: s := by
  constructor
  · rintro ⟨t, ⟨before, rfl⟩, hmatch⟩
    rw [reading, Option.isSome_map] at hmatch
    obtain ⟨rest, hrest⟩ := Option.isSome_iff_exists.mp hmatch
    obtain ⟨part, hpart, rfl⟩ := hreads.sound t rest hrest
    exact ⟨part, hpart, before, rest, by simp⟩
  · rintro ⟨part, hpart, before, rest, rfl⟩
    refine ⟨part ++ rest, ⟨before, by simp⟩, ?_⟩
    rw [reading, Option.isSome_map]
    exact hreads.complete part hpart rest

end Reads

/-- Several patterns taken out in turn, each in one pass. -/
def takeOut (patterns : List (Pattern Text)) (s : Text) : Text :=
  patterns.foldl (fun s pattern => replaceMatches pattern s) s

theorem takeOut_sublist {patterns : List (Pattern Text)}
    (herase : ∀ pattern ∈ patterns, Erases pattern) (s : Text) :
    (takeOut patterns s).Sublist s := by
  induction patterns generalizing s with
  | nil => exact List.Sublist.refl s
  | cons pattern patterns ih =>
      have hfirst := (herase pattern List.mem_cons_self).replaceMatches_sublist s
      exact (ih (fun other h => herase other (List.mem_cons_of_mem pattern h)) _).trans hfirst

/-- All of them leave a text alone just where none of them occurs. -/
theorem takeOut_eq_self_iff {patterns : List (Pattern Text)}
    (herase : ∀ pattern ∈ patterns, Erases pattern) {s : Text} :
    takeOut patterns s = s ↔ ∀ pattern ∈ patterns, ¬ Occurs pattern s := by
  induction patterns with
  | nil => simp [takeOut]
  | cons pattern patterns ih =>
      have hfirst := herase pattern List.mem_cons_self
      have hothers : ∀ other ∈ patterns, Erases other := fun other h =>
        herase other (List.mem_cons_of_mem pattern h)
      rw [List.forall_mem_cons, ← ih hothers, ← hfirst.replaceMatches_eq_self_iff]
      constructor
      · -- What the first pass takes out, no later pass puts back.
        intro hself
        have hrest : takeOut patterns (replaceMatches pattern s) = s := hself
        have hlength := (takeOut_sublist hothers (replaceMatches pattern s)).length_le
        rw [hrest] at hlength
        have hsame := (hfirst.replaceMatches_sublist s).eq_of_length_le hlength
        rw [hsame] at hrest
        exact ⟨hsame, hrest⟩
      · rintro ⟨hsame, hrest⟩
        show takeOut patterns (replaceMatches pattern s) = s
        rw [hsame, hrest]

/-- Rounds that put nothing into the texts of one kind, and leave them of that kind, come to an
end. -/
theorem exists_iterate_eq {isKind : Text → Prop} {round : Text → Text}
    (hround : ∀ s, isKind s → (round s).Sublist s) (hkept : ∀ s, isKind s → isKind (round s))
    {s : Text} (hs : isKind s) : ∃ n, isKind (round^[n] s) ∧ round (round^[n] s) = round^[n] s := by
  by_cases hfixed : round s = s
  · exact ⟨0, hs, hfixed⟩
  · have hshorter : (round s).length < s.length := by
      refine Nat.lt_of_le_of_ne (hround s hs).length_le fun hlength => hfixed ?_
      exact (hround s hs).eq_of_length hlength
    obtain ⟨n, hn⟩ := exists_iterate_eq hround hkept (hkept s hs)
    exact ⟨n + 1, hn⟩
termination_by s.length

end ScriptDocs.Text
