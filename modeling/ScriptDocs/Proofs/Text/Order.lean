/-
# The order by code points

Texts are ordered like words in a dictionary, character by character. The order is
total, so sorting by it puts every list of texts into one form only.
-/

import ScriptDocs.Text.Basic

namespace ScriptDocs.Text

theorem atMost_cons (a b : Char) (s t : Text) :
    atMost (a :: s) (b :: t) = true ↔ a.toNat < b.toNat ∨ a = b ∧ atMost s t = true := by
  by_cases h : a = b
  · subst b
    simp [atMost]
  · simp [atMost, h]

theorem atMost_trans (s t u : Text) :
    atMost s t = true → atMost t u = true → atMost s u = true := by
  induction s generalizing t u with
  | nil => intros; rfl
  | cons a s ih =>
      cases t with
      | nil => simp [atMost]
      | cons b t =>
          cases u with
          | nil => simp [atMost]
          | cons c u =>
              simp only [atMost_cons]
              rintro (hab | ⟨rfl, hst⟩) (hbc | ⟨rfl, htu⟩)
              · exact Or.inl (Nat.lt_trans hab hbc)
              · exact Or.inl hab
              · exact Or.inl hbc
              · exact Or.inr ⟨rfl, ih t u hst htu⟩

theorem atMost_total (s t : Text) : (atMost s t || atMost t s) = true := by
  induction s generalizing t with
  | nil => rfl
  | cons a s ih =>
      cases t with
      | nil => rfl
      | cons b t =>
          simp only [Bool.or_eq_true, atMost_cons] at ih ⊢
          rcases Nat.lt_trichotomy a.toNat b.toNat with hlt | heq | hlt
          · exact Or.inl (Or.inl hlt)
          · obtain rfl : a = b := Char.toNat_inj.mp heq
            exact (ih t).imp (fun h => Or.inr ⟨rfl, h⟩) fun h => Or.inr ⟨rfl, h⟩
          · exact Or.inr (Or.inl hlt)

/-- Sorting leaves no text before a smaller one. -/
theorem pairwise_mergeSort_atMost (texts : List Text) :
    (texts.mergeSort atMost).Pairwise fun s t => atMost s t = true :=
  List.pairwise_mergeSort atMost_trans atMost_total texts

/-- Of two different texts the one that comes before the other is the lesser one. -/
theorem lt_of_atMost {s t : Text} (hatMost : atMost s t = true) (hne : s ≠ t) : s < t := by
  induction s generalizing t with
  | nil =>
      cases t with
      | nil => exact absurd rfl hne
      | cons b t => exact List.nil_lt_cons b t
  | cons a s ih =>
      cases t with
      | nil => cases hatMost
      | cons b t =>
          rw [List.cons_lt_cons_iff]
          rcases (atMost_cons a b s t).mp hatMost with hless | ⟨rfl, hrest⟩
          · exact Or.inl (Char.lt_def.mpr (UInt32.lt_iff_toNat_lt.mpr hless))
          · exact Or.inr ⟨rfl, ih hrest fun h => hne (congrArg _ h)⟩

end ScriptDocs.Text
