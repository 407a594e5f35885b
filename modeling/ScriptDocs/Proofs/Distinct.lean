/-
# First occurrences

Of the items of a list that share a key, the first one is kept. Grouping calls,
naming the documents of a store and telling new chunks from known ones all rest on
this one operation; `distinct` is the case where every item is its own key.
-/

import ScriptDocs.Text.Basic
import Mathlib.Data.List.Nodup

namespace ScriptDocs

variable {α κ : Type} [DecidableEq κ]

/-- The items of a list, of those with one key the first. -/
def firstOfEach (key : α → κ) : List α → List α
  | [] => []
  | x :: xs => x :: (firstOfEach key xs).filter (key · ≠ key x)

/-- Nothing is made up and the order is kept. -/
theorem firstOfEach_sublist (key : α → κ) (xs : List α) :
    (firstOfEach key xs).Sublist xs := by
  induction xs with
  | nil => exact List.Sublist.refl _
  | cons x xs ih => exact (List.filter_sublist.trans ih).cons_cons x

/-- Every key that occurs is kept. -/
theorem mem_map_firstOfEach (key : α → κ) (xs : List α) (k : κ) :
    k ∈ (firstOfEach key xs).map key ↔ k ∈ xs.map key := by
  induction xs with
  | nil => rfl
  | cons x xs ih =>
      simp only [List.mem_map] at ih
      simp only [firstOfEach, List.map_cons, List.mem_cons, List.mem_map, List.mem_filter,
        decide_eq_true_eq]
      constructor
      · rintro (h | ⟨y, ⟨hy, -⟩, rfl⟩)
        · exact Or.inl h
        · exact Or.inr (ih.mp ⟨y, hy, rfl⟩)
      · rintro (h | h)
        · exact Or.inl h
        · obtain ⟨y, hy, rfl⟩ := ih.mpr h
          by_cases hkey : key y = key x
          · exact Or.inl hkey
          · exact Or.inr ⟨y, ⟨hy, hkey⟩, rfl⟩

/-- No key is kept twice. -/
theorem nodup_map_firstOfEach (key : α → κ) (xs : List α) :
    ((firstOfEach key xs).map key).Nodup := by
  induction xs with
  | nil => exact List.nodup_nil
  | cons x xs ih =>
      simp only [firstOfEach, List.map_cons, List.nodup_cons]
      constructor
      · intro h
        obtain ⟨y, hy, hkey⟩ := List.mem_map.mp h
        simp [hkey] at hy
      · exact ih.sublist (List.filter_sublist.map key)

/-- Of a second list only the items whose keys the first one lacks are left. -/
theorem firstOfEach_append (key : α → κ) (xs ys : List α) :
    firstOfEach key (xs ++ ys) =
      firstOfEach key xs ++ (firstOfEach key ys).filter (key · ∉ xs.map key) := by
  induction xs with
  | nil => simp [firstOfEach]
  | cons x xs ih =>
      simp only [List.cons_append, firstOfEach, ih, List.filter_append, List.filter_filter,
        List.map_cons, List.mem_cons, not_or, Bool.decide_and]

theorem distinct_eq_firstOfEach [DecidableEq α] (xs : List α) :
    distinct xs = firstOfEach id xs := by
  induction xs with
  | nil => rfl
  | cons x xs ih => simp [distinct, firstOfEach, ih]

@[simp]
theorem mem_distinct [DecidableEq α] (xs : List α) (x : α) : x ∈ distinct xs ↔ x ∈ xs := by
  simpa [distinct_eq_firstOfEach] using mem_map_firstOfEach id xs x

/-- Items may be filtered out before or after telling them apart. -/
theorem filter_distinct [DecidableEq α] (p : α → Bool) (xs : List α) :
    (distinct xs).filter p = distinct (xs.filter p) := by
  induction xs with
  | nil => rfl
  | cons x xs ih =>
      rw [distinct, List.filter_cons, List.filter_filter, List.filter_cons]
      by_cases hx : p x = true
      · rw [if_pos hx, if_pos hx, distinct, ← ih, List.filter_filter]
        simp only [Bool.and_comm]
      · rw [if_neg hx, if_neg hx, ← ih]
        refine List.filter_congr fun y _ => ?_
        have hother : p y = true → y ≠ x := fun hy h => hx (h ▸ hy)
        simpa using hother

theorem nodup_distinct [DecidableEq α] (xs : List α) : (distinct xs).Nodup := by
  simpa [distinct_eq_firstOfEach] using nodup_map_firstOfEach id xs

end ScriptDocs
