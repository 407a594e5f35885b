/-
# Steps over lists, parts and fronts

What a step that can fail makes of all items of a list; the parts of a list, which may come in any
order, and what they keep of it; the first items of a list, and which items are among them.
-/

import ScriptDocs.Text.Basic
import Mathlib.Data.List.Flatten
import Mathlib.Data.List.Perm.Subperm

namespace ScriptDocs

variable {α β γ κ ε : Type}

theorem exists_of_bind_eq_ok {result : Except ε α} {next : α → Except ε β} {value : β}
    (hdone : result >>= next = .ok value) :
    ∃ first, result = .ok first ∧ next first = .ok value := by
  cases result with
  | error failure => cases hdone
  | ok first => exact ⟨first, rfl, hdone⟩

theorem mapM_eq_ok_iff {step : α → Except ε β} {xs : List α} {ys : List β} :
    xs.mapM step = .ok ys ↔ List.Forall₂ (fun x y => step x = .ok y) xs ys := by
  induction xs generalizing ys with
  | nil => cases ys <;> simp [pure, Except.pure]
  | cons x xs ih =>
      rw [List.mapM_cons, List.forall₂_cons_left_iff]
      simp only [← ih]
      cases hx : step x with
      | error failure => simp [bind, Except.bind]
      | ok y =>
          cases xs.mapM step with
          | error failure => simp [bind, Except.bind]
          | ok rest => simp [bind, Except.bind, pure, Except.pure, eq_comm]

/-- What every step keeps of its item, all steps keep of the list. -/
theorem map_eq_of_mapM_eq_ok {step : α → Except ε β} {after : β → γ} {before : α → γ}
    (hstep : ∀ x y, step x = .ok y → after y = before x) {xs : List α} {ys : List β}
    (hdone : xs.mapM step = .ok ys) : ys.map after = xs.map before := by
  rw [mapM_eq_ok_iff] at hdone
  induction hdone with
  | nil => rfl
  | @cons x y xs ys hx _ ih => rw [List.map_cons, List.map_cons, hstep x y hx, ih]

/-- What every step takes from its item, all steps take from the list. -/
theorem flatten_sublist_of_mapM_eq_ok {step : α → Except ε (List β)} {after : β → γ}
    {before : α → List γ} (hstep : ∀ x ys, step x = .ok ys → (ys.map after).Sublist (before x))
    {xs : List α} {parts : List (List β)} (hdone : xs.mapM step = .ok parts) :
    (parts.flatten.map after).Sublist (xs.flatMap before) := by
  rw [mapM_eq_ok_iff] at hdone
  induction hdone with
  | nil => exact List.Sublist.refl _
  | @cons x ys xs parts hx _ ih =>
      rw [List.flatten_cons, List.map_append, List.flatMap_cons]
      exact (hstep x ys hx).append ih

theorem map_subperm {f : α → β} {xs ys : List α} (hpart : xs.Subperm ys) :
    (xs.map f).Subperm (ys.map f) := by
  obtain ⟨zs, hperm, hsub⟩ := hpart
  exact ⟨zs.map f, hperm.map f, hsub.map f⟩

theorem flatMap_subperm {f : α → List β} {xs ys : List α} (hpart : xs.Subperm ys) :
    (xs.flatMap f).Subperm (ys.flatMap f) := by
  obtain ⟨zs, hperm, hsub⟩ := hpart
  exact ⟨zs.flatMap f, hperm.flatMap_right f, hsub.flatMap f⟩

theorem nodup_of_subperm {xs ys : List α} (hnodup : ys.Nodup) (hpart : xs.Subperm ys) :
    xs.Nodup := by
  obtain ⟨zs, hperm, hsub⟩ := hpart
  exact hperm.nodup_iff.mp (hnodup.sublist hsub)

/-- The items under some keys, one key after the other, are part of all items. -/
theorem flatMap_filter_subperm [DecidableEq κ] {key : α → κ} {keys : List κ} (hkeys : keys.Nodup)
    (xs : List α) : (keys.flatMap fun k => xs.filter (key · = k)).Subperm xs := by
  induction keys generalizing xs with
  | nil => exact List.nil_subperm
  | cons k keys ih =>
      obtain ⟨hnew, hkeys⟩ := List.nodup_cons.mp hkeys
      -- What lies under the other keys does not lie under the first one.
      have hothers : (keys.flatMap fun other => xs.filter (key · = other)) =
          keys.flatMap fun other =>
            (xs.filter fun x => !decide (key x = k)).filter (key · = other) := by
        refine List.flatMap_congr fun other hother => ?_
        rw [List.filter_filter]
        refine List.filter_congr fun x _ => ?_
        have hne : other ≠ k := fun h => hnew (h ▸ hother)
        by_cases hx : key x = other
        · simp [hx, hne]
        · simp [hx]
      rw [List.flatMap_cons, hothers]
      have hrest := (List.subperm_append_left (xs.filter (key · = k))).mpr
        (ih hkeys (xs.filter fun x => !decide (key x = k)))
      exact hrest.trans (List.filter_append_perm _ _).subperm

/-- Of the items in front as many count as are taken. -/
theorem take_take_append (xs ys : List α) (n : Nat) :
    (xs.take n ++ ys).take n = (xs ++ ys).take n := by
  rw [List.take_append, List.take_append, List.take_take, Nat.min_self, List.length_take]
  congr 2
  omega

/-- A list is put in front of another: of its first items none is repeated just where those that the
second list adds are new. -/
theorem nodup_take_append_iff {xs ys : List α} (hxs : xs.Nodup) (hys : ys.Nodup) (n : Nat) :
    ((xs ++ ys).take n).Nodup ↔ ∀ y ∈ ys.take (n - xs.length), y ∉ xs := by
  have hfront : (xs.take n).Nodup := hxs.sublist (List.take_sublist n xs)
  have hback : (ys.take (n - xs.length)).Nodup := hys.sublist (List.take_sublist _ ys)
  rw [List.take_append, List.nodup_append, and_iff_right hfront, and_iff_right hback]
  constructor
  · intro hnew y hy hold
    have hsome : 0 < n - xs.length := by
      by_contra hnone
      rw [Nat.eq_zero_of_not_pos hnone, List.take_zero] at hy
      cases hy
    have hwhole : xs.take n = xs := List.take_of_length_le (by omega)
    rw [hwhole] at hnew
    exact hnew y hold y hy rfl
  · rintro hnew x hx y hy rfl
    exact hnew x hy (List.mem_of_mem_take hx)

/-- In a list whose items are ordered one before the other, the first ones are those that few items
stand before. -/
theorem mem_take_iff_countP_lt {before : α → α → Prop} [DecidableRel before] {xs : List α}
    (hordered : xs.Pairwise before)
    (hasymm : ∀ x ∈ xs, ∀ y ∈ xs, before x y → ¬ before y x) {x : α} (hx : x ∈ xs) (n : Nat) :
    x ∈ xs.take n ↔ xs.countP (fun y => before y x) < n := by
  have hself : ¬ before x x := fun h => hasymm x hx x hx h h
  obtain ⟨front, behind, rfl⟩ := List.append_of_mem hx
  obtain ⟨-, hbehind, hfront⟩ := List.pairwise_append.mp hordered
  have hnew : x ∉ front := fun h => hself (hfront x h x List.mem_cons_self)
  have hbefore : front.countP (fun y => before y x) = front.length :=
    List.countP_eq_length.mpr fun y hy => decide_eq_true (hfront y hy x List.mem_cons_self)
  have hafter : (x :: behind).countP (fun y => before y x) = 0 := by
    refine List.countP_eq_zero.mpr fun y hy => ?_
    rw [decide_eq_true_eq]
    rcases List.mem_cons.mp hy with rfl | hy
    · exact hself
    · exact hasymm x hx y (by simp [hy]) ((List.pairwise_cons.mp hbehind).1 y hy)
  rw [List.countP_append, hbefore, hafter, Nat.add_zero, List.take_append, List.mem_append]
  constructor
  · rintro (hmem | hmem)
    · exact absurd (List.mem_of_mem_take hmem) hnew
    · by_contra hfew
      rw [Nat.sub_eq_zero_of_le (Nat.le_of_not_lt hfew)] at hmem
      cases hmem
  · intro hmany
    rw [← Nat.succ_pred_eq_of_pos (Nat.sub_pos_of_lt hmany)]
    exact Or.inr List.mem_cons_self

theorem upTo_sublist (bound : Int) (xs : List α) : (upTo bound xs).Sublist xs := by
  unfold upTo
  split
  · exact List.take_sublist _ _
  · exact List.take_sublist _ _

theorem head?_upTo {bound : Int} (hbound : 1 ≤ bound) (xs : List α) :
    (upTo bound xs).head? = xs.head? := by
  have hsome : bound.toNat ≠ 0 := by omega
  rw [upTo, if_neg (by omega), List.head?_take, if_neg hsome]

end ScriptDocs
