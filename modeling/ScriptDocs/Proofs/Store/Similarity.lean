/-
# Similarities are numbers

A similarity is computed in doubles, where a sum of opposite infinities is no number. It never comes
to that: a similarity that is not zero rests on two lengths that are finite, so the squares of all
components are, and the product of two numbers is at most the greater one of their squares. Rounding
keeps this order, and so no product on the way is infinite.
-/

import ScriptDocs.Proofs.Binary64
import ScriptDocs.Store.Similarity
import Mathlib.Data.List.Basic

namespace ScriptDocs

namespace Binary64

variable {x y : Binary64}

theorem isFinite_ofUnits_iff {negative : Bool} {numerator denominator : Nat} :
    (ofUnits negative numerator denominator).isFinite = true ↔
      roundUnits numerator denominator < unitLimit := by
  unfold ofUnits
  dsimp only
  split
  · simp only [isFinite, *]
  · simp only [isFinite, *, Bool.false_eq_true]

theorem ofUnits_ne_notANumber (negative : Bool) (numerator denominator : Nat) :
    ofUnits negative numerator denominator ≠ .notANumber := by
  unfold ofUnits
  dsimp only
  split <;> exact nofun

/-- Where two squares are finite, so is the product. -/
theorem isFinite_mul_of_squares (hx : (x.mul x).isFinite = true) (hy : (y.mul y).isFinite = true) :
    (x.mul y).isFinite = true := by
  cases x with
  | notANumber => cases hx
  | infinite negative => cases hx
  | finite s m =>
      cases y with
      | notANumber => cases hy
      | infinite negative => cases hy
      | finite t n =>
          rw [mul, isFinite_ofUnits_iff] at hx hy ⊢
          rcases Nat.le_total m n with hle | hle
          · exact (roundUnits_mono (Nat.mul_le_mul_right n hle) _).trans_lt hy
          · exact (roundUnits_mono (Nat.mul_le_mul_left m hle) _).trans_lt hx

/-- Only finite numbers have a finite sum. -/
theorem isFinite_of_add (hsum : (x.add y).isFinite = true) :
    x.isFinite = true ∧ y.isFinite = true := by
  cases x with
  | notANumber => cases y <;> cases hsum
  | finite s m =>
      cases y with
      | finite t n => exact ⟨rfl, rfl⟩
      | notANumber | infinite t => cases hsum
  | infinite s =>
      cases y with
      | notANumber | finite t n => cases hsum
      | infinite t =>
          rw [add] at hsum
          split at hsum <;> cases hsum

theorem add_ne_notANumber (hx : x ≠ .notANumber) (hy : y.isFinite = true) :
    x.add y ≠ .notANumber := by
  cases y with
  | notANumber | infinite t => cases hy
  | finite t n =>
      cases x with
      | notANumber => exact absurd rfl hx
      | infinite s => exact nofun
      | finite s m =>
          rw [add]
          split
          · exact nofun
          · exact ofUnits_ne_notANumber _ _ _

theorem isFinite_of_foldl_add {first : Binary64} {rest : List Binary64}
    (hsum : (rest.foldl add first).isFinite = true) :
    first.isFinite = true ∧ ∀ x ∈ rest, x.isFinite = true := by
  induction rest generalizing first with
  | nil => exact ⟨hsum, nofun⟩
  | cons x rest ih =>
      obtain ⟨hfront, hrest⟩ := ih hsum
      obtain ⟨hfirst, hx⟩ := isFinite_of_add hfront
      exact ⟨hfirst, List.forall_mem_cons.mpr ⟨hx, hrest⟩⟩

theorem foldl_add_ne_notANumber {first : Binary64} {rest : List Binary64}
    (hfirst : first ≠ .notANumber) (hrest : ∀ x ∈ rest, x.isFinite = true) :
    rest.foldl add first ≠ .notANumber := by
  induction rest generalizing first with
  | nil => exact hfirst
  | cons x rest ih =>
      obtain ⟨hx, hrest⟩ := List.forall_mem_cons.mp hrest
      exact ih (add_ne_notANumber hfirst hx) hrest

/-- Only a finite number has a finite root. -/
theorem isFinite_of_sqrt (hroot : x.sqrt.isFinite = true) : x.isFinite = true := by
  cases x with
  | notANumber => cases hroot
  | infinite negative => cases negative <;> cases hroot
  | finite negative units => rfl

theorem isFinite_of_mul (hproduct : (x.mul y).isFinite = true) :
    x.isFinite = true ∧ y.isFinite = true := by
  cases x with
  | notANumber => cases y <;> cases hproduct
  | infinite s =>
      cases y with
      | notANumber | infinite t => cases hproduct
      | finite t n =>
          rw [mul] at hproduct
          split at hproduct <;> cases hproduct
  | finite s m =>
      cases y with
      | notANumber => cases hproduct
      | finite t n => exact ⟨rfl, rfl⟩
      | infinite t =>
          rw [mul] at hproduct
          split at hproduct <;> cases hproduct

theorem div_ne_notANumber (hx : x ≠ .notANumber) (hy : y.isFinite = true)
    (hsome : y.isZero = false) : x.div y ≠ .notANumber := by
  cases y with
  | notANumber | infinite t => cases hy
  | finite t n =>
      have hunits : n ≠ 0 := by
        rintro rfl
        cases t <;> cases hsome
      cases x with
      | notANumber => exact absurd rfl hx
      | infinite s => exact nofun
      | finite s m =>
          rw [div, if_neg hunits]
          exact ofUnits_ne_notANumber _ _ _

theorem clip_ne_notANumber {low high : Binary64} (hx : x ≠ .notANumber) (hlow : low ≠ .notANumber)
    (hhigh : high ≠ .notANumber) : x.clip low high ≠ .notANumber := by
  unfold clip
  split_ifs <;> assumption

end Binary64

open Binary64

/-- The products of the components of two vectors are those of two components. -/
theorem exists_of_mem_products {a b : Vector64} {product : Binary64}
    (hproduct : product ∈ a.zipWith Binary64.mul b) : ∃ x ∈ a, ∃ y ∈ b, product = x.mul y := by
  rw [← List.map_uncurry_zip_eq_zipWith] at hproduct
  obtain ⟨⟨x, y⟩, hpair, rfl⟩ := List.mem_map.mp hproduct
  obtain ⟨hx, hy⟩ := List.of_mem_zip hpair
  exact ⟨x, hx, y, hy, rfl⟩

/-- A vector of finite length has components with finite squares. -/
theorem isFinite_square_of_norm {a : Vector64} (hnorm : (euclideanNorm a).isFinite = true)
    {x : Binary64} (hx : x ∈ a) : (x.mul x).isFinite = true := by
  refine (isFinite_of_foldl_add (isFinite_of_sqrt hnorm)).2 _ ?_
  rw [List.zipWith_self]
  exact List.mem_map_of_mem hx

theorem dotProduct_ne_notANumber {a b : Vector64} (ha : (euclideanNorm a).isFinite = true)
    (hb : (euclideanNorm b).isFinite = true) : dotProduct a b ≠ .notANumber := by
  refine foldl_add_ne_notANumber nofun fun product hproduct => ?_
  obtain ⟨x, hx, y, hy, rfl⟩ := exists_of_mem_products hproduct
  exact isFinite_mul_of_squares (isFinite_square_of_norm ha hx) (isFinite_square_of_norm hb hy)

theorem similarity_ne_notANumber (a b : Vector64) : similarity a b ≠ .notANumber := by
  unfold similarity
  dsimp only
  split
  · exact nofun
  split
  · exact nofun
  · rename_i hnorms
    obtain ⟨hsome, hfinite⟩ := not_or.mp hnorms
    rw [Bool.not_eq_true] at hsome
    rw [Bool.not_eq_true', Bool.not_eq_false] at hfinite
    obtain ⟨ha, hb⟩ := isFinite_of_mul hfinite
    have hquotient := div_ne_notANumber (dotProduct_ne_notANumber ha hb) hfinite hsome
    exact clip_ne_notANumber hquotient nofun nofun

end ScriptDocs
