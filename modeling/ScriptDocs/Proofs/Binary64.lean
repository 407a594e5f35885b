/-
# Integers beyond all doubles

Rounding keeps the order of quotients, and it leaves a quotient between the powers of two around it.

An integer has a double unless it rounds to 2 to the power 1024 or more. The greatest finite
double is `2^1024 - 2^971`, and an integer halfway from there to `2^1024` is a tie, which
goes to the even neighbour and so beyond all doubles: the midpoint, `2^1024 - 2^970`, is the
least magnitude of an integer without a double.
-/

import ScriptDocs.Binary64.Basic
import Mathlib.Data.Nat.Log
import Mathlib.Tactic.Ring

namespace ScriptDocs

/-- Rounding reaches an even number just where the exact quotient comes within one half of it. -/
theorem le_nearestEven_iff {numerator half target : Nat} (hhalf : 0 < half)
    (heven : target % 2 = 0) (htarget : 0 < target) :
    target ≤ nearestEven numerator (2 * half) ↔ target * (2 * half) ≤ numerator + half := by
  have hsplit := Nat.div_add_mod numerator (2 * half)
  have hremainder := Nat.mod_lt numerator (show 0 < 2 * half by omega)
  unfold nearestEven
  dsimp only
  generalize numerator / (2 * half) = quotient at hsplit ⊢
  generalize numerator % (2 * half) = remainder at hsplit hremainder ⊢
  rw [← hsplit, mul_comm target]
  -- The quotient is compared with the last number below the target, which is odd.
  obtain ⟨before, rfl⟩ : ∃ before, target = before + 1 := ⟨target - 1, by omega⟩
  rcases Nat.lt_trichotomy quotient before with hlow | rfl | hhigh
  · have hfar : 2 * half * (quotient + 1) ≤ 2 * half * before := Nat.mul_le_mul_left _ hlow
    rw [Nat.mul_add] at hfar ⊢
    split_ifs <;> omega
  · rw [Nat.mul_add]
    split_ifs <;> omega
  · have hreached : 2 * half * (before + 1) ≤ 2 * half * quotient := Nat.mul_le_mul_left _ hhigh
    split_ifs <;> omega

theorem div_le_nearestEven (numerator denominator : Nat) :
    numerator / denominator ≤ nearestEven numerator denominator := by
  unfold nearestEven
  dsimp only
  split_ifs <;> omega

theorem nearestEven_le (numerator denominator : Nat) :
    nearestEven numerator denominator ≤ numerator / denominator + 1 := by
  unfold nearestEven
  dsimp only
  split_ifs <;> omega

theorem nearestEven_mono {numerator larger : Nat} (hle : numerator ≤ larger) (denominator : Nat) :
    nearestEven numerator denominator ≤ nearestEven larger denominator := by
  have hquotients : numerator / denominator ≤ larger / denominator := Nat.div_le_div_right hle
  rcases Nat.lt_or_eq_of_le hquotients with hless | hsame
  · calc nearestEven numerator denominator
        _ ≤ numerator / denominator + 1 := nearestEven_le numerator denominator
        _ ≤ larger / denominator := hless
        _ ≤ nearestEven larger denominator := div_le_nearestEven larger denominator
  · have hfirst := Nat.div_add_mod numerator denominator
    have hsecond := Nat.div_add_mod larger denominator
    rw [← hsame] at hsecond
    unfold nearestEven
    dsimp only
    rw [← hsame]
    split_ifs <;> omega

namespace Binary64

/-- A number with more than 53 bits reaches the power of two in front of it. -/
theorem pow_mul_pow_le {quotient excess : Nat} (hbits : quotient.log2 + 1 - 53 = excess)
    (hmany : 0 < excess) : 2 ^ 52 * 2 ^ excess ≤ quotient := by
  have hsome : quotient ≠ 0 := by
    rintro rfl
    simp at hbits
    omega
  have hlog : quotient.log2 = 52 + excess := by omega
  rw [← pow_add, ← hlog]
  exact Nat.log2_self_le hsome

/-- A quotient with more than 53 bits is not rounded below the power of two in front of it. -/
theorem le_roundUnits {numerator denominator excess : Nat}
    (hbits : (numerator / denominator).log2 + 1 - 53 = excess) (hmany : 0 < excess) :
    2 ^ 52 * 2 ^ excess ≤ roundUnits numerator denominator := by
  have hleading : 2 ^ 52 ≤ numerator / (denominator * 2 ^ excess) := by
    rw [← Nat.div_div_eq_div_mul]
    exact (Nat.le_div_iff_mul_le (Nat.two_pow_pos excess)).mpr (pow_mul_pow_le hbits hmany)
  unfold roundUnits
  dsimp only
  rw [hbits]
  exact Nat.mul_le_mul_right _ (hleading.trans (div_le_nearestEven _ _))

/-- A quotient is not rounded beyond the next power of two. -/
theorem roundUnits_le {numerator denominator excess : Nat}
    (hbits : (numerator / denominator).log2 + 1 - 53 = excess) :
    roundUnits numerator denominator ≤ 2 ^ 53 * 2 ^ excess := by
  have hunits : numerator / denominator < 2 ^ 53 * 2 ^ excess := by
    rw [← pow_add]
    exact Nat.lt_log2_self.trans_le (Nat.pow_le_pow_right two_pos (by omega))
  have hleading : numerator / (denominator * 2 ^ excess) < 2 ^ 53 := by
    rw [← Nat.div_div_eq_div_mul]
    exact Nat.div_lt_of_lt_mul (by rwa [mul_comm])
  unfold roundUnits
  dsimp only
  rw [hbits]
  exact Nat.mul_le_mul_right _ ((nearestEven_le _ _).trans hleading)

theorem roundUnits_mono {numerator larger : Nat} (hle : numerator ≤ larger) (denominator : Nat) :
    roundUnits numerator denominator ≤ roundUnits larger denominator := by
  have hquotients : numerator / denominator ≤ larger / denominator := Nat.div_le_div_right hle
  have hlogs : (numerator / denominator).log2 ≤ (larger / denominator).log2 := by
    rw [Nat.log2_eq_log_two, Nat.log2_eq_log_two]
    exact Nat.log_mono_right hquotients
  obtain ⟨few, hfew⟩ : ∃ few, (numerator / denominator).log2 + 1 - 53 = few := ⟨_, rfl⟩
  obtain ⟨many, hmany⟩ : ∃ many, (larger / denominator).log2 + 1 - 53 = many := ⟨_, rfl⟩
  rcases Nat.lt_or_eq_of_le (show few ≤ many by omega) with hless | rfl
  · calc roundUnits numerator denominator
        _ ≤ 2 ^ 53 * 2 ^ few := roundUnits_le hfew
        _ = 2 ^ 52 * 2 ^ (few + 1) := by ring
        _ ≤ 2 ^ 52 * 2 ^ many := Nat.mul_le_mul_left _ (Nat.pow_le_pow_right two_pos hless)
        _ ≤ roundUnits larger denominator := le_roundUnits hmany (by omega)
  · unfold roundUnits
    dsimp only
    rw [hfew, hmany]
    exact Nat.mul_le_mul_right _ (nearestEven_mono hle _)

/-- The midpoint of the greatest finite double and the next power of two. -/
def integerLimit : Nat := 2 ^ 1024 - 2 ^ 970

/-- Rounding to 53 bits keeps a number below a power of two just where it stays away from it by
more than half of the last bit. -/
theorem roundUnits_lt_iff (units power : Nat) :
    roundUnits units 1 < 2 ^ (power + 54) ↔ units + 2 ^ power < 2 ^ (power + 54) := by
  have hhalf : 0 < 2 ^ power := Nat.two_pow_pos power
  have htop : 2 ^ (power + 54) = 2 ^ 53 * (2 * 2 ^ power) := by ring
  obtain ⟨excess, hexcess⟩ : ∃ excess, units.log2 + 1 - 53 = excess := ⟨_, rfl⟩
  have hround : roundUnits units 1 = nearestEven units (2 ^ excess) * 2 ^ excess := by
    simp [roundUnits, hexcess]
  rw [hround]
  rcases Nat.lt_trichotomy units.log2 (power + 53) with hlow | hsame | hhigh
  · -- Far below the power of two, neither side of the equivalence can fail.
    have hunits : units < 2 ^ (power + 53) :=
      Nat.lt_log2_self.trans_le (Nat.pow_le_pow_right two_pos hlow)
    have hstep : 2 ^ excess ≤ 2 ^ power := Nat.pow_le_pow_right two_pos (by omega)
    have hrounded : nearestEven units (2 ^ excess) * 2 ^ excess ≤ units + 2 ^ excess := by
      calc _ ≤ (units / 2 ^ excess + 1) * 2 ^ excess := Nat.mul_le_mul_right _ (nearestEven_le _ _)
        _ = units / 2 ^ excess * 2 ^ excess + 2 ^ excess := by ring
        _ ≤ units + 2 ^ excess := Nat.add_le_add_right (Nat.div_mul_le_self _ _) _
    have hbelow : 2 ^ (power + 53) = 2 ^ 52 * (2 * 2 ^ power) := by ring
    constructor <;> intro <;> omega
  · obtain rfl : excess = power + 1 := by omega
    rw [pow_succ', htop, ← not_le, ← not_le, not_iff_not,
      Nat.mul_le_mul_right_iff (by omega), le_nearestEven_iff hhalf (by norm_num) (by norm_num)]
  · -- From the power of two on, rounding does not go below it.
    have hunits : 2 ^ 52 * 2 ^ excess ≤ units := pow_mul_pow_le hexcess (by omega)
    have hrounded : 2 ^ 52 * 2 ^ excess ≤ roundUnits units 1 :=
      le_roundUnits (by rw [Nat.div_one, hexcess]) (by omega)
    rw [hround] at hrounded
    have hpower : 2 ^ (power + 54) ≤ 2 ^ 52 * 2 ^ excess := by
      rw [← pow_add]
      exact Nat.pow_le_pow_right two_pos (by omega)
    constructor <;> intro <;> omega

/-- A distance of powers of two can be told in greater units. -/
theorem mul_pow_add_lt_iff (n gap top scale : Nat) :
    n * 2 ^ scale + 2 ^ (gap + scale) < 2 ^ (top + scale) ↔ n + 2 ^ gap < 2 ^ top := by
  rw [pow_add, pow_add, ← Nat.add_mul, Nat.mul_lt_mul_right (Nat.two_pow_pos scale)]

/-- An integer has no double just where it is at least as far from zero as the midpoint. -/
theorem ofInt?_eq_none_iff (n : Int) : ofInt? n = none ↔ integerLimit ≤ n.natAbs := by
  have hfinite : ofInt? n = none ↔ ¬ roundUnits (n.natAbs * unitsOfOne) 1 < unitLimit := by
    unfold ofInt? ofInt ofRatio ofUnits
    dsimp only
    split <;> simp_all [isFinite]
  have hlimit : roundUnits (n.natAbs * unitsOfOne) 1 < unitLimit ↔
      n.natAbs * 2 ^ 1074 + 2 ^ (970 + 1074) < 2 ^ (1024 + 1074) := roundUnits_lt_iff _ 2044
  rw [hfinite, hlimit, mul_pow_add_lt_iff, integerLimit]
  omega

end Binary64

end ScriptDocs
