/-
# Letter case within ASCII

Below U+0080 lower casing is the plain one, for single characters and for whole texts, and
two characters are equal without regard to case just where their small letters are.
-/

import ScriptDocs.Text.Letter
import Mathlib.Data.List.Forall2

namespace ScriptDocs.Text

/-- What holds of the first 128 code points holds of every character of ASCII. -/
theorem forall_ascii {p : Char → Prop} (hp : ∀ n : Fin 0x80, p (Char.ofNat n)) {c : Char}
    (hascii : c.toNat < 0x80) : p c := by
  have hc := hp ⟨c.toNat, hascii⟩
  rwa [Char.ofNat_toNat] at hc

theorem isUpper_iff (c : Char) : c.isUpper = true ↔ 0x41 ≤ c.toNat ∧ c.toNat ≤ 0x5A := by
  show decide (c.val ≥ 'A'.val ∧ c.val ≤ 'Z'.val) = true ↔ _
  rw [decide_eq_true_iff]
  exact and_congr UInt32.le_iff_toNat_le UInt32.le_iff_toNat_le

theorem isLower_iff (c : Char) : c.isLower = true ↔ 0x61 ≤ c.toNat ∧ c.toNat ≤ 0x7A := by
  show (decide (c.val ≥ 'a'.val) && decide (c.val ≤ 'z'.val)) = true ↔ _
  rw [Bool.and_eq_true, decide_eq_true_iff, decide_eq_true_iff]
  exact and_congr UInt32.le_iff_toNat_le UInt32.le_iff_toNat_le

/-- The letters that the library knows without a table are those of ASCII. -/
theorem toNat_lt_of_isAlpha {c : Char} (hc : c.isAlpha = true) : c.toNat < 0x80 := by
  have hcase : (c.isUpper || c.isLower) = true := hc
  rw [Bool.or_eq_true, isUpper_iff, isLower_iff] at hcase
  omega

theorem lowerChar_of_ascii {c : Char} (hascii : c.toNat < 0x80) : lowerChar c = c.toLower :=
  forall_ascii (p := fun c => lowerChar c = c.toLower) (by decide) hascii

theorem toLower_ascii {c : Char} (hascii : c.toNat < 0x80) : c.toLower.toNat < 0x80 :=
  forall_ascii (p := fun c => c.toLower.toNat < 0x80) (by decide) hascii

/-- The library changes capitals of ASCII only. -/
theorem toLower_eq_self {c : Char} (habove : 0x80 ≤ c.toNat) : c.toLower = c := by
  refine dif_neg fun hcapital => ?_
  have hlast : c.toNat ≤ 0x5A := UInt32.le_iff_toNat_le.mp hcapital.2
  omega

theorem ascii_of_map_toLower {s : Text} (hascii : ∀ c ∈ s.map Char.toLower, c.toNat < 0x80) :
    ∀ c ∈ s, c.toNat < 0x80 := by
  intro c hc
  by_contra habove
  have hsame := toLower_eq_self (Nat.not_lt.mp habove)
  exact habove (hsame ▸ hascii _ (List.mem_map_of_mem hc))

/-- What shares its capital with a letter of ASCII lies above ASCII. -/
theorem shared_above_ascii :
    ∀ n : Fin 0x80, ∀ m ∈ (sharedCapitals.lookup n.val).getD [], 0x80 ≤ m := by
  decide

theorem sameLetter_iff_of_ascii {a b : Char} (ha : a.toNat < 0x80) (hb : b.toNat < 0x80) :
    sameLetter a b = true ↔ b.toLower = a.toLower := by
  have hshared : (sharedCapitals.lookup a.toLower.toNat).any (·.contains b.toLower.toNat) =
      false := by
    have habove := shared_above_ascii ⟨a.toLower.toNat, toLower_ascii ha⟩
    cases hrow : sharedCapitals.lookup a.toLower.toNat with
    | none => rfl
    | some row =>
        rw [hrow, Option.getD_some] at habove
        have hbelow := toLower_ascii hb
        simp only [Option.any_some, List.contains_eq_mem, decide_eq_false_iff_not]
        intro hmem
        exact absurd (habove _ hmem) (by omega)
  simp only [sameLetter, lowerChar_of_ascii ha, lowerChar_of_ascii hb, hshared, Bool.or_false,
    beq_iff_eq]

theorem lowerAfter_of_ascii {before s : Text} (hascii : ∀ c ∈ s, c.toNat < 0x80) :
    lowerAfter before s = s.map Char.toLower := by
  induction s generalizing before with
  | nil => rfl
  | cons c s ih =>
      have hc := hascii c List.mem_cons_self
      have hdotted : ¬ c.toNat = 0x130 := by omega
      have hsigma : ¬ c.toNat = 0x3A3 := by omega
      simp [lowerAfter, hdotted, hsigma, lowerChar_of_ascii hc,
        ih fun d hd => hascii d (List.mem_cons_of_mem c hd)]

/-- A text of ASCII is lowered character by character. -/
theorem lower_of_ascii {s : Text} (hascii : ∀ c ∈ s, c.toNat < 0x80) :
    lower s = s.map Char.toLower :=
  lowerAfter_of_ascii hascii

/-- A text is a word in any letter case. -/
def Spells (word s : Text) : Prop :=
  List.Forall₂ (fun f c => sameLetter f c = true) word s

theorem spells_refl (word : Text) : Spells word word :=
  List.forall₂_same.mpr fun c _ => by simp [sameLetter]

theorem spells_map_toLower {s : Text} (hascii : ∀ c ∈ s, c.toNat < 0x80) :
    Spells (s.map Char.toLower) s := by
  rw [Spells, List.forall₂_map_left_iff, List.forall₂_same]
  intro c hc
  have hlow := hascii c hc
  rw [sameLetter_iff_of_ascii (toLower_ascii hlow) hlow]
  exact forall_ascii (p := fun c => c.toLower = c.toLower.toLower) (by decide) hlow

/-- A text goes on behind a front without regard to case just where it spells that front letter
by letter. -/
theorem afterFrontAnyCase?_eq_some_iff {front s rest : Text} :
    afterFrontAnyCase? front s = some rest ↔
      ∃ spelling, Spells front spelling ∧ s = spelling ++ rest := by
  unfold Spells
  induction front generalizing s with
  | nil => simp [afterFrontAnyCase?, List.forall₂_nil_left_iff]
  | cons f front ih =>
      cases s with
      | nil => simp [afterFrontAnyCase?, List.forall₂_cons_left_iff]
      | cons c s =>
          by_cases hletter : sameLetter f c = true
          · simp only [afterFrontAnyCase?, hletter, if_true, ih, List.forall₂_cons_left_iff]
            constructor
            · rintro ⟨spelling, hspelling, rfl⟩
              exact ⟨c :: spelling, ⟨c, spelling, hletter, hspelling, rfl⟩, rfl⟩
            · rintro ⟨-, ⟨d, spelling, -, hspelling, rfl⟩, hs⟩
              obtain ⟨rfl, rfl⟩ := List.cons.inj hs
              exact ⟨spelling, hspelling, rfl⟩
          · simp only [afterFrontAnyCase?, hletter, List.forall₂_cons_left_iff]
            constructor
            · intro h
              cases h
            · rintro ⟨-, ⟨d, spelling, hd, -, rfl⟩, hs⟩
              obtain ⟨rfl, -⟩ := List.cons.inj hs
              exact absurd hd hletter

/-- A spelling within ASCII is the word it spells in other cases. -/
theorem map_toLower_eq_of_ascii {word spelling : Text} (hword : ∀ c ∈ word, c.toNat < 0x80)
    (hspelling : ∀ c ∈ spelling, c.toNat < 0x80)
    (hspells : Spells word spelling) :
    spelling.map Char.toLower = word.map Char.toLower := by
  induction hspells with
  | nil => rfl
  | @cons f c front rest hletter _ ih =>
      have hfirst := (sameLetter_iff_of_ascii (hword f List.mem_cons_self)
        (hspelling c List.mem_cons_self)).mp hletter
      rw [List.map_cons, List.map_cons, hfirst,
        ih (fun d hd => hword d (List.mem_cons_of_mem f hd))
          fun d hd => hspelling d (List.mem_cons_of_mem c hd)]

end ScriptDocs.Text
