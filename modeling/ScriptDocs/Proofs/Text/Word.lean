/-
# Words in a text

A word in front of a text, read whole, is the longest run of word characters there. The letters
that only count as equal to a letter of ASCII when case is ignored are word characters too, so
this holds in any letter case.
-/

import ScriptDocs.Proofs.Text.Front
import ScriptDocs.Proofs.Text.Letter
import ScriptDocs.Text.Word

namespace ScriptDocs.Text

/-- The code points that lower casing takes to that of a small letter. -/
def capitalsOf (small : Nat) : List Nat :=
  capitalRuns.filterMap fun run =>
    let capital := ((small : Int) - run.shift).toNat
    if run.covers capital then some capital else none

theorem eq_of_toNat_ofNat {n m : Nat} (hn : 0 < n) (hm : (Char.ofNat m).toNat = n) : m = n := by
  have hcode : (if hvalid : m.isValidChar then Char.ofNatAux m hvalid
      else Char.ofNat 0).toNat = n := hm
  by_cases hvalid : m.isValidChar
  · rw [dif_pos hvalid] at hcode
    exact hcode
  · rw [dif_neg hvalid] at hcode
    exact absurd hcode (Nat.ne_of_lt hn)

/-- What is lowered to a small letter is that letter, a capital of ASCII, or in the table. -/
theorem capital_of_toNat_lowerChar {c : Char} {small : Nat} (hsmall : 0 < small)
    (hlower : (lowerChar c).toNat = small) :
    c.toNat = small ∨ (0x41 ≤ c.toNat ∧ c.toNat ≤ 0x5A) ∨ c.toNat ∈ capitalsOf small := by
  simp only [lowerChar] at hlower
  split at hlower
  · split at hlower
    · rename_i hcapital
      simp only [Bool.and_eq_true, decide_eq_true_eq] at hcapital
      exact Or.inr (Or.inl hcapital)
    · exact Or.inl hlower
  · split at hlower
    · rename_i run hrun
      have hcode := eq_of_toNat_ofNat hsmall hlower
      have hcapital : ((small : Int) - run.shift).toNat = c.toNat := by omega
      refine Or.inr (Or.inr (List.mem_filterMap.mpr ⟨run, List.mem_of_find?_eq_some hrun, ?_⟩))
      rw [hcapital]
      exact if_pos (List.find?_some hrun)
    · exact Or.inl hlower

/-- The small letters that a character equals when case is ignored. -/
def smallOf (c : Char) : List Nat :=
  (lowerChar c).toNat :: (sharedCapitals.lookup (lowerChar c).toNat).getD []

theorem toNat_lowerChar_mem_smallOf {f c : Char} (hletter : sameLetter f c = true) :
    (lowerChar c).toNat ∈ smallOf f := by
  simp only [sameLetter, Bool.or_eq_true, beq_iff_eq] at hletter
  rcases hletter with hsame | hshared
  · exact List.mem_cons.mpr (Or.inl (congrArg Char.toNat hsame))
  · refine List.mem_cons_of_mem _ ?_
    cases hrow : sharedCapitals.lookup (lowerChar f).toNat with
    | none => simp [hrow] at hshared
    | some row => simpa [hrow] using hshared

theorem isWord_of_mem_smallOf : ∀ n : Fin 26, ∀ small ∈ smallOf (Char.ofNat (n + 0x61)),
    0 < small ∧ isWord (Char.ofNat small) = true ∧
      ∀ capital ∈ capitalsOf small, isWord (Char.ofNat capital) = true := by
  decide +kernel

/-- What equals a small letter of ASCII when case is ignored is a word character. -/
theorem isWord_of_sameLetter {f c : Char} (hf : f.isLower = true)
    (hletter : sameLetter f c = true) : isWord c = true := by
  obtain ⟨hfirst, hlast⟩ := (isLower_iff f).mp hf
  have hword := isWord_of_mem_smallOf ⟨f.toNat - 0x61, by omega⟩
  simp only [Nat.sub_add_cancel hfirst, Char.ofNat_toNat] at hword
  obtain ⟨hpos, hsmall, hcapitals⟩ := hword _ (toNat_lowerChar_mem_smallOf hletter)
  rcases capital_of_toNat_lowerChar hpos rfl with hc | hc | hc
  · rwa [← hc, Char.ofNat_toNat] at hsmall
  · rw [isWord, if_pos (by omega)]
    simp only [isPlainWord, Bool.or_eq_true, Bool.and_eq_true, decide_eq_true_eq, beq_iff_eq]
    omega
  · have hcapital := hcapitals _ hc
    rwa [Char.ofNat_toNat] at hcapital

/-- What spells a word in small letters of ASCII is a word. -/
theorem Spells.isWord {word s : Text} (hspells : Spells word s)
    (hlower : word.all Char.isLower = true) : ∀ c ∈ s, isWord c = true := by
  induction hspells with
  | nil => simp
  | @cons f c word s hletter _ ih =>
      rw [List.all_cons, Bool.and_eq_true] at hlower
      exact List.forall_mem_cons.mpr ⟨isWord_of_sameLetter hlower.1 hletter, ih hlower.2⟩

theorem beginsWithWord_eq_false_iff {s : Text} :
    beginsWithWord s = false ↔ s.takeWhile isWord = [] := by
  cases s with
  | nil => simp [beginsWithWord]
  | cons c s => simp [beginsWithWord, List.takeWhile_cons]

/-- The longest word in front of a text is the one that ends there. -/
theorem takeWhile_isWord_eq_iff {word s : Text} (hword : ∀ c ∈ word, isWord c = true) :
    s.takeWhile isWord = word ↔ ∃ rest, s = word ++ rest ∧ beginsWithWord rest = false := by
  constructor
  · rintro rfl
    refine ⟨s.dropWhile isWord, List.takeWhile_append_dropWhile.symm, ?_⟩
    cases hrest : s.dropWhile isWord with
    | nil => rfl
    | cons c rest =>
        have hfirst := List.head?_dropWhile_not isWord s
        rw [hrest] at hfirst
        simpa [beginsWithWord] using hfirst
  · rintro ⟨rest, rfl, hends⟩
    rw [List.takeWhile_append_of_pos hword, beginsWithWord_eq_false_iff.mp hends, List.append_nil]

/-- A word behind a sigil is read where it is the longest one there. -/
theorem exactWord_cons_eq_some_iff {sigil : Char} {word s : Text} {read : Nat}
    (hword : ∀ c ∈ word, isWord c = true) :
    exactWord (sigil :: word) s = some ((), read) ↔
      ∃ rest, s = sigil :: rest ∧ rest.takeWhile isWord = word ∧ read = word.length + 1 := by
  simp only [takeWhile_isWord_eq_iff hword]
  constructor
  · intro hread
    unfold exactWord at hread
    split at hread
    case h_2 => cases hread
    rename_i rest hfront
    obtain rfl := afterFront?_eq_some_iff.mp hfront
    split at hread
    · cases hread
    · rename_i hends
      obtain ⟨-, rfl⟩ := Prod.mk.inj (Option.some.inj hread)
      exact ⟨word ++ rest, rfl, ⟨rest, rfl, by simpa using hends⟩, rfl⟩
  · rintro ⟨-, rfl, ⟨rest, rfl, hends⟩, rfl⟩
    have hfront : afterFront? (sigil :: word) (sigil :: (word ++ rest)) = some rest :=
      afterFront?_eq_some_iff.mpr rfl
    simp [exactWord, hfront, hends]

end ScriptDocs.Text
