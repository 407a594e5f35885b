/-
# Small letters

Lowering takes a capital to a small letter and leaves every other character alone, so a text in
lower case is lowered to itself. A character of white space stays what it is, and no letter becomes
one. For the capitals above ASCII all of this is read off their runs: what a run is shifted to
holds characters that are no white space, and no capital of any run.
-/

import ScriptDocs.Proofs.Text.Blank
import ScriptDocs.Proofs.Text.Word

namespace ScriptDocs.Text

/-- Whether the code points from `first` to `last` are those of letters of ASCII, or lie above ASCII
and are those of characters that are no white space. -/
def areInked (first last : Nat) : Bool :=
  (0x41 ≤ first && last ≤ 0x7A) || (0xA1 ≤ first && last < 0x1680)
    || (0x1680 < first && last < 0x2000) || (0x205F < first && last < 0x3000)
    || (0x3000 < first && last < 0xD800) || (0xDFFF < first && last < 0x110000)

theorem toNat_ofNat_of_areInked {first last n : Nat} (hinked : areInked first last = true)
    (hfirst : first ≤ n) (hlast : n ≤ last) : (Char.ofNat n).toNat = n := by
  simp only [areInked, Bool.or_eq_true, Bool.and_eq_true, decide_eq_true_eq] at hinked
  have hvalid : n.isValidChar := by
    unfold Nat.isValidChar
    omega
  rw [Char.ofNat, dif_pos hvalid]
  rfl

theorem isBlank_of_areInked {first last : Nat} (hinked : areInked first last = true) {c : Char}
    (hfirst : first ≤ c.toNat) (hlast : c.toNat ≤ last) : isBlank c = false := by
  simp only [areInked, Bool.or_eq_true, Bool.and_eq_true, decide_eq_true_eq] at hinked
  simp only [isBlank, Bool.or_eq_false_iff, Bool.and_eq_false_iff, decide_eq_false_iff_not,
    beq_eq_false_iff_ne]
  omega

namespace CapitalRun

theorem covers_iff {run : CapitalRun} {n : Nat} :
    run.covers n = true ↔ (run.first ≤ n ∧ n ≤ run.last) ∧ (n - run.first) % run.step = 0 := by
  simp only [covers, Bool.and_eq_true, decide_eq_true_eq, beq_iff_eq]

/-- The code point of the small letter of the first capital of a run. -/
def firstSmall (run : CapitalRun) : Nat :=
  (run.first + run.shift).toNat

/-- The code point of the small letter of the last capital of a run. -/
def lastSmall (run : CapitalRun) : Nat :=
  (run.last + run.shift).toNat

/-- Whether the small letters of a run are seen to be no capitals of another: they lie elsewhere, or
every other code point is a capital there and they are the ones between. -/
def isClearOf (run other : CapitalRun) : Bool :=
  Nat.blt run.lastSmall other.first || Nat.blt other.last run.firstSmall
    || ((run.step == 2 || run.first == run.last) && other.step == 2
      && (run.firstSmall + other.first) % 2 == 1)

theorem isClearOf_of_mem :
    capitalRuns.all (fun run => capitalRuns.all run.isClearOf) = true := by
  decide +kernel

/-- The capitals of a run lie above ASCII. Its small letters do too or are those of ASCII, and
neither are white space. -/
theorem areInked_of_mem : ∀ run ∈ capitalRuns, 0xA1 ≤ run.first ∧
    areInked run.first run.last = true ∧ areInked run.firstSmall run.lastSmall = true ∧
      (run.firstSmall < 0x80 → 0x61 ≤ run.firstSmall) := by
  decide +kernel

/-- A capital of a run is a character above ASCII and no white space. Its small letter is not white
space either and no capital, and it lies above ASCII or is a small letter of ASCII. -/
theorem small_of_covers {run : CapitalRun} (hrun : run ∈ capitalRuns) {c : Char}
    (hcovers : run.covers c.toNat = true) :
    let small := Char.ofNat (c.toNat + run.shift).toNat
    0x80 ≤ c.toNat ∧ isBlank c = false ∧ isBlank small = false ∧ 0x61 ≤ small.toNat ∧
      (∀ other ∈ capitalRuns, other.covers small.toNat = false) := by
  obtain ⟨⟨hfirst, hlast⟩, hstep⟩ := covers_iff.mp hcovers
  obtain ⟨habove, hcapitals, hsmalls, hascii⟩ := areInked_of_mem run hrun
  intro small
  have hpos : 0 < run.firstSmall := by
    simp only [areInked, Bool.or_eq_true, Bool.and_eq_true, decide_eq_true_eq] at hsmalls
    omega
  have hfrom : run.firstSmall ≤ (c.toNat + run.shift).toNat := by
    unfold firstSmall
    omega
  have hto : (c.toNat + run.shift).toNat ≤ run.lastSmall := by
    unfold lastSmall
    omega
  have hcode : small.toNat = (c.toNat + run.shift).toNat :=
    toNat_ofNat_of_areInked hsmalls hfrom hto
  rw [← hcode] at hfrom hto
  refine ⟨by omega, isBlank_of_areInked hcapitals hfirst hlast,
    isBlank_of_areInked hsmalls hfrom hto, by omega, fun other hother => ?_⟩
  have hclear : run.isClearOf other = true :=
    List.all_eq_true.mp (List.all_eq_true.mp isClearOf_of_mem run hrun) other hother
  simp only [isClearOf, Bool.or_eq_true, Nat.blt_eq, Bool.and_eq_true, beq_iff_eq] at hclear
  rw [Bool.eq_false_iff, Ne, covers_iff]
  rintro ⟨⟨hotherFirst, hotherLast⟩, hotherStep⟩
  rcases hclear with (hbefore | hbehind) | ⟨⟨hsteps, hother⟩, hodd⟩
  · omega
  · omega
  · -- The small letters of the run keep to the places between the capitals of the other.
    have heven : (small.toNat - run.firstSmall) % 2 = 0 := by
      unfold firstSmall at hpos ⊢
      rcases hsteps with htwo | hone
      · rw [htwo] at hstep
        omega
      · omega
    rw [hother] at hotherStep
    omega

end CapitalRun

/-- A character is no capital of ASCII and of no run and lowering leaves it alone, or it is a
capital of ASCII, or one of a run. -/
theorem lowerChar_cases (c : Char) :
    lowerChar c = c ∨ (c.toNat < 0x80 ∧ lowerChar c = c.toLower) ∨
      ∃ run ∈ capitalRuns, run.covers c.toNat = true ∧
        lowerChar c = Char.ofNat (c.toNat + run.shift).toNat := by
  by_cases hascii : c.toNat < 0x80
  · exact Or.inr (Or.inl ⟨hascii, lowerChar_of_ascii hascii⟩)
  · simp only [lowerChar, if_neg hascii]
    cases hrun : capitalRuns.find? fun run => run.covers c.toNat with
    | none => exact Or.inl rfl
    | some run =>
        have hcovers : run.covers c.toNat = true := by simpa using List.find?_some hrun
        exact Or.inr (Or.inr ⟨run, List.mem_of_find?_eq_some hrun, hcovers, rfl⟩)

/-- A character that no run covers and that is not a capital of ASCII is a small letter, or none. -/
theorem lowerChar_eq_self {c : Char} (hascii : c.toNat < 0x41 ∨ 0x5A < c.toNat)
    (hruns : ∀ run ∈ capitalRuns, run.covers c.toNat = false) : lowerChar c = c := by
  have hnone : capitalRuns.find? (fun run => run.covers c.toNat) = none :=
    List.find?_eq_none.mpr fun run hrun => by simp [hruns run hrun]
  have hcapital : (decide (0x41 ≤ c.toNat) && decide (c.toNat ≤ 0x5A)) = false := by
    rw [Bool.and_eq_false_iff, decide_eq_false_iff_not, decide_eq_false_iff_not]
    omega
  simp only [lowerChar, hnone, hcapital, Bool.false_eq_true, if_false, ite_self]

/-- A small letter is left alone. -/
theorem lowerChar_lowerChar (c : Char) : lowerChar (lowerChar c) = lowerChar c := by
  rcases lowerChar_cases c with hself | ⟨hascii, -⟩ | ⟨run, hrun, hcovers, hsmall⟩
  · rw [hself, hself]
  · exact forall_ascii (p := fun c => lowerChar (lowerChar c) = lowerChar c) (by decide) hascii
  · obtain ⟨-, -, -, hletter, hclear⟩ := CapitalRun.small_of_covers hrun hcovers
    rw [hsmall]
    exact lowerChar_eq_self (by omega) hclear

/-- White space is no letter, and no letter is lowered to white space. -/
theorem isBlank_lowerChar (c : Char) : isBlank (lowerChar c) = isBlank c := by
  rcases lowerChar_cases c with hself | ⟨hascii, -⟩ | ⟨run, hrun, hcovers, hsmall⟩
  · rw [hself]
  · exact forall_ascii (p := fun c => isBlank (lowerChar c) = isBlank c) (by decide) hascii
  · obtain ⟨-, hcapital, hblank, -, -⟩ := CapitalRun.small_of_covers hrun hcovers
    rw [hsmall, hblank, hcapital]

theorem toLower_of_not_ascii {c : Char} (hascii : ¬ c.toNat < 0x80) : c.toLower = c := by
  refine dif_neg ?_
  rintro ⟨-, hlast⟩
  exact hascii (Nat.lt_of_le_of_lt (UInt32.le_iff_toNat_le.mp hlast) (by decide))

/-- What is lowered to a character of ASCII that no letter above ASCII is lowered to is that
character or its capital in ASCII. -/
theorem lowerChar_eq_iff {c d : Char} (hd : 0 < d.toNat ∧ d.toNat < 0x80)
    (hnone : capitalsOf d.toNat = []) : lowerChar c = d ↔ c.toLower = d := by
  by_cases hascii : c.toNat < 0x80
  · rw [lowerChar_of_ascii hascii]
  · rw [toLower_of_not_ascii hascii]
    constructor
    · intro hlower
      rcases capital_of_toNat_lowerChar hd.1 (congrArg Char.toNat hlower) with hsame | hcapital | hc
      · exact Char.toNat_inj.mp hsame
      · omega
      · rw [hnone] at hc
        cases hc
    · rintro rfl
      exact absurd hd.2 hascii

/-- What a character is lowered to within a text: its small letter, but for a capital sigma that
ends a word and for the dotted capital. -/
inductive LowersTo : Char → Text → Prop
  | letter (c : Char) : LowersTo c [lowerChar c]
  | finalSigma : LowersTo (Char.ofNat 0x3A3) [Char.ofNat 0x3C2]
  | dotted : LowersTo (Char.ofNat 0x130) ['i', Char.ofNat 0x307]

namespace LowersTo

variable {c : Char} {part : Text}

theorem ne_nil (hlowers : LowersTo c part) : part ≠ [] := by
  cases hlowers <;> exact List.cons_ne_nil _ _

theorem lowerChar_eq (hlowers : LowersTo c part) : ∀ d ∈ part, lowerChar d = d := by
  cases hlowers with
  | letter => simpa using lowerChar_lowerChar c
  | finalSigma => exact List.forall_mem_singleton.mpr (by decide)
  | dotted => exact List.forall_mem_cons.mpr ⟨by decide, List.forall_mem_singleton.mpr (by decide)⟩

theorem isBlank_eq (hlowers : LowersTo c part) : ∀ d ∈ part, isBlank d = isBlank c := by
  cases hlowers with
  | letter => simpa using isBlank_lowerChar c
  | finalSigma => exact List.forall_mem_singleton.mpr (by decide)
  | dotted => exact List.forall_mem_cons.mpr ⟨by decide, List.forall_mem_singleton.mpr (by decide)⟩

theorem eq_sigil_iff (hlowers : LowersTo c part) : ∀ d ∈ part, d = '$' ↔ c = '$' := by
  cases hlowers with
  | letter =>
      have hsigil : lowerChar c = '$' ↔ c.toLower = '$' :=
        lowerChar_eq_iff (by decide) (by decide +kernel)
      rw [List.forall_mem_singleton, hsigil]
      by_cases hascii : c.toNat < 0x80
      · exact forall_ascii (p := fun c => c.toLower = '$' ↔ c = '$') (by decide) hascii
      · rw [toLower_of_not_ascii hascii]
  | finalSigma => exact List.forall_mem_singleton.mpr (by decide)
  | dotted => exact List.forall_mem_cons.mpr ⟨by decide, List.forall_mem_singleton.mpr (by decide)⟩

end LowersTo

/-- A text is lowered character by character. -/
theorem exists_parts_lowerAfter (before s : Text) :
    ∃ parts, List.Forall₂ LowersTo s parts ∧ lowerAfter before s = parts.flatten := by
  induction s generalizing before with
  | nil => exact ⟨[], .nil, rfl⟩
  | cons c s ih =>
      obtain ⟨parts, hparts, hrest⟩ := ih (c :: before)
      obtain ⟨part, hpart, hsmall⟩ : ∃ part, LowersTo c part ∧
          lowerAfter before (c :: s) = part ++ lowerAfter (c :: before) s := by
        rw [lowerAfter]
        by_cases hdotted : c.toNat = 0x130
        · obtain rfl : c = Char.ofNat 0x130 := Char.toNat_inj.mp hdotted
          exact ⟨_, .dotted, rfl⟩
        by_cases hsigma : c.toNat = 0x3A3
        · obtain rfl : c = Char.ofNat 0x3A3 := Char.toNat_inj.mp hsigma
          have hsmall : lowerChar (Char.ofNat 0x3A3) = Char.ofNat 0x3C3 := by decide
          by_cases hfinal : (meetsCased before && !meetsCased s) = true
          · exact ⟨_, .finalSigma, by simp [hfinal]⟩
          · exact ⟨_, .letter _, by simp [hfinal, hsmall]⟩
        · exact ⟨_, .letter c, by simp [hdotted, hsigma]⟩
      exact ⟨part :: parts, .cons hpart hparts, by rw [hsmall, hrest, List.flatten_cons]⟩

theorem lowerChar_eq_of_mem_lower {s : Text} {c : Char} (hc : c ∈ lower s) : lowerChar c = c := by
  obtain ⟨parts, hparts, hlower⟩ := exists_parts_lowerAfter [] s
  rw [lower, hlower] at hc
  clear hlower
  induction hparts with
  | nil => cases hc
  | cons hpart _ ih =>
      rw [List.flatten_cons, List.mem_append] at hc
      exact hc.elim (hpart.lowerChar_eq c) ih

theorem lowerAfter_eq_self {before s : Text} (hsmall : ∀ c ∈ s, lowerChar c = c) :
    lowerAfter before s = s := by
  induction s generalizing before with
  | nil => rfl
  | cons c s ih =>
      obtain ⟨hc, hrest⟩ := List.forall_mem_cons.mp hsmall
      have hdotted : ¬ c.toNat = 0x130 := fun hcode => by
        obtain rfl : c = Char.ofNat 0x130 := Char.toNat_inj.mp hcode
        exact absurd hc (by decide)
      have hsigma : ¬ c.toNat = 0x3A3 := fun hcode => by
        obtain rfl : c = Char.ofNat 0x3A3 := Char.toNat_inj.mp hcode
        exact absurd hc (by decide)
      simp [lowerAfter, hdotted, hsigma, hc, ih hrest]

/-- A text of small letters is in lower case. -/
theorem lower_eq_self {s : Text} (hsmall : ∀ c ∈ s, lowerChar c = c) : lower s = s :=
  lowerAfter_eq_self hsmall

/-- Lowering a text once more changes nothing. -/
theorem lower_lower (s : Text) : lower (lower s) = lower s :=
  lower_eq_self fun _ => lowerChar_eq_of_mem_lower

/-- A text is lowered to characters of ASCII that no letter above ASCII is lowered to just where it
is written with them and with their capitals in ASCII. -/
theorem lower_eq_iff {s t : Text}
    (ht : ∀ d ∈ t, (0 < d.toNat ∧ d.toNat < 0x80) ∧ capitalsOf d.toNat = []) :
    lower s = t ↔ s.map Char.toLower = t := by
  constructor
  · intro hlower
    obtain ⟨parts, hparts, hwhole⟩ := exists_parts_lowerAfter [] s
    obtain rfl : parts.flatten = t := hwhole.symm.trans hlower
    clear hlower hwhole
    induction hparts with
    | nil => rfl
    | @cons c part s parts hpart _ ih =>
        rw [List.flatten_cons, List.forall_mem_append] at ht
        rw [List.map_cons, List.flatten_cons, ih ht.2]
        cases hpart with
        | letter =>
            obtain ⟨hascii, hnone⟩ := ht.1 _ List.mem_cons_self
            rw [(lowerChar_eq_iff hascii hnone).mp rfl]
            rfl
        | finalSigma => exact absurd (ht.1 _ List.mem_cons_self).1 (by decide)
        | dotted => exact absurd (ht.1 (Char.ofNat 0x307) (by simp)).1 (by decide)
  · rintro rfl
    refine lower_of_ascii fun c hc => ?_
    by_contra hascii
    have hself := ht c.toLower (List.mem_map_of_mem hc)
    rw [toLower_of_not_ascii hascii] at hself
    exact hascii hself.1.2

/-- A text begins with white space, or with a sigil, just where its lower case does. -/
theorem exists_head?_lower_cons (c : Char) (s : Text) :
    ∃ d, (lower (c :: s)).head? = some d ∧ isBlank d = isBlank c ∧ (d = '$' ↔ c = '$') := by
  obtain ⟨parts, hparts, hlower⟩ := exists_parts_lowerAfter [] (c :: s)
  obtain ⟨part, others, hpart, -, rfl⟩ := List.forall₂_cons_left_iff.mp hparts
  obtain ⟨d, part, rfl⟩ := List.exists_cons_of_ne_nil hpart.ne_nil
  exact ⟨d, by rw [lower, hlower]; rfl, hpart.isBlank_eq d List.mem_cons_self,
    hpart.eq_sigil_iff d List.mem_cons_self⟩

/-- A text ends with white space just where its lower case does. -/
theorem exists_getLast?_lower_concat (s : Text) (c : Char) :
    ∃ d, (lower (s ++ [c])).getLast? = some d ∧ isBlank d = isBlank c := by
  obtain ⟨parts, hparts, hlower⟩ := exists_parts_lowerAfter [] (s ++ [c])
  rw [← List.forall₂_reverse_iff, List.reverse_concat] at hparts
  obtain ⟨part, others, hpart, -, hreversed⟩ := List.forall₂_cons_left_iff.mp hparts
  obtain rfl : parts = others.reverse ++ [part] := by
    rw [← List.reverse_cons, ← hreversed, List.reverse_reverse]
  obtain ⟨front, d, rfl⟩ := (List.eq_nil_or_concat' part).resolve_left hpart.ne_nil
  exact ⟨d, by simp [lower, hlower], hpart.isBlank_eq d (by simp)⟩

end ScriptDocs.Text
