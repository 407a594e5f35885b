/-
# The names in a snippet

A name stands at a place of a snippet where a sigil and a name that does not go on begin there.
The names of a snippet are those that stand anywhere in it, each once, and one comes before another
just where it stands before the other for the first time. Those that spell a word of control flow in
any letter case are left out for the lookups.
-/

import ScriptDocs.Proofs.Snippet.Closing

namespace ScriptDocs.Snippet

/-- A name with its sigil begins at a place of a snippet and ends before a character that no name
has. -/
def StandsAt (code name : Text) (place : Nat) : Prop :=
  ∃ before word behind, code = before ++ '$' :: (word ++ behind) ∧ before.length = place ∧
    name = '$' :: word ∧ IsName word ∧ EndsName behind

theorem not_standsAt_nil (name : Text) (place : Nat) : ¬ StandsAt [] name place := by
  rintro ⟨before, word, behind, hcode, -⟩
  simp at hcode

/-- What stands behind the first character stands in the rest. -/
theorem standsAt_succ {c : Char} {s name : Text} {place : Nat} :
    StandsAt (c :: s) name (place + 1) ↔ StandsAt s name place := by
  constructor
  · rintro ⟨before, word, behind, hcode, hplace, hname⟩
    cases before with
    | nil => cases hplace
    | cons d before =>
        rw [List.cons_append, List.cons.injEq] at hcode
        exact ⟨before, word, behind, hcode.2, Nat.succ.inj hplace, hname⟩
  · rintro ⟨before, word, behind, rfl, rfl, hname⟩
    exact ⟨c :: before, word, behind, rfl, rfl, hname⟩

/-- What stands in front is the sigil and the longest run of name characters behind it. -/
theorem standsAt_zero {c : Char} {s name : Text} :
    StandsAt (c :: s) name 0 ↔ c = '$' ∧ sigiled? (s.takeWhile isNameChar) = some name := by
  constructor
  · rintro ⟨before, word, behind, hcode, hplace, rfl, hword, hends⟩
    obtain rfl := List.eq_nil_of_length_eq_zero hplace
    rw [List.nil_append, List.cons.injEq] at hcode
    obtain ⟨rfl, rfl⟩ := hcode
    refine ⟨rfl, ?_⟩
    rw [(hword.takeWhile_append hends).1, sigiled?, if_neg (by simpa using hword.1)]
  · rintro ⟨rfl, hname⟩
    rw [sigiled?] at hname
    split at hname
    · cases hname
    · rename_i hsome
      cases hname
      refine ⟨[], s.takeWhile isNameChar, s.dropWhile isNameChar, ?_, rfl, rfl, ⟨?_, ?_⟩, ?_⟩
      · rw [List.takeWhile_append_dropWhile]
        rfl
      · simpa using hsome
      · intro c hc
        exact (isNameChar_iff c).mp (List.mem_takeWhile_imp hc)
      · intro c hc
        rw [← isNameChar_iff]
        have := List.head?_dropWhile_not isNameChar s
        rw [hc] at this
        simpa using this

/-- The names of a snippet as often as they occur, from left to right. -/
def nameTokens (code : Text) : List Text :=
  Text.allMatches nameInFront code

/-- A name in front is the first one. -/
theorem nameTokens_cons (c : Char) (s : Text) :
    (∃ name, StandsAt (c :: s) name 0 ∧ nameTokens (c :: s) = name :: nameTokens s) ∨
      (∀ name, ¬ StandsAt (c :: s) name 0) ∧ nameTokens (c :: s) = nameTokens s := by
  simp only [standsAt_zero]
  rw [nameTokens, nameTokens, readsRun_nameInFront.allMatches_eq,
    readsRun_nameInFront.allMatches_eq, Text.runsBehind]
  by_cases hsigil : c = '$'
  · rw [if_pos hsigil]
    cases hname : sigiled? (s.takeWhile isNameChar) with
    | some name =>
        rw [List.filterMap_cons_some hname]
        exact Or.inl ⟨name, ⟨hsigil, rfl⟩, rfl⟩
    | none =>
        rw [List.filterMap_cons_none hname]
        refine Or.inr ⟨fun name hfront => ?_, rfl⟩
        cases hfront.2
  · rw [if_neg hsigil]
    exact Or.inr ⟨fun name hname => hsigil hname.1, rfl⟩

theorem standsAt_zero_unique {c : Char} {s first second : Text}
    (hfirst : StandsAt (c :: s) first 0) (hsecond : StandsAt (c :: s) second 0) :
    first = second := by
  have hsame := (standsAt_zero.mp hfirst).2.symm.trans (standsAt_zero.mp hsecond).2
  exact Option.some.inj hsame

/-- The names that are found are those that stand somewhere. -/
theorem mem_nameTokens_iff {code name : Text} :
    name ∈ nameTokens code ↔ ∃ place, StandsAt code name place := by
  induction code with
  | nil =>
      constructor
      · intro hnone
        cases hnone
      · rintro ⟨place, hplace⟩
        exact absurd hplace (not_standsAt_nil name place)
  | cons c s ih =>
      have hplaces : (∃ place, StandsAt (c :: s) name place) ↔
          StandsAt (c :: s) name 0 ∨ name ∈ nameTokens s := by
        rw [ih]
        constructor
        · rintro ⟨_ | place, hplace⟩
          · exact Or.inl hplace
          · exact Or.inr ⟨place, standsAt_succ.mp hplace⟩
        · rintro (hfront | ⟨place, hplace⟩)
          · exact ⟨0, hfront⟩
          · exact ⟨place + 1, standsAt_succ.mpr hplace⟩
      rw [hplaces]
      rcases nameTokens_cons c s with ⟨first, hfirst, htokens⟩ | ⟨hnone, htokens⟩
      · rw [htokens, List.mem_cons]
        apply or_congr_left
        constructor
        · rintro rfl
          exact hfirst
        · intro hfront
          exact standsAt_zero_unique hfront hfirst
      · rw [htokens]
        exact (or_iff_right (hnone name)).symm

/-- Wherever the second name stands, the first one stands somewhere before. -/
def Precedes (code first second : Text) : Prop :=
  ∀ place, StandsAt code second place → ∃ earlier < place, StandsAt code first earlier

/-- Names come in the order of their first places. -/
theorem pairwise_distinct_nameTokens (code : Text) :
    (distinct (nameTokens code)).Pairwise (Precedes code) := by
  induction code with
  | nil => exact List.Pairwise.nil
  | cons c s ih =>
      -- Behind the first character all places are one further.
      have hlater : ∀ {first second}, ¬ StandsAt (c :: s) second 0 → Precedes s first second →
          Precedes (c :: s) first second := by
        intro first second hnot hprecedes place hplace
        cases place with
        | zero => exact absurd hplace hnot
        | succ place =>
            obtain ⟨earlier, hless, hearlier⟩ := hprecedes place (standsAt_succ.mp hplace)
            exact ⟨earlier + 1, Nat.succ_lt_succ hless, standsAt_succ.mpr hearlier⟩
      rcases nameTokens_cons c s with ⟨front, hfront, htokens⟩ | ⟨hnone, htokens⟩
      · have hother : ∀ {name}, name ≠ front → ¬ StandsAt (c :: s) name 0 :=
          fun hne hname => hne (standsAt_zero_unique hname hfront)
        rw [htokens, distinct, List.pairwise_cons, List.pairwise_filter]
        constructor
        · intro name hname place hplace
          rw [List.mem_filter, decide_eq_true_eq] at hname
          cases place with
          | zero => exact absurd hplace (hother hname.2)
          | succ place => exact ⟨0, Nat.succ_pos place, hfront⟩
        · refine ih.imp ?_
          intro first second hprecedes _ hsecond
          exact hlater (hother (by simpa using hsecond)) hprecedes
      · rw [htokens]
        exact ih.imp fun hprecedes => hlater (hnone _) hprecedes

/-- The names that are to be looked up: each that stands somewhere and is no word of control flow,
once, in the order of their first places. -/
structure ListsNames (code : Text) (names : List Text) : Prop where
  distinct : names.Nodup
  mem_iff : ∀ name, name ∈ names ↔
    (∃ place, StandsAt code name place) ∧ name.map Char.toLower ∉ flowKeywords
  ordered : names.Pairwise (Precedes code)

/-- Names are lowered character by character. -/
theorem StandsAt.lower_eq {code name : Text} {place : Nat} (hstands : StandsAt code name place) :
    Text.lower name = name.map Char.toLower := by
  obtain ⟨-, word, -, -, -, rfl, hword, -⟩ := hstands
  apply Text.lower_of_ascii
  intro c hc
  rcases List.mem_cons.mp hc with rfl | hmem
  · decide
  · exact toNat_lt_of_isNameChar ((isNameChar_iff c).mpr (hword.2 c hmem))

theorem listsNames_referencedFunctions (code : Text) :
    ListsNames code (referencedFunctions code) where
  distinct := (nodup_distinct _).filter _
  mem_iff name := by
    rw [referencedFunctions, List.mem_filter, functionNames, mem_distinct, decide_eq_true_eq]
    show name ∈ nameTokens code ∧ _ ↔ _
    rw [mem_nameTokens_iff]
    apply and_congr_right
    rintro ⟨place, hplace⟩
    rw [hplace.lower_eq]
  ordered := (pairwise_distinct_nameTokens code).filter _

/-- Of two names that stand somewhere, only one stands before the other. -/
theorem Precedes.asymm {code first second : Text} {place : Nat}
    (hfirst : Precedes code first second) (hsecond : Precedes code second first) :
    ¬ StandsAt code first place := by
  induction place using Nat.strong_induction_on with
  | _ place ih =>
      intro hplace
      obtain ⟨middle, hmiddle, hother⟩ := hsecond place hplace
      obtain ⟨earlier, hearlier, hagain⟩ := hfirst middle hother
      exact ih earlier (hearlier.trans hmiddle) hagain

/-- There is only one such list. -/
theorem ListsNames.unique {code : Text} {names others : List Text}
    (hnames : ListsNames code names) (hothers : ListsNames code others) : names = others := by
  have hperm : names.Perm others :=
    (List.perm_ext_iff_of_nodup hnames.distinct hothers.distinct).mpr fun name => by
      rw [hnames.mem_iff, hothers.mem_iff]
  refine hperm.eq_of_pairwise ?_ hnames.ordered hothers.ordered
  intro first second hfirst _ hbefore hbehind
  obtain ⟨⟨place, hplace⟩, -⟩ := (hnames.mem_iff first).mp hfirst
  exact absurd hplace (hbefore.asymm hbehind)

end ScriptDocs.Snippet
