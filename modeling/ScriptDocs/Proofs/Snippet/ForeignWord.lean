/-
# Words of control flow in foreign letters

A match of the pattern for control flow may hold letters above ASCII, which only count as equal to
those of a word when case is ignored. Lowering leaves such a letter above ASCII, so that the match
is none of the words that it is compared with, and is read as a closing one whatever it spells. The
words that close a block are thus the ones that spell `$endif` in ASCII and all foreign ones.
-/

import ScriptDocs.Proofs.Snippet.FlowWord
import ScriptDocs.Proofs.Snippet.Nesting

namespace ScriptDocs

namespace Text

/-- Whether a text has a character above ASCII. -/
def IsForeign (s : Text) : Prop :=
  ∃ c ∈ s, 0x80 ≤ c.toNat

instance (s : Text) : Decidable (IsForeign s) :=
  decidable_of_iff (s.any fun c => 0x80 ≤ c.toNat) (by simp [IsForeign])

theorem not_isForeign_iff {s : Text} : ¬ IsForeign s ↔ ∀ c ∈ s, c.toNat < 0x80 := by
  simp only [IsForeign, not_exists, not_and, Nat.not_le]

theorem toLower_eq_sigil_iff {c : Char} : c.toLower = '$' ↔ c = '$' := by
  by_cases hascii : c.toNat < 0x80
  · exact forall_ascii (p := fun c => c.toLower = '$' ↔ c = '$') (by decide) hascii
  · rw [toLower_eq_self (Nat.not_lt.mp hascii)]

theorem IsForeign.map_toLower {s : Text} (hforeign : IsForeign s) :
    IsForeign (s.map Char.toLower) := by
  obtain ⟨c, hc, habove⟩ := hforeign
  exact ⟨c, List.mem_map.mpr ⟨c, hc, toLower_eq_self habove⟩, habove⟩

theorem Spells.exists_of_mem {word s : Text} (hspells : Spells word s) {c : Char} (hc : c ∈ s) :
    ∃ f ∈ word, sameLetter f c = true := by
  induction hspells with
  | nil => cases hc
  | @cons f d word s hletter _ ih =>
      rcases List.mem_cons.mp hc with rfl | hlater
      · exact ⟨f, List.mem_cons_self, hletter⟩
      · obtain ⟨g, hg, hsame⟩ := ih hlater
        exact ⟨g, List.mem_cons_of_mem f hg, hsame⟩

/-- Lowering leaves the small letters U+0131 and U+017F, and makes of U+0130 a letter and a mark. -/
theorem isForeign_lowerAfter {s : Text} {c : Char} (hc : c ∈ s)
    (hletter : c ∈ [Char.ofNat 0x130, Char.ofNat 0x131, Char.ofNat 0x17F]) (before : Text) :
    IsForeign (lowerAfter before s) := by
  induction s generalizing before with
  | nil => cases hc
  | cons d s ih =>
      rw [lowerAfter]
      rcases List.mem_cons.mp hc with rfl | hlater
      · simp only [List.mem_cons, List.not_mem_nil, or_false] at hletter
        rcases hletter with rfl | rfl | rfl
        · exact ⟨Char.ofNat 0x307, by simp, by decide⟩
        · exact ⟨lowerChar (Char.ofNat 0x131), List.mem_append_left _ (List.mem_singleton_self _),
            by decide +kernel⟩
        · exact ⟨lowerChar (Char.ofNat 0x17F), List.mem_append_left _ (List.mem_singleton_self _),
            by decide +kernel⟩
      · obtain ⟨small, hsmall, hforeign⟩ := ih hlater (d :: before)
        exact ⟨small, List.mem_append_right _ hsmall, hforeign⟩

end Text

namespace Snippet

/-- The letters above ASCII that count as equal to one of a word of control flow are the capital
U+0130 and the two small letters that share a capital with one of ASCII. -/
theorem foreign_letters : ∀ word ∈ flowWords, ∀ code ∈ word.map Char.toNat,
    ∀ small ∈ Text.smallOf (Char.ofNat code),
      0 < small ∧ (0x80 ≤ small → small = 0x131 ∨ small = 0x17F) ∧
        ∀ capital ∈ Text.capitalsOf small, capital = 0x130 := by
  decide +kernel

namespace SpellsFlowWord

variable {spelling : Text}

theorem foreign_letter (hspells : SpellsFlowWord spelling) {c : Char} (hc : c ∈ spelling)
    (habove : 0x80 ≤ c.toNat) : c ∈ [Char.ofNat 0x130, Char.ofNat 0x131, Char.ofNat 0x17F] := by
  obtain ⟨word, hword, hletters⟩ := hspells
  obtain ⟨f, hf, hsame⟩ := hletters.exists_of_mem hc
  have hsmallOf := foreign_letters word hword f.toNat (List.mem_map_of_mem hf)
  rw [f.ofNat_toNat] at hsmallOf
  obtain ⟨hpos, hsmall, hcapitals⟩ := hsmallOf _ (Text.toNat_lowerChar_mem_smallOf hsame)
  have hcode : c.toNat ∈ [0x130, 0x131, 0x17F] := by
    rw [List.mem_cons, List.mem_pair]
    rcases Text.capital_of_toNat_lowerChar hpos rfl with hself | hascii | hcapital
    · exact Or.inr (hself ▸ hsmall (hself ▸ habove))
    · omega
    · exact Or.inl (hcapitals _ hcapital)
  exact List.mem_map.mpr ⟨c.toNat, hcode, c.ofNat_toNat⟩

/-- Some words can be spelled with letters above ASCII; such a match is read as a closing word. -/
theorem ofSpelling_of_foreign (hspells : SpellsFlowWord spelling) (hforeign : spelling.IsForeign) :
    FlowToken.ofSpelling spelling = .closing := by
  obtain ⟨c, hc, habove⟩ := hforeign
  have hlower : (Text.lower spelling).IsForeign :=
    Text.isForeign_lowerAfter hc (hspells.foreign_letter hc habove) []
  have hother : ∀ word ∈ flowWords, Text.lower spelling ≠ word := by
    rintro word hword hsame
    have hascii : ∀ word ∈ flowWords, ¬ Text.IsForeign word := by decide
    exact hascii word hword (hsame ▸ hlower)
  rw [FlowToken.ofSpelling, if_neg (hother _ (by decide)), if_neg (hother _ (by decide)),
    if_neg (hother _ (by decide))]

/-- A match is read as a closing word just where it is foreign or `$endif` in any case of ASCII. -/
theorem ofSpelling_eq_closing_iff (hspells : SpellsFlowWord spelling) :
    FlowToken.ofSpelling spelling = .closing ↔
      spelling.IsForeign ∨ spelling.map Char.toLower = "endif".toList := by
  by_cases hforeign : spelling.IsForeign
  · simp [hforeign, hspells.ofSpelling_of_foreign hforeign]
  · have hword := hspells.word_ofSpelling (Text.not_isForeign_iff.mp hforeign)
    rw [or_iff_right hforeign, hword]
    cases FlowToken.ofSpelling spelling <;> decide

end SpellsFlowWord

/-- Whether `$endif` stands in front of a text as a whole word, in any case of ASCII. -/
def IsEndifInFront (s : Text) : Prop :=
  (s.take 6).map Char.toLower = "$endif".toList ∧ Text.beginsWithWord (s.drop 6) = false

instance (s : Text) : Decidable (IsEndifInFront s) :=
  inferInstanceAs (Decidable (_ ∧ _))

/-- The number of places of a snippet where `$endif` stands as a whole word, in any case of
ASCII. -/
def endifs (code : Text) : Nat :=
  code.tails.countP (IsEndifInFront ·)

theorem spellsFlowWord_of_endif {spelling : Text}
    (hendif : spelling.map Char.toLower = "endif".toList) : SpellsFlowWord spelling :=
  spellsFlowWord_of_map_toLower (hendif ▸ by decide)

/-- The word `$endif` stands where a sigil is followed by that word as the longest one. -/
theorem isEndifInFront_cons_iff {c : Char} {s : Text} :
    IsEndifInFront (c :: s) ↔
      c = '$' ∧ (s.takeWhile Text.isWord).map Char.toLower = "endif".toList := by
  have hfront : IsEndifInFront (c :: s) ↔ c.toLower = '$' ∧
      (s.take 5).map Char.toLower = "endif".toList ∧ Text.beginsWithWord (s.drop 5) = false := by
    rw [← and_assoc]
    exact and_congr_left fun _ => List.cons_eq_cons
  rw [hfront, Text.toLower_eq_sigil_iff]
  refine and_congr_right fun _ => ?_
  constructor
  · rintro ⟨hendif, hends⟩
    have hword := (spellsFlowWord_of_endif hendif).isWord
    rwa [(Text.takeWhile_isWord_eq_iff hword).mpr
      ⟨s.drop 5, (List.take_append_drop 5 s).symm, hends⟩]
  · intro hendif
    generalize hrun : s.takeWhile Text.isWord = word at hendif
    have hword := (spellsFlowWord_of_endif hendif).isWord
    obtain ⟨rest, rfl, hends⟩ := (Text.takeWhile_isWord_eq_iff hword).mp hrun
    have hfive : word.length = 5 := by simpa using congrArg List.length hendif
    rw [List.take_left' hfive, List.drop_left' hfive]
    exact ⟨hendif, hends⟩

theorem endifs_eq_countP_runs (code : Text) :
    endifs code = (Text.runsBehind '$' Text.isWord code).countP fun run =>
      run.map Char.toLower = "endif".toList := by
  unfold endifs
  induction code with
  | nil => decide
  | cons c s ih =>
      rw [List.tails_cons, List.countP_cons, ih, Text.runsBehind]
      by_cases hc : c = '$'
      · simp only [isEndifInFront_cons_iff, hc, true_and, if_true, List.countP_cons]
      · simp only [isEndifInFront_cons_iff, hc, false_and, decide_false, Bool.false_eq_true,
          if_false, Nat.add_zero]

/-- The places of `$endif` are the matches that are that word in ASCII. -/
theorem endifs_eq (code : Text) :
    endifs code =
      (flowSpellings code).countP fun spelling => spelling.map Char.toLower = "endif".toList := by
  rw [endifs_eq_countP_runs, flowSpellings_eq, List.countP_filterMap]
  refine List.countP_congr fun run hrun => ?_
  have hlongest := Text.takeWhile_eq_of_mem_runsBehind hrun
  constructor
  · intro hendif
    have hspells := spellsFlowWord_of_endif (of_decide_eq_true hendif)
    rw [flowSpelling?_eq_some_iff.mpr ⟨hlongest, hspells⟩]
    exact hendif
  · intro hread
    cases hspelling : flowSpelling? run with
    | none =>
        rw [hspelling] at hread
        cases hread
    | some spelling =>
        obtain ⟨rfl, -⟩ := flowSpelling?_eq_some_iff.mp hspelling
        rw [hspelling, hlongest] at hread
        exact hread

/-- How many matches of the pattern for control flow have a letter above ASCII. -/
def foreignWords (code : Text) : Nat :=
  (flowSpellings code).countP (Text.IsForeign ·)

/-- How many blocks are open behind some words. -/
def openBlocks (tokens : List FlowToken) : Nat :=
  tokens.foldl depthBehind 0

/-- Whether a word behind others is treated as closing a block: fewer blocks are open behind it, or
it is found to have no partner. -/
def ClosesBlock (before : List FlowToken) (token : FlowToken) : Prop :=
  openBlocks (before ++ [token]) < openBlocks before ∨
    (flowFindingsFrom .start before).count .endifOutsideIf <
      (flowFindingsFrom .start (before ++ [token])).count .endifOutsideIf

instance (before : List FlowToken) (token : FlowToken) : Decidable (ClosesBlock before token) :=
  inferInstanceAs (Decidable (_ ∨ _))

/-- How many of some words are treated as closing a block. -/
def closings (tokens : List FlowToken) : Nat :=
  (List.finRange tokens.length).countP fun i => ClosesBlock (tokens.take i.1) tokens[i.1]

theorem openBlocks_concat (before : List FlowToken) (token : FlowToken) :
    openBlocks (before ++ [token]) = depthBehind (openBlocks before) token :=
  List.foldl_concat ..

/-- The closing words are treated as such, wherever they stand, and no others. -/
theorem closesBlock_iff {before : List FlowToken} {token : FlowToken} :
    ClosesBlock before token ↔ token = .closing := by
  have hend : ∀ state, (flowFindingsFrom state []).count .endifOutsideIf = 0 := by
    intro state
    rw [flowFindingsFrom]
    split <;> rfl
  obtain ⟨found, -, hrun⟩ := exists_flowFindingsFrom_append .start before
  have hbefore : (flowFindingsFrom .start before).count .endifOutsideIf =
      found.count .endifOutsideIf := by
    have hall := hrun []
    rw [List.append_nil] at hall
    rw [hall, List.count_append, hend, Nat.add_zero]
  have hopen : (before.foldl FlowState.behind .start).depth = openBlocks before :=
    FlowState.depth_foldl_behind .start before
  have hbehind : (flowFindingsFrom .start (before ++ [token])).count .endifOutsideIf =
      found.count .endifOutsideIf + if token = .closing ∧ openBlocks before = 0 then 1 else 0 := by
    rw [hrun, flowFindingsFrom, List.count_append, List.count_append, hend, Nat.add_zero,
      FlowState.count_finding?, hopen]
  rw [ClosesBlock, openBlocks_concat, hbefore, hbehind]
  cases token with
  | closing =>
      refine iff_of_true ?_ rfl
      by_cases hnone : openBlocks before = 0
      · exact Or.inr (by simp [hnone])
      · exact Or.inl (Nat.pred_lt hnone)
  | opening | elseif | otherwise => simp [depthBehind]

theorem closings_eq_count (tokens : List FlowToken) : closings tokens = tokens.count .closing := by
  conv_rhs => rw [← List.map_getElem_finRange tokens]
  rw [List.count, List.countP_map]
  exact List.countP_congr fun i _ => by simp [closesBlock_iff]

/-- A match is read as a closing word where it is `$endif` in ASCII or foreign, and never both. -/
theorem count_closing (code : Text) :
    (flowTokens code).count .closing = endifs code + foreignWords code := by
  rw [flowTokens_eq_map, endifs_eq, foreignWords, List.count, List.countP_map]
  have hspells : ∀ spelling ∈ flowSpellings code, SpellsFlowWord spelling := fun _ =>
    spellsFlowWord_of_mem
  generalize flowSpellings code = spellings at hspells ⊢
  induction spellings with
  | nil => rfl
  | cons spelling spellings ih =>
      obtain ⟨hspelling, hlater⟩ := List.forall_mem_cons.mp hspells
      rw [List.countP_cons, List.countP_cons, List.countP_cons, ih hlater]
      have hread := hspelling.ofSpelling_eq_closing_iff
      by_cases hforeign : spelling.IsForeign
      · have hother : ¬ spelling.map Char.toLower = "endif".toList := fun hendif =>
          absurd (hendif ▸ hforeign.map_toLower) (by decide)
        simp only [Function.comp_apply, beq_iff_eq, decide_eq_true_eq, hread, hforeign, hother,
          true_or, if_true, if_false]
        omega
      · simp only [Function.comp_apply, beq_iff_eq, decide_eq_true_eq, hread, hforeign, false_or,
          if_false]
        omega

/-- Between other text a match is found as it stands. -/
theorem flowTokens_append_word {spelling behind : Text} (hspells : SpellsFlowWord spelling)
    (hends : Text.beginsWithWord behind = false) (before : Text) :
    flowTokens (before ++ '$' :: (spelling ++ behind)) =
      flowTokens before ++ FlowToken.ofSpelling spelling :: flowTokens behind := by
  have hlongest : (spelling ++ behind).takeWhile Text.isWord = spelling :=
    (Text.takeWhile_isWord_eq_iff hspells.isWord).mpr ⟨behind, rfl, hends⟩
  have hsigil : '$' ∉ spelling := fun hmem => absurd (hspells.isWord '$' hmem) (by decide)
  have hword : flowSpelling? spelling = some spelling :=
    flowSpelling?_eq_some_iff.mpr ⟨List.takeWhile_eq_self_iff.mpr hspells.isWord, hspells⟩
  simp only [flowTokens_eq_map, flowSpellings_eq]
  rw [Text.runsBehind_append_cons (by decide), Text.runsBehind, if_pos rfl, hlongest,
    Text.runsBehind_append_of_not_mem hsigil, List.filterMap_append, List.filterMap_cons_some hword,
    List.map_append, List.map_cons]

/-- Some blocks are left open just where that is found. -/
theorem unbalancedIf_mem_iff (code : Text) :
    .unbalancedIf ∈ flowFindings code ↔ openBlocks (flowTokens code) ≠ 0 := by
  obtain ⟨found, hfound, hwalk⟩ := exists_flowFindingsFrom_eq (flowTokens code)
  rw [flowFindings, hwalk]
  simp [hfound, openBlocks]

/-- In every snippet the words that are treated as closing a block are as many as the places where
`$endif` stands in ASCII and the matches with a letter above ASCII. Such a match does what `$endif`
does in its place, whatever word it spells: it closes the innermost block, and so takes the finding
about open blocks away where there is one such block. -/
theorem closings_flowTokens (code : Text) :
    closings (flowTokens code) = endifs code + foreignWords code ∧
    (closings (flowTokens code) = endifs code ↔
      ∀ spelling ∈ flowSpellings code, ¬ spelling.IsForeign) ∧
    ∀ before spelling behind : Text, code = before ++ '$' :: (spelling ++ behind) →
      SpellsFlowWord spelling → spelling.IsForeign → Text.beginsWithWord behind = false →
        flowFindings code = flowFindings (before ++ "$endif".toList ++ behind) ∧
        openBlocks (flowTokens (before ++ '$' :: spelling)) = openBlocks (flowTokens before) - 1 ∧
        (.unbalancedIf ∈ flowFindings before ∧
            .unbalancedIf ∉ flowFindings (before ++ '$' :: spelling) ↔
          openBlocks (flowTokens before) = 1) := by
  have hcount : closings (flowTokens code) = endifs code + foreignWords code := by
    rw [closings_eq_count, count_closing]
  refine ⟨hcount, ?_, ?_⟩
  · rw [hcount, Nat.add_eq_left, foreignWords, List.countP_eq_zero]
    simp
  · rintro before spelling behind rfl hspells hforeign hends
    have hclosing := hspells.ofSpelling_of_foreign hforeign
    have hendif : SpellsFlowWord "endif".toList := spellsFlowWord_of_endif (by decide)
    have hdepth : openBlocks (flowTokens (before ++ '$' :: spelling)) =
        openBlocks (flowTokens before) - 1 := by
      have hlast := @flowTokens_append_word spelling [] hspells rfl before
      rw [List.append_nil] at hlast
      rw [hlast, hclosing]
      exact openBlocks_concat _ _
    refine ⟨?_, hdepth, ?_⟩
    · have hplain := flowTokens_append_word hendif hends before
      rw [flowFindings, flowFindings, flowTokens_append_word hspells hends, hclosing,
        List.append_assoc]
      exact congrArg (flowFindingsFrom .start) hplain.symm
    · rw [unbalancedIf_mem_iff, unbalancedIf_mem_iff, hdepth]
      omega

/-- A block that is left open, with an `$else` whose third letter is the long s. -/
def crossedSnippet : Text :=
  "$if[a]$el\u017fe"

theorem closings_flowTokens_crossedSnippet :
    closings (flowTokens crossedSnippet) = endifs crossedSnippet + foreignWords crossedSnippet ∧
      flowFindings crossedSnippet = flowFindings "$if[a]$endif".toList ∧
      .unbalancedIf ∈ flowFindings "$if[a]".toList ∧
      .unbalancedIf ∉ flowFindings crossedSnippet := by
  obtain ⟨hcount, -, hwords⟩ := closings_flowTokens crossedSnippet
  have hread : flowSpelling? "el\u017fe".toList = some "el\u017fe".toList := by decide +kernel
  have hspells := (flowSpelling?_eq_some_iff.mp hread).2
  obtain ⟨hsame, -, htaken⟩ :=
    hwords "$if[a]".toList "el\u017fe".toList [] rfl hspells (by decide) rfl
  exact ⟨hcount, hsame, htaken.mpr (by decide +kernel)⟩

/-- The `$else` in foreign letters is treated as closing the block, and nothing is found. -/
theorem foreign_else_closes :
    closings (flowTokens crossedSnippet) ≠ endifs crossedSnippet ∧
      flowFindings "$if[a]".toList = [.unbalancedIf] ∧ flowFindings crossedSnippet = [] := by
  decide +kernel

end Snippet

end ScriptDocs
