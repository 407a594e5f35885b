/-
# Words of control flow

A word of control flow is a sigil and the longest word behind it, where that spells one of the
four words without regard to case. So it never covers another sigil and ends at a line end;
in the letters of ASCII it is read as the word that it spells, and in small letters it is
what the repair counts.
-/

import ScriptDocs.Proofs.Text.Sigil
import ScriptDocs.Proofs.Text.Word
import ScriptDocs.Snippet.Flow
import ScriptDocs.Snippet.Repair

namespace ScriptDocs.Snippet

/-- How a word of control flow in front of a text is spelled, without its sigil. -/
def flowSpellingInFront : Text.Pattern Text
  | '$' :: s =>
    (flowWords.findSome? fun word => wholeWord? word s).map fun spelling =>
      (spelling, spelling.length + 1)
  | _ => none

/-- The spellings of the words of control flow of a snippet, from left to right. -/
def flowSpellings (code : Text) : List Text :=
  Text.allMatches flowSpellingInFront code

/-- A word of control flow without its sigil, in small letters. -/
def FlowToken.word : FlowToken → Text
  | .opening => "if"
  | .elseif => "elseif"
  | .otherwise => "else"
  | .closing => "endif"

/-- Whether a text spells one of the four words when case is ignored. -/
def SpellsFlowWord (spelling : Text) : Prop :=
  ∃ word ∈ flowWords, Text.Spells word spelling

theorem isLower_of_mem_flowWords : ∀ word ∈ flowWords, word.all Char.isLower = true := by
  decide

theorem SpellsFlowWord.isWord {spelling : Text} (hspells : SpellsFlowWord spelling) :
    ∀ c ∈ spelling, Text.isWord c = true := by
  obtain ⟨word, hword, hletters⟩ := hspells
  exact hletters.isWord (isLower_of_mem_flowWords word hword)

/-- A whole word in front of a text is the longest word there. -/
theorem wholeWord?_eq_some_iff {word s spelling : Text} (hword : word ∈ flowWords) :
    wholeWord? word s = some spelling ↔
      s.takeWhile Text.isWord = spelling ∧
        Text.Spells word spelling := by
  constructor
  · intro hwhole
    unfold wholeWord? at hwhole
    split at hwhole
    case h_2 => cases hwhole
    rename_i rest hfront
    obtain ⟨spelled, hletters, rfl⟩ := Text.afterFrontAnyCase?_eq_some_iff.mp hfront
    split at hwhole
    · cases hwhole
    · rename_i hends
      obtain rfl := Option.some.inj hwhole
      rw [hletters.length_eq, List.take_left]
      refine ⟨(Text.takeWhile_isWord_eq_iff (SpellsFlowWord.isWord ⟨word, hword, hletters⟩)).mpr
        ⟨rest, rfl, by simpa using hends⟩, hletters⟩
  · rintro ⟨hlongest, hletters⟩
    obtain ⟨rest, rfl, hends⟩ := (Text.takeWhile_isWord_eq_iff
      (SpellsFlowWord.isWord ⟨word, hword, hletters⟩)).mp hlongest
    have hfront : Text.afterFrontAnyCase? word (spelling ++ rest) = some rest :=
      Text.afterFrontAnyCase?_eq_some_iff.mpr ⟨spelling, hletters, rfl⟩
    simp [wholeWord?, hfront, hends, hletters.length_eq]

/-- The spelling of a word of control flow, if a run of word characters is one. -/
def flowSpelling? (run : Text) : Option Text :=
  flowWords.findSome? fun word => wholeWord? word run

theorem flowSpelling?_eq_some_iff {s spelling : Text} :
    flowSpelling? s = some spelling ↔
      s.takeWhile Text.isWord = spelling ∧ SpellsFlowWord spelling := by
  constructor
  · intro hfound
    obtain ⟨word, hword, hwhole⟩ := List.exists_of_findSome?_eq_some hfound
    obtain ⟨hlongest, hletters⟩ := (wholeWord?_eq_some_iff hword).mp hwhole
    exact ⟨hlongest, word, hword, hletters⟩
  · rintro ⟨hlongest, word, hword, hletters⟩
    have hwhole := (wholeWord?_eq_some_iff hword).mpr ⟨hlongest, hletters⟩
    cases hfound : flowSpelling? s with
    | none => simp [List.findSome?_eq_none_iff.mp hfound word hword] at hwhole
    | some found =>
        obtain ⟨other, hother, hread⟩ := List.exists_of_findSome?_eq_some hfound
        rw [← hlongest, ((wholeWord?_eq_some_iff hother).mp hread).1]

/-- A spelling is a run that spells one of the words. -/
theorem readsRun_flowSpellingInFront :
    Text.ReadsRun '$' Text.isWord flowSpelling? flowSpellingInFront where
  outside := by decide
  none_of_ne c s hc := by
    unfold flowSpellingInFront
    split
    · rename_i heq
      exact absurd (List.cons.inj heq).1 hc
    · rfl
  behind s := by
    have hrun : flowSpelling? (s.takeWhile Text.isWord) = flowSpelling? s := by
      ext spelling
      rw [flowSpelling?_eq_some_iff, flowSpelling?_eq_some_iff, List.takeWhile_idem]
    show (flowSpelling? s).map _ = _
    rw [hrun]
    apply Option.map_congr
    intro spelling hspelling
    rw [(flowSpelling?_eq_some_iff.mp hspelling).1]

theorem flowSpellings_eq (code : Text) :
    flowSpellings code = (Text.runsBehind '$' Text.isWord code).filterMap flowSpelling? :=
  readsRun_flowSpellingInFront.allMatches_eq code

/-- What is one of the words in small letters spells it. -/
theorem spellsFlowWord_of_map_toLower {spelling : Text}
    (hword : spelling.map Char.toLower ∈ flowWords) : SpellsFlowWord spelling := by
  have hletters : flowWords.all (·.all fun c => c.toNat < 0x80) = true := by decide
  have hascii : ∀ c ∈ spelling.map Char.toLower, c.toNat < 0x80 := fun c hc =>
    of_decide_eq_true (List.all_eq_true.mp (List.all_eq_true.mp hletters _ hword) c hc)
  exact ⟨_, hword, Text.spells_map_toLower (Text.ascii_of_map_toLower hascii)⟩

theorem flowTokens_eq_map (code : Text) :
    flowTokens code = (flowSpellings code).map FlowToken.ofSpelling := by
  refine Text.matchesFrom_map (fun s => ?_) 0 code
  unfold flowTokenInFront flowSpellingInFront
  split <;> simp [Function.comp_def]

/-- Every match spells one of the words. -/
theorem spellsFlowWord_of_mem {code spelling : Text} (hmem : spelling ∈ flowSpellings code) :
    SpellsFlowWord spelling := by
  rw [flowSpellings_eq] at hmem
  obtain ⟨run, -, hrun⟩ := List.mem_filterMap.mp hmem
  exact (flowSpelling?_eq_some_iff.mp hrun).2

/-- A match in the letters of ASCII is read as the word that it spells. -/
theorem SpellsFlowWord.word_ofSpelling {spelling : Text} (hspells : SpellsFlowWord spelling)
    (hplain : ∀ c ∈ spelling, c.toNat < 0x80) :
    spelling.map Char.toLower = (FlowToken.ofSpelling spelling).word := by
  obtain ⟨word, hword, hletters⟩ := hspells
  have hascii : ∀ c ∈ word, c.toNat < 0x80 := by
    intro c hc
    have hletter := List.all_eq_true.mp (isLower_of_mem_flowWords word hword) c hc
    rw [Text.isLower_iff] at hletter
    omega
  have hsmall : ∀ word ∈ flowWords, word.map Char.toLower = word := by decide
  have hlower : spelling.map Char.toLower = word := by
    rw [Text.map_toLower_eq_of_ascii hascii hplain hletters, hsmall word hword]
  have hread : ∀ word ∈ flowWords, word =
      (if word = "if".toList then FlowToken.opening
        else if word = "elseif".toList then .elseif
        else if word = "else".toList then .otherwise
        else .closing).word := by
    decide
  rw [FlowToken.ofSpelling, Text.lower_of_ascii hplain, hlower]
  exact hread word hword

/-- A word is counted where it is the longest behind a sigil. -/
theorem readsRun_exactWord {word : Text} (hword : ∀ c ∈ word, Text.isWord c = true) :
    Text.ReadsRun '$' Text.isWord (fun run => if run = word then some () else none)
      (Text.exactWord ('$' :: word)) where
  outside := by decide
  none_of_ne c s hc := by
    apply Option.eq_none_iff_forall_ne_some.mpr
    intro found hfound
    obtain ⟨rest, hs, -⟩ := (Text.exactWord_cons_eq_some_iff hword).mp hfound
    exact hc (List.cons.inj hs).1
  behind s := by
    ext found
    rw [show found = ((), found.2) from rfl, Text.exactWord_cons_eq_some_iff hword]
    split
    · rename_i hrun
      simp [hrun, eq_comm]
    · rename_i hrun
      simp [hrun]

theorem countWord_eq_count {word : Text} (hword : word ∈ flowWords) (code : Text) :
    countWord ('$' :: word) code = (flowSpellings code).count word := by
  have hspells : SpellsFlowWord word :=
    ⟨word, hword, Text.spells_refl word⟩
  rw [countWord, (readsRun_exactWord hspells.isWord).allMatches_eq, flowSpellings_eq,
    List.count_filterMap, List.length_filterMap_eq_countP]
  apply List.countP_congr
  intro run hrun
  simp only [beq_iff_eq, flowSpelling?_eq_some_iff, Text.takeWhile_eq_of_mem_runsBehind hrun]
  split
  · rename_i hsame
    simp [hsame, hspells]
  · rename_i hother
    simp [hother]

/-- How many words of one kind are spelled otherwise than in small letters. -/
def miscased (token : FlowToken) (code : Text) : Nat :=
  (flowSpellings code).countP fun spelling =>
    FlowToken.ofSpelling spelling = token ∧ spelling ≠ token.word

/-- The words of one kind are the ones that the repair counts and the ones in other letters. -/
theorem count_flowTokens (token : FlowToken) (code : Text) :
    (flowTokens code).count token = countWord ('$' :: token.word) code + miscased token code := by
  have hword : token.word ∈ flowWords ∧ FlowToken.ofSpelling token.word = token := by
    cases token <;> decide
  rw [countWord_eq_count hword.1, flowTokens_eq_map, miscased]
  induction flowSpellings code with
  | nil => rfl
  | cons spelling spellings ih =>
      rw [List.map_cons, List.count_cons, List.count_cons, List.countP_cons, ih]
      by_cases hsame : spelling = token.word
      · simp [hsame, hword.2]
        omega
      · simp [hsame]
        omega

end ScriptDocs.Snippet
