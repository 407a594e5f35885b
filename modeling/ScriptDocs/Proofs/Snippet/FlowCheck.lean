/-
# What the check of control flow says about a snippet

The words of control flow of a snippet stand behind its sigils: they are the runs of word
characters there that spell one of the four words in any letter case. A run in the letters of
ASCII is read as the word that it spells, and where all of them are such, the messages of the
check tell whether the words are well nested, and how many of them lack a partner.
-/

import ScriptDocs.Proofs.Snippet.FlowWord
import ScriptDocs.Proofs.Snippet.Nesting
import Mathlib.Data.Int.Notation
import Mathlib.Order.Bounds.Defs

namespace ScriptDocs.Snippet

/-- The messages about a missing partner are worded like no other. -/
theorem Finding.message_inj_of_partner {finding other : Finding}
    (hother : other = .endifOutsideIf ∨ other = .unbalancedIf) :
    finding.message = other.message ↔ finding = other := by
  refine ⟨fun hsame => ?_, congrArg Finding.message⟩
  have hfirst := congrArg List.head? hsame
  rcases hother with rfl | rfl
  · cases finding with
    | endifOutsideIf => rfl
    | missingBrackets name | unclosedBracket name =>
        exact absurd (show some 'I' = some '$' from hfirst) (by decide)
    | undocumented name => exact absurd (show some 'U' = some '$' from hfirst) (by decide)
    | _ => exact absurd hsame (by decide +kernel)
  · cases finding with
    | unbalancedIf => rfl
    | missingBrackets name | unclosedBracket name =>
        exact absurd (show some 'I' = some 'M' from hfirst) (by decide)
    | undocumented name => exact absurd (show some 'U' = some 'M' from hfirst) (by decide)
    | _ => exact absurd hsame (by decide +kernel)

/-- A message about a missing partner is given as often as there are findings of it. -/
theorem count_message (findings : List Finding) (finding : Finding)
    (hfinding : finding = .endifOutsideIf ∨ finding = .unbalancedIf) :
    (findings.map Finding.message).count finding.message = findings.count finding := by
  rw [List.count, List.countP_map, List.count]
  apply List.countP_congr
  intro other _
  simpa using Finding.message_inj_of_partner hfinding

/-- What the messages of a check tell about the words of control flow. -/
structure Judges (tokens : List FlowToken) (messages : List Text) : Prop where
  /-- There are no messages just where the words are well nested. -/
  accepts : messages = [] ↔ Nested tokens
  /-- The messages about an `$endif` without its `$if` are the most by which the one outnumber the
  other in a front of the words. -/
  unopened : IsGreatest
    {excess : ℤ | ∃ front, front <+: tokens ∧ excess = front.count .closing - front.count .opening}
    (messages.count "$endif without matching $if".toList)
  /-- The message about blocks that stay open is given once at most. -/
  once : messages.count "Mismatched $if / $endif".toList ≤ 1
  /-- The message about blocks that stay open stands behind all other messages. -/
  last : "Mismatched $if / $endif".toList ∈ messages →
    messages.getLast? = some "Mismatched $if / $endif".toList
  /-- The message about blocks that stay open is given just where there are more `$if` than
  `$endif` that have one to close. -/
  unclosed : "Mismatched $if / $endif".toList ∈ messages ↔
    (partnered tokens).length < tokens.count .opening

theorem mem_message_iff {findings : List Finding} :
    "Mismatched $if / $endif".toList ∈ findings.map Finding.message ↔ .unbalancedIf ∈ findings := by
  rw [← List.count_pos_iff, ← List.count_pos_iff]
  exact iff_of_eq (congrArg (0 < ·) (count_message findings .unbalancedIf (Or.inr rfl)))

/-- What the walk says judges its words. -/
theorem judges_flowFindingsFrom (tokens : List FlowToken) :
    Judges tokens ((flowFindingsFrom .start tokens).map Finding.message) := by
  obtain ⟨hfronts, hattained⟩ := count_endifOutsideIf .start tokens
  obtain ⟨found, hfound, hwalk⟩ := exists_flowFindingsFrom_eq tokens
  have hstart : FlowState.start.depth = 0 := rfl
  rw [hstart] at hfronts hattained
  have hopenings := length_partnered_add tokens
  have hmissing : ((flowFindingsFrom .start tokens).map Finding.message).count
      "$endif without matching $if".toList =
        (flowFindingsFrom .start tokens).count .endifOutsideIf :=
    count_message _ .endifOutsideIf (Or.inl rfl)
  have hopen : .unbalancedIf ∈ flowFindingsFrom .start tokens ↔
      tokens.foldl depthBehind 0 ≠ 0 := by
    rw [hwalk]
    simp [hfound]
  constructor
  case accepts => rw [List.map_eq_nil_iff, flowFindingsFrom_eq_nil_iff]
  case unopened =>
    rw [hmissing]
    constructor
    · rcases hattained with hnone | ⟨front, hfront, hcount⟩
      · exact ⟨[], List.nil_prefix, by simp [hnone]⟩
      · refine ⟨front, hfront, ?_⟩
        omega
    · rintro excess ⟨front, hfront, rfl⟩
      have hbound := hfronts front hfront
      omega
  case once =>
    have honce : ((flowFindingsFrom .start tokens).map Finding.message).count
        "Mismatched $if / $endif".toList = (flowFindingsFrom .start tokens).count .unbalancedIf :=
      count_message _ .unbalancedIf (Or.inr rfl)
    rw [honce, hwalk, List.count_append, List.count_eq_zero.mpr hfound]
    split <;> simp
  case last =>
    intro hmem
    rw [hwalk, if_neg (hopen.mp (mem_message_iff.mp hmem)), List.map_append]
    exact List.getLast?_concat
  case unclosed =>
    rw [mem_message_iff, hopen]
    omega

/-- A run in the letters of ASCII is a word of control flow just where it is one in small letters,
and is then read as that word. -/
theorem map_word_flowSpelling? {run : Text} (hwhole : run.takeWhile Text.isWord = run)
    (hplain : SpellsFlowWord run → ∀ c ∈ run, c.isAlpha) :
    (flowSpelling? run).map (fun spelling => (FlowToken.ofSpelling spelling).word) =
      Option.guard (· ∈ flowWords) (run.map Char.toLower) := by
  by_cases hspells : SpellsFlowWord run
  · have hword := hspells.word_ofSpelling fun c hc => Text.toNat_lt_of_isAlpha (hplain hspells c hc)
    have hknown : run.map Char.toLower ∈ flowWords := by
      rw [hword]
      cases FlowToken.ofSpelling run <;> decide
    rw [flowSpelling?_eq_some_iff.mpr ⟨hwhole, hspells⟩, Option.map_some, ← hword]
    simp [Option.guard, hknown]
  · have hunknown : run.map Char.toLower ∉ flowWords := mt spellsFlowWord_of_map_toLower hspells
    have hnone : flowSpelling? run = none := by
      rw [Option.eq_none_iff_forall_ne_some]
      exact fun spelling hread => hspells <| by
        obtain ⟨hlongest, hfound⟩ := flowSpelling?_eq_some_iff.mp hread
        rwa [← hlongest, hwhole] at hfound
    simp [hnone, Option.guard, hunknown]

/-- For every snippet whose words of control flow are in the letters of ASCII, the words that are
read are the ones behind its sigils, in small letters, and the messages of the check judge them. -/
theorem flowFindings_judge {code : Text}
    (hplain : ∀ run ∈ Text.runsBehind '$' Text.isWord code,
      SpellsFlowWord run → ∀ c ∈ run, c.isAlpha) :
    (flowTokens code).map FlowToken.word =
        ((Text.runsBehind '$' Text.isWord code).map (List.map Char.toLower)).filter
          (· ∈ flowWords) ∧
      Judges (flowTokens code) ((flowFindings code).map Finding.message) := by
  refine ⟨?_, judges_flowFindingsFrom (flowTokens code)⟩
  rw [flowTokens_eq_map, flowSpellings_eq, List.map_map, List.map_filterMap,
    ← List.filterMap_eq_filter, List.filterMap_map]
  exact List.filterMap_congr fun run hrun =>
    map_word_flowSpelling? (Text.takeWhile_eq_of_mem_runsBehind hrun) (hplain run hrun)

/-- Blocks in each other and side by side in mixed case, an `$else` too many, an `$endif` before
any block, a word that only begins like one, and a block that stays open. -/
def tangledSnippet : Text :=
  "$endif $IF[a]$else[$if[b]$ElseIf[c]$Else$ENDIF]$if[d]$else$endif $else $endif x$endifs $if[e]"

theorem flowFindings_judge_tangledSnippet :
    (∀ run ∈ Text.runsBehind '$' Text.isWord tangledSnippet,
      SpellsFlowWord run → ∀ c ∈ run, c.isAlpha) ∧
    flowTokens tangledSnippet =
      [.closing, .opening, .otherwise, .opening, .elseif, .otherwise, .closing, .opening,
        .otherwise, .closing, .otherwise, .closing, .opening] ∧
    (flowFindings tangledSnippet).map Finding.message =
      ["$endif without matching $if".toList, "Multiple $else at same $if depth".toList,
        "Mismatched $if / $endif".toList] ∧
    (flowTokens tangledSnippet).map FlowToken.word =
      ((Text.runsBehind '$' Text.isWord tangledSnippet).map (List.map Char.toLower)).filter
        (· ∈ flowWords) ∧
    Judges (flowTokens tangledSnippet) ((flowFindings tangledSnippet).map Finding.message) := by
  have hplain : ∀ run ∈ Text.runsBehind '$' Text.isWord tangledSnippet,
      SpellsFlowWord run → ∀ c ∈ run, c.isAlpha := by
    have hletters : (Text.runsBehind '$' Text.isWord tangledSnippet).all (·.all Char.isAlpha) =
        true := by
      decide +kernel
    intro run hrun _ c hc
    exact List.all_eq_true.mp (List.all_eq_true.mp hletters run hrun) c hc
  exact ⟨hplain, by decide +kernel, by decide +kernel, flowFindings_judge hplain⟩

end ScriptDocs.Snippet
