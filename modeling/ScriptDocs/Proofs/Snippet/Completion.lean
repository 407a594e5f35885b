/-
# The text of a mechanical repair

Where a snippet is written in small letters and nothing is wrong with its control flow but blocks
that stay open, the repair fences the snippet with one closing word for each of these blocks. The
two sides count differently: the check follows how deep the blocks stand in each other, and the
repair takes the `$endif` of the whole snippet from its `$if`. Closing words on lines of their own
merge with nothing that stands before them, so with all of them nothing is found any more, and
with fewer something is.
-/

import ScriptDocs.Proofs.Snippet.Closing
import ScriptDocs.Proofs.Snippet.FlowCheck
import ScriptDocs.Proofs.Snippet.Repair

namespace ScriptDocs.Snippet

/-- An ended snippet is a text with a line end behind it, and the snippet is that text with or
without the line end. -/
theorem exists_ended (code : Text) :
    ∃ front, ended code = front ++ "\n".toList ∧ (code = front ∨ code = front ++ "\n".toList) := by
  unfold ended
  split
  · rename_i hend
    obtain ⟨front, hfront⟩ := Text.endsWith_eq_true_iff.mp hend
    exact ⟨front, hfront.symm, Or.inr hfront.symm⟩
  · exact ⟨code, rfl, Or.inl rfl⟩

/-- The words of a snippet are the same with a line end behind it. -/
theorem flowTokens_append_lineEnd (code : Text) :
    flowTokens (code ++ "\n".toList) = flowTokens code := by
  have hruns : Text.runsBehind '$' Text.isWord (code ++ "\n".toList) =
      Text.runsBehind '$' Text.isWord code := by
    rw [show "\n".toList = '\n' :: [] from rfl, Text.runsBehind_append_cons (by decide)]
    exact List.append_nil _
  rw [flowTokens_eq_map, flowTokens_eq_map, flowSpellings_eq, flowSpellings_eq, hruns]

/-- Behind the words of the snippet there are the closing ones. -/
theorem flowTokens_closedBy (code : Text) (n : Nat) :
    flowTokens (closedBy code n) = flowTokens code ++ List.replicate n .closing := by
  obtain ⟨front, hended, hcode⟩ := exists_ended code
  have hfront : flowTokens front = flowTokens code := by
    rcases hcode with rfl | rfl
    · rfl
    · exact (flowTokens_append_lineEnd front).symm
  rw [closedBy_eq hended, flowTokens_append_lineEnd, flowTokens_append_closingLines, hfront]

/-- No word is miscased in a snippet whose words are in small letters. -/
theorem miscased_eq_zero {code : Text}
    (hsmall : ∀ spelling ∈ flowSpellings code, ∀ c ∈ spelling, c.isLower) (token : FlowToken) :
    miscased token code = 0 := by
  unfold miscased
  rw [List.countP_eq_zero]
  intro spelling hmem
  have hascii : ∀ c ∈ spelling, c.toNat < 0x80 := fun c hc => by
    have hletter := (Text.isLower_iff c).mp (hsmall spelling hmem c hc)
    omega
  have hlowered : spelling.map Char.toLower = spelling := by
    refine (List.map_congr_left fun c hc => ?_).trans (List.map_id spelling)
    exact Text.forall_ascii (p := fun c => c.isLower = true → c.toLower = c) (by decide)
      (hascii c hc) (hsmall spelling hmem c hc)
  have hword := (spellsFlowWord_of_mem hmem).word_ofSpelling hascii
  rw [hlowered] at hword
  rw [decide_eq_true_eq]
  rintro ⟨rfl, hother⟩
  exact hother hword

/-- A finding is given as the message about open blocks, and no other is. -/
theorem flowFindings_eq_of_messages {code : Text}
    (honly : (flowFindings code).map Finding.message = ["Mismatched $if / $endif".toList]) :
    flowFindings code = [.unbalancedIf] := by
  obtain ⟨finding, hfindings, hmessage⟩ := List.map_eq_singleton_iff.mp honly
  rw [hfindings, (Finding.message_inj_of_partner (Or.inr rfl)).mp hmessage]

/-- A snippet in small letters in which nothing is found but that blocks stay open: the repair is
the fenced snippet with as many closing words as the walk over its words leaves blocks open,
nothing is found in the snippet with these, and something is with fewer of them. -/
theorem repair_closes_open_blocks {code : Text}
    (hsmall : ∀ spelling ∈ flowSpellings code, ∀ c ∈ spelling, c.isLower)
    (honly : (flowFindings code).map Finding.message = ["Mismatched $if / $endif".toList]) :
    let depth := (flowTokens code).foldl depthBehind 0
    (∃ state : FlowState, state.depth = depth ∧ ∀ more,
        flowFindingsFrom .start (flowTokens code ++ more) = flowFindingsFrom state more) ∧
      0 < depth ∧
      appendEndifs? code = some ("```js\n".toList ++ closedBy code depth ++ "```".toList) ∧
      flowFindings (closedBy code depth) = [] ∧
      ∀ n < depth, flowFindings (closedBy code n) ≠ [] := by
  intro depth
  have hfindings : flowFindingsFrom .start (flowTokens code) = [.unbalancedIf] :=
    flowFindings_eq_of_messages honly
  obtain ⟨state, hrun, hsome, hdepth, hcount⟩ := exists_state_of_unbalancedIf hfindings
  have hpos : 0 < depth := Nat.lt_of_lt_of_eq hsome hdepth
  have hmissing : countedMissing code = depth := by
    have hopenings := count_flowTokens .opening code
    have hclosings := count_flowTokens .closing code
    rw [miscased_eq_zero hsmall] at hopenings hclosings
    have hcounted : countedMissing code = countWord ('$' :: FlowToken.opening.word) code -
      countWord ('$' :: FlowToken.closing.word) code := rfl
    omega
  have hclosed : ∀ n, flowFindings (closedBy code n) = [] ↔ n = depth := by
    intro n
    rw [flowFindings, flowTokens_closedBy, hrun, flowFindingsFrom_replicate_closing, hdepth]
  refine ⟨⟨state, hdepth, hrun⟩, hpos, ?_, (hclosed depth).mpr rfl, fun n hn => ?_⟩
  · rw [appendEndifs?_eq_closedBy, hmissing, if_neg (Nat.ne_of_gt hpos)]
  · exact mt (hclosed n).mp (Nat.ne_of_lt hn)

/-- Three blocks, of which the middle one is closed, and a line end. -/
def unclosedSnippet : Text :=
  "$if[a]\n$if[b]x$else y$endif\n$elseif[c]$if[d]$else\n"

theorem repair_closes_open_blocks_unclosedSnippet :
    ((∀ spelling ∈ flowSpellings unclosedSnippet, ∀ c ∈ spelling, c.isLower) ∧
      (flowFindings unclosedSnippet).map Finding.message = ["Mismatched $if / $endif".toList]) ∧
    appendEndifs? unclosedSnippet = some ("```js\n".toList ++
        (unclosedSnippet ++ "$endif\n$endif\n".toList) ++ "```".toList) ∧
      flowFindings (closedBy unclosedSnippet 2) = [] ∧
      ∀ n < 2, flowFindings (closedBy unclosedSnippet n) ≠ [] := by
  have hsmall : ∀ spelling ∈ flowSpellings unclosedSnippet, ∀ c ∈ spelling, c.isLower := by
    have hspelled : flowSpellings unclosedSnippet =
        ["if", "if", "else", "endif", "elseif", "if", "else"].map String.toList := by
      decide +kernel
    have hletters : (flowSpellings unclosedSnippet).all (·.all Char.isLower) = true := by
      rw [hspelled]
      decide
    simpa only [List.all_eq_true] using hletters
  have honly : (flowFindings unclosedSnippet).map Finding.message =
      ["Mismatched $if / $endif".toList] := by
    decide +kernel
  obtain ⟨-, -, hcloses⟩ := repair_closes_open_blocks hsmall honly
  have hdepth : (flowTokens unclosedSnippet).foldl depthBehind 0 = 2 := by decide +kernel
  rw [hdepth] at hcloses
  exact ⟨⟨hsmall, honly⟩, hcloses⟩

end ScriptDocs.Snippet
