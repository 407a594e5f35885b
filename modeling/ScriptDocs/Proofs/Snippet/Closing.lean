/-
# Closing words behind a snippet

The repair puts `$endif` behind a snippet, each on a line of its own. Such lines end whatever
word or name stands before them, so all that is read off the snippet is read as before: its
words of control flow, its names, and its calls as long as no bracket is left open.
-/

import ScriptDocs.Proofs.Snippet.Cutting
import ScriptDocs.Proofs.Snippet.FlowWord
import ScriptDocs.Snippet.Rules

namespace ScriptDocs.Snippet

/-- Closing words, each on a line of its own, behind a snippet. -/
def closingLines (n : Nat) : Text :=
  (List.replicate n "$endif".toList).flatMap ('\n' :: ·)

theorem runsBehind_append_closingLines {inside : Char → Bool} {word : Text}
    (hline : inside '\n' = false)
    (hword : Text.runsBehind '$' inside "\n$endif".toList = [word]) (code : Text) (n : Nat) :
    Text.runsBehind '$' inside (code ++ closingLines n) =
      Text.runsBehind '$' inside code ++ List.replicate n word := by
  have hlines : (List.replicate n "$endif".toList).flatMap
      (fun line => Text.runsBehind '$' inside ('\n' :: line)) = List.replicate n word := by
    rw [List.flatMap_replicate, show Text.runsBehind '$' inside ('\n' :: "$endif".toList) = [word]
      from hword, List.flatten_replicate_singleton]
  rw [closingLines, Text.runsBehind_append_flatMap hline, hlines]

theorem flowTokens_append_closingLines (code : Text) (n : Nat) :
    flowTokens (code ++ closingLines n) = flowTokens code ++ List.replicate n .closing := by
  have hword : Text.runsBehind '$' Text.isWord "\n$endif".toList = ["endif".toList] := by decide
  have hclosing : flowSpelling? "endif".toList = some "endif".toList ∧
      FlowToken.ofSpelling "endif".toList = .closing := by decide
  rw [flowTokens_eq_map, flowTokens_eq_map, flowSpellings_eq, flowSpellings_eq,
    runsBehind_append_closingLines (by decide) hword, List.filterMap_append,
    List.filterMap_replicate_of_some hclosing.1, List.map_append, List.map_replicate, hclosing.2]

/-- The name that a run of name characters makes with its sigil. -/
def sigiled? (run : Text) : Option Text :=
  if run.isEmpty then none else some ('$' :: run)

theorem readsRun_nameInFront : Text.ReadsRun '$' isNameChar sigiled? nameInFront where
  outside := by decide
  none_of_ne c s hc := by
    unfold nameInFront
    split
    · rename_i heq
      exact absurd (List.cons.inj heq).1 hc
    · rfl
  behind s := by
    rw [nameInFront, sigiled?]
    split <;> rfl

theorem allMatches_nameInFront_append_closingLines (code : Text) (n : Nat) :
    Text.allMatches nameInFront (code ++ closingLines n) =
      Text.allMatches nameInFront code ++ List.replicate n "$endif".toList := by
  have hword : Text.runsBehind '$' isNameChar "\n$endif".toList = ["endif".toList] := by decide
  have hname : sigiled? "endif".toList = some "$endif".toList := rfl
  rw [readsRun_nameInFront.allMatches_eq, readsRun_nameInFront.allMatches_eq,
    runsBehind_append_closingLines (by decide) hword, List.filterMap_append,
    List.filterMap_replicate_of_some hname]

theorem mem_functionNames_append_closingLines {code name : Text} {n : Nat}
    (hname : name ≠ "$endif".toList) :
    name ∈ functionNames (code ++ closingLines n) ↔ name ∈ functionNames code := by
  simp only [functionNames, mem_distinct, allMatches_nameInFront_append_closingLines,
    List.mem_append, List.mem_replicate]
  exact or_iff_left fun h => hname h.2

/-- The names other than the words of control flow stay the same, in their order. -/
theorem referencedFunctions_append_closingLines (code : Text) (n : Nat) :
    referencedFunctions (code ++ closingLines n) = referencedFunctions code := by
  have hkeyword : ∀ name ∈ List.replicate n "$endif".toList,
      ¬ decide (Text.lower name ∉ flowKeywords) = true := by
    intro name hname
    rw [List.eq_of_mem_replicate hname]
    decide
  rw [referencedFunctions, referencedFunctions, functionNames, functionNames, filter_distinct,
    filter_distinct, allMatches_nameInFront_append_closingLines, List.filter_append,
    List.filter_eq_nil_iff.mpr hkeyword, List.append_nil]

namespace Cut

/-- A snippet without an open bracket is cut apart from what is written behind it, where that does
not go on with a name or a bracket. -/
theorem append {code more : Text} {pieces others : List Piece} (hcut : Cut code pieces)
    (hclosed : ∀ name arguments, .unclosed name arguments ∉ pieces) (hends : EndsName more)
    (hopen : more.head? ≠ some '[') (hmore : Cut more others) :
    Cut (code ++ more) (pieces ++ others) := by
  induction hcut with
  | nil => exact hmore
  | @cons piece rest pieces hfits _ ih =>
      have hrest := ih fun name arguments h => hclosed name arguments (List.mem_cons_of_mem _ h)
      rw [List.append_assoc, List.cons_append]
      refine .cons ?_ hrest
      -- What follows the piece begins as before, or with the text behind.
      have hhead : (rest ++ more).head? = rest.head? ∨ (rest ++ more).head? = more.head? := by
        cases rest with
        | nil => exact Or.inr rfl
        | cons => exact Or.inl rfl
      have hendsName : EndsName rest → EndsName (rest ++ more) := by
        intro h c hc
        rcases hhead with hsame | hsame
        · exact h c (hsame ▸ hc)
        · exact hends c (hsame ▸ hc)
      cases piece with
      | skipped c => exact fun hc => hendsName (hfits hc)
      | bare name =>
          obtain ⟨hname, hrestEnds, hrestOpen⟩ := hfits
          refine ⟨hname, hendsName hrestEnds, ?_⟩
          rcases hhead with hsame | hsame
          · rwa [hsame]
          · rwa [hsame]
      | closed name arguments => exact hfits
      | unclosed name arguments => exact absurd List.mem_cons_self (hclosed name arguments)

end Cut

/-- The pieces of closing words on lines of their own. -/
def closingPieces (n : Nat) : List Piece :=
  (List.replicate n [Piece.skipped '\n', .bare "endif"]).flatten

/-- A line is cut at its end and into the word that it holds. -/
theorem Cut.cons_line {more : Text} {pieces : List Piece} (hends : EndsName more)
    (hopen : more.head? ≠ some '[') (hmore : Cut more pieces) :
    Cut ('\n' :: "$endif".toList ++ more) (Piece.skipped '\n' :: .bare "endif" :: pieces) := by
  have hname : "endif".toList.all isNameChar = true := by decide
  have hword : Piece.Fits (.bare "endif") more :=
    ⟨⟨by decide, fun c hc => (isNameChar_iff c).mp (List.all_eq_true.mp hname c hc)⟩, hends, hopen⟩
  have hline : Piece.Fits (.skipped '\n') ("$endif".toList ++ more) := fun h => absurd h (by decide)
  exact Cut.cons hline (Cut.cons hword hmore)

theorem cut_closingLines (n : Nat) :
    (EndsName (closingLines n) ∧ (closingLines n).head? ≠ some '[') ∧
      Cut (closingLines n) (closingPieces n) := by
  induction n with
  | zero =>
      refine ⟨⟨fun c hc => ?_, fun hc => ?_⟩, .nil⟩
      · cases show none = some c from hc
      · cases show none = some '[' from hc
  | succ n ih =>
      have hlines : closingLines (n + 1) = '\n' :: "$endif".toList ++ closingLines n := by
        rw [closingLines, List.replicate_succ, List.flatMap_cons]
        rfl
      rw [hlines]
      have hfirst : ('\n' :: "$endif".toList ++ closingLines n).head? = some '\n' := rfl
      rw [hfirst]
      exact ⟨⟨endsName_cons (by decide) _, by decide⟩, Cut.cons_line ih.1.1 ih.1.2 ih.2⟩

/-- Nothing is read differently, and every line is read as the word that it holds. -/
theorem calls_append_closingLines {code : Text}
    (hclosed : ∀ call ∈ calls code, call.finding? = none) (n : Nat) :
    calls (code ++ closingLines n) = calls code ++ List.replicate n ⟨"$endif", .keyword⟩ := by
  obtain ⟨pieces, hcut⟩ := Cut.exists_cut code
  have hpieces : ∀ name arguments, .unclosed name arguments ∉ pieces := by
    intro name arguments hmem
    rw [hcut.calls_eq] at hclosed
    have hcall := hclosed ⟨'$' :: name, .unclosed arguments⟩
      (List.mem_filterMap.mpr ⟨_, hmem, rfl⟩)
    cases hcall
  obtain ⟨hends, hlines⟩ := cut_closingLines n
  have hread : (closingPieces n).filterMap Piece.call? =
      List.replicate n ⟨"$endif", .keyword⟩ := by
    have hkeyword : [Piece.skipped '\n', .bare "endif"].filterMap Piece.call? =
        [⟨"$endif", .keyword⟩] := by decide
    rw [closingPieces, List.filterMap_flatten, List.map_replicate, hkeyword,
      List.flatten_replicate_singleton]
  rw [(hcut.append hpieces hends.1 hends.2 hlines).calls_eq, hcut.calls_eq, List.filterMap_append,
    hread]

/-- The findings about a snippet other than those about its control flow. -/
def callAndStructureFindings (code : Text) : List Finding :=
  guardFindings (calls code) ++ logicFindings (calls code) ++ callFindings (calls code) ++
    structureFindings code

theorem staticFindings_eq (code : Text) :
    staticFindings code = flowFindings code ++ callAndStructureFindings code := by
  simp only [staticFindings, callAndStructureFindings, List.append_assoc]

theorem callFindings_eq_nil_iff {found : List Call} :
    callFindings found = [] ↔ ∀ call ∈ found, call.finding? = none := by
  simp only [callFindings, groupByName, List.flatMap_eq_nil_iff, List.forall_mem_map, mem_distinct,
    List.filterMap_eq_nil_iff, callsOf, List.mem_filter, decide_eq_true_eq]
  constructor
  · intro hnone call hcall
    exact hnone call hcall call ⟨hcall, rfl⟩
  · rintro hnone - - call ⟨hcall, -⟩
    exact hnone call hcall

/-- Only the control flow can be unbalanced. -/
theorem unbalancedIf_notMem_callAndStructureFindings (code : Text) :
    .unbalancedIf ∉ callAndStructureFindings code := by
  have hguard : .unbalancedIf ∉ guardFindings (calls code) := by
    intro hmem
    obtain ⟨arguments, -, hfinding⟩ := List.mem_filterMap.mp hmem
    split at hfinding <;> cases hfinding
  have hlogic : .unbalancedIf ∉ logicFindings (calls code) := by
    intro hmem
    obtain ⟨condition, -, hfinding⟩ := List.mem_map.mp hmem
    cases hfinding
  have hcall : .unbalancedIf ∉ callFindings (calls code) := by
    intro hmem
    obtain ⟨group, -, hgroup⟩ := List.mem_flatMap.mp hmem
    obtain ⟨call, -, hfinding⟩ := List.mem_filterMap.mp hgroup
    unfold Call.finding? at hfinding
    split at hfinding <;> cases hfinding
  have hstructure : .unbalancedIf ∉ structureFindings code := by
    intro hmem
    rcases List.mem_append.mp hmem with hbulk | hloop
    · split at hbulk <;> simp at hbulk
    · split at hloop <;> simp at hloop
  simp only [callAndStructureFindings, List.mem_append, not_or]
  exact ⟨⟨⟨hguard, hlogic⟩, hcall⟩, hstructure⟩

theorem callsOf_append_replicate {name : Text} {call : Call} (hname : call.name ≠ name)
    (found : List Call) (n : Nat) :
    callsOf name (found ++ List.replicate n call) = callsOf name found := by
  simp [callsOf, hname]

theorem structureFindings_append_closingLines (code : Text) (n : Nat) :
    structureFindings (code ++ closingLines n) = structureFindings code := by
  have hmutations : ∀ name ∈ mutations, name ≠ "$endif".toList := by decide
  have hmutation : (functionNames (code ++ closingLines n)).any (· ∈ mutations) =
      (functionNames code).any (· ∈ mutations) := by
    rw [Bool.eq_iff_iff, List.any_eq_true, List.any_eq_true]
    apply exists_congr
    intro name
    rw [decide_eq_true_eq]
    exact and_congr_left fun hname => mem_functionNames_append_closingLines (hmutations name hname)
  have hroles : "$usersWithRole".toList ∈ functionNames (code ++ closingLines n) ↔ _ :=
    mem_functionNames_append_closingLines (by decide)
  have hloop : "$for".toList ∈ functionNames (code ++ closingLines n) ↔ _ :=
    mem_functionNames_append_closingLines (by decide)
  exact congrArg₂ (· ++ ·) (if_congr (and_congr hroles (iff_of_eq (congrArg (· = true) hmutation)))
    rfl rfl) (if_congr hloop rfl rfl)

/-- Where no call is written wrongly, closing words change nothing but the control flow. -/
theorem callAndStructureFindings_append_closingLines {code : Text}
    (hclosed : callFindings (calls code) = []) (n : Nat) :
    callAndStructureFindings (code ++ closingLines n) = callAndStructureFindings code := by
  have hcalls := calls_append_closingLines (callFindings_eq_nil_iff.mp hclosed) n
  have hguards : callsOf guardName (calls (code ++ closingLines n)) =
      callsOf guardName (calls code) := by
    rw [hcalls]
    exact callsOf_append_replicate (by decide) _ n
  have hifs : callsOf ifName (calls (code ++ closingLines n)) = callsOf ifName (calls code) := by
    rw [hcalls]
    exact callsOf_append_replicate (by decide) _ n
  have hguardFindings : guardFindings (calls (code ++ closingLines n)) =
      guardFindings (calls code) := by
    rw [guardFindings, guardFindings, hguards]
  have hlogicFindings : logicFindings (calls (code ++ closingLines n)) =
      logicFindings (calls code) := by
    simp only [logicFindings, conditions, List.flatMap_cons, List.flatMap_nil, hguards, hifs]
  have hcallFindings : callFindings (calls (code ++ closingLines n)) = [] := by
    rw [hcalls, callFindings_eq_nil_iff, List.forall_mem_append]
    refine ⟨callFindings_eq_nil_iff.mp hclosed, fun call hcall => ?_⟩
    rw [List.eq_of_mem_replicate hcall]
    rfl
  rw [callAndStructureFindings, hguardFindings, hlogicFindings, hcallFindings,
    structureFindings_append_closingLines, callAndStructureFindings, hclosed]

end ScriptDocs.Snippet
