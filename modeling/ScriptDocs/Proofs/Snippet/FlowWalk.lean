/-
# The walk over the words of control flow

The walk keeps a depth and a count of `$else` for every depth, and sets a count back only where a
block of its depth is closed. So a block that is opened finds its count at zero because nothing is
counted at any depth beyond the open blocks, and every word keeps it so. What a whole walk leaves
behind is told from this by one lemma on each word.
-/

import ScriptDocs.Snippet.Flow

namespace ScriptDocs.Snippet

/-- How many blocks are open behind a word, given how many were before it. -/
def depthBehind (depth : Nat) : FlowToken → Nat
  | .opening => depth + 1
  | .closing => depth - 1
  | .elseif | .otherwise => depth

/-- The depth behind a word accounts for that word, unless it closes a block where none is open. -/
theorem count_depthBehind (depth : Nat) (token : FlowToken) (tokens : List FlowToken) :
    (token :: tokens).count .closing + tokens.count .opening + depthBehind depth token =
      (token :: tokens).count .opening + tokens.count .closing + depth +
        if token = .closing ∧ depth = 0 then 1 else 0 := by
  cases token with
  | closing =>
      by_cases hdepth : depth = 0
      · simp [depthBehind, hdepth]
        omega
      · simp [depthBehind, hdepth]
        omega
  | opening =>
      simp [depthBehind]
      omega
  | elseif | otherwise => simp [depthBehind, Nat.add_comm]

namespace FlowState

variable {state : FlowState}

@[simp]
theorem depth_setElses (state : FlowState) (count : Nat) :
    (state.setElses count).depth = state.depth :=
  rfl

@[simp]
theorem elses_setElses (state : FlowState) (count : Nat) :
    (state.setElses count).elses state.depth = count :=
  if_pos rfl

theorem elses_setElses_of_ne {depth : Nat} (hother : depth ≠ state.depth) (count : Nat) :
    (state.setElses count).elses depth = state.elses depth :=
  if_neg hother

@[simp]
theorem setElses_setElses (state : FlowState) (first second : Nat) :
    (state.setElses first).setElses second = state.setElses second := by
  unfold setElses
  congr 1
  funext depth
  split
  · rfl
  · rename_i hother
    exact if_neg hother

@[simp]
theorem setElses_self (state : FlowState) : state.setElses (state.elses state.depth) = state := by
  unfold setElses
  congr 1
  funext depth
  split
  · rename_i hdepth
    rw [hdepth]
  · rfl

theorem behind_closing (hopen : state.depth ≠ 0) :
    state.behind .closing = { state.setElses 0 with depth := state.depth - 1 } :=
  if_neg hopen

theorem depth_behind (state : FlowState) (token : FlowToken) :
    (state.behind token).depth = depthBehind state.depth token := by
  cases token with
  | opening | elseif => rfl
  | otherwise =>
      rw [behind]
      split <;> rfl
  | closing =>
      rw [behind]
      split
      · rename_i hnone
        rw [depthBehind, hnone]
      · rfl

theorem depth_foldl_behind (state : FlowState) (tokens : List FlowToken) :
    (tokens.foldl behind state).depth = tokens.foldl depthBehind state.depth := by
  induction tokens generalizing state with
  | nil => rfl
  | cons token tokens ih => rw [List.foldl_cons, List.foldl_cons, ih, depth_behind]

/-- Whether nothing is counted at the depths beyond the open blocks. -/
def Fresh (state : FlowState) : Prop :=
  ∀ depth, state.depth < depth → state.elses depth = 0

theorem fresh_start : start.Fresh := fun _ _ => rfl

theorem Fresh.setElses (hfresh : state.Fresh) (count : Nat) : (state.setElses count).Fresh := by
  intro depth hdeeper
  have hother : depth ≠ state.depth := Nat.ne_of_gt hdeeper
  rw [elses_setElses_of_ne hother]
  exact hfresh depth hdeeper

/-- A block that is closed leaves no count behind, and no other word counts beyond its depth. -/
theorem Fresh.behind (hfresh : state.Fresh) (token : FlowToken) : (state.behind token).Fresh := by
  cases token with
  | opening => exact fun depth hdeeper => hfresh depth (Nat.lt_of_succ_lt hdeeper)
  | elseif => exact hfresh
  | otherwise =>
      rw [FlowState.behind]
      split
      · exact hfresh
      · exact hfresh.setElses _
  | closing =>
      rw [FlowState.behind]
      split
      · exact hfresh
      · intro depth hdeeper
        rcases Nat.eq_or_lt_of_le (Nat.le_of_pred_lt hdeeper) with rfl | hbeyond
        · exact elses_setElses state 0
        · exact hfresh.setElses 0 depth hbeyond

/-- A block that is opened has had no `$else`. -/
theorem Fresh.elses_opening (hfresh : state.Fresh) :
    (state.behind .opening).elses (state.behind .opening).depth = 0 :=
  hfresh (state.depth + 1) (Nat.lt_succ_self state.depth)

/-- A block that is opened and closed leaves no trace. -/
theorem Fresh.closing_opening (hfresh : state.Fresh) :
    (state.behind .opening).behind .closing = state := by
  have hself := setElses_self (state.behind .opening)
  rw [hfresh.elses_opening] at hself
  rw [behind_closing (Nat.succ_ne_zero state.depth), hself]
  rfl

/-- The count of a block is of no account once it is closed. -/
theorem closing_setElses (hopen : state.depth ≠ 0) (count : Nat) :
    (state.setElses count).behind .closing = state.behind .closing := by
  rw [behind_closing hopen, @behind_closing (state.setElses count) hopen, setElses_setElses]
  rfl

theorem unbalancedIf_notMem_finding? (state : FlowState) (token : FlowToken) :
    .unbalancedIf ∉ (state.finding? token).toList := by
  cases token with
  | opening => simp [finding?]
  | elseif | otherwise | closing =>
      unfold finding?
      repeat' split
      all_goals simp

/-- A word is found to have no partner where it closes a block and none is open. -/
theorem count_finding? (state : FlowState) (token : FlowToken) :
    (state.finding? token).toList.count .endifOutsideIf =
      if token = .closing ∧ state.depth = 0 then 1 else 0 := by
  cases token with
  | opening => rfl
  | elseif | otherwise =>
      unfold finding?
      repeat' split
      all_goals simp_all
  | closing => by_cases hdepth : state.depth = 0 <;> simp [finding?, hdepth]

end FlowState

theorem flowFindingsFrom_nil_eq_nil_iff {state : FlowState} :
    flowFindingsFrom state [] = [] ↔ state.depth = 0 := by
  simp [flowFindingsFrom]

/-- The walk over some words: they are found to lack a partner as they come, and what is found
behind them depends only on the state that they lead to. -/
theorem exists_flowFindingsFrom_append (state : FlowState) (tokens : List FlowToken) :
    ∃ found, .unbalancedIf ∉ found ∧ ∀ more, flowFindingsFrom state (tokens ++ more) =
      found ++ flowFindingsFrom (tokens.foldl FlowState.behind state) more := by
  induction tokens generalizing state with
  | nil => exact ⟨[], by simp, fun _ => rfl⟩
  | cons token tokens ih =>
      obtain ⟨later, hlater, hrun⟩ := ih (state.behind token)
      refine ⟨(state.finding? token).toList ++ later, fun hmem => ?_, fun more => ?_⟩
      · exact (List.mem_append.mp hmem).elim (state.unbalancedIf_notMem_finding? token) hlater
      · rw [List.cons_append, flowFindingsFrom, hrun, List.append_assoc, List.foldl_cons]

/-- The walk ends with a finding about open blocks just where some are left, and has no such
finding before. -/
theorem exists_flowFindingsFrom_eq (tokens : List FlowToken) :
    ∃ found, .unbalancedIf ∉ found ∧ flowFindingsFrom .start tokens =
      found ++ if tokens.foldl depthBehind 0 = 0 then [] else [.unbalancedIf] := by
  obtain ⟨found, hfound, hrun⟩ := exists_flowFindingsFrom_append .start tokens
  have hall := hrun []
  rw [List.append_nil, flowFindingsFrom, FlowState.depth_foldl_behind] at hall
  exact ⟨found, hfound, hall⟩

end ScriptDocs.Snippet
