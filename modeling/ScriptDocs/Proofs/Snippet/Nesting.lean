/-
# Well-nested control flow

The walk over the words of control flow against the two things it is meant to decide. It
finds nothing wrong just where the words make a row of closed blocks, each with at most
one `$else` of its own. And what it finds counts the words that have no partner: one finding
for every `$endif` without an open `$if`, and one at the end where some `$if` stays open.
-/

import ScriptDocs.Proofs.Snippet.FlowWalk
import Mathlib.Data.List.Infix

namespace ScriptDocs.Snippet

/-- What stands in a block: any number of `$elseif`, closed blocks, and the given number of
`$else` of its own. A block has at most one `$else` of its own. -/
inductive Body : Nat → List FlowToken → Prop
  | empty : Body 0 []
  | elseif {own : Nat} {rest : List FlowToken} : Body own rest → Body own (.elseif :: rest)
  | otherwise {own : Nat} {rest : List FlowToken} : Body own rest →
      Body (own + 1) (.otherwise :: rest)
  | block {inner own : Nat} {body rest : List FlowToken} : inner ≤ 1 → Body inner body →
      Body own rest → Body own (.opening :: body ++ .closing :: rest)

/-- A row of closed blocks. -/
inductive Nested : List FlowToken → Prop
  | empty : Nested []
  | block {own : Nat} {body rest : List FlowToken} : own ≤ 1 → Body own body → Nested rest →
      Nested (.opening :: body ++ .closing :: rest)

/-- A block is passed over where the walk over its body does no more than count. -/
theorem flowFindingsFrom_block {state : FlowState} (hfresh : state.Fresh) {body : List FlowToken}
    {count : Nat} (hbody : ∀ rest, flowFindingsFrom (state.behind .opening) (body ++ rest) =
      flowFindingsFrom ((state.behind .opening).setElses count) rest) (rest : List FlowToken) :
    flowFindingsFrom state (.opening :: body ++ .closing :: rest) =
      flowFindingsFrom state rest := by
  have hopen : (state.behind .opening).depth ≠ 0 := Nat.succ_ne_zero state.depth
  calc flowFindingsFrom state (.opening :: body ++ .closing :: rest)
    _ = flowFindingsFrom (state.behind .opening) (body ++ .closing :: rest) := rfl
    _ = flowFindingsFrom ((state.behind .opening).setElses count) (.closing :: rest) :=
        hbody (.closing :: rest)
    _ = flowFindingsFrom (((state.behind .opening).setElses count).behind .closing) rest := rfl
    _ = flowFindingsFrom state rest := by
        rw [FlowState.closing_setElses hopen, hfresh.closing_opening]

/-- A body adds its `$else` to the block it stands in, and nothing is found in it. -/
theorem Body.flowFindingsFrom_append {own : Nat} {body : List FlowToken} (hbody : Body own body)
    {state : FlowState} (hfresh : state.Fresh) (hopen : state.depth ≠ 0)
    (hown : state.elses state.depth + own ≤ 1) (rest : List FlowToken) :
    flowFindingsFrom state (body ++ rest) =
      flowFindingsFrom (state.setElses (state.elses state.depth + own)) rest := by
  induction hbody generalizing state rest with
  | empty => rw [Nat.add_zero, FlowState.setElses_self, List.nil_append]
  | @elseif own body _ ih =>
      have hstep : flowFindingsFrom state (.elseif :: (body ++ rest)) =
          flowFindingsFrom state (body ++ rest) := by
        rw [flowFindingsFrom, FlowState.finding?, if_neg hopen]
        rfl
      exact hstep.trans (ih hfresh hopen hown rest)
  | @otherwise own body _ ih =>
      have hfirst : ¬ 1 < state.elses state.depth + 1 := by omega
      have hstep : flowFindingsFrom state (.otherwise :: (body ++ rest)) =
          flowFindingsFrom (state.setElses (state.elses state.depth + 1)) (body ++ rest) := by
        rw [flowFindingsFrom, FlowState.finding?, FlowState.behind, if_neg hopen, if_neg hopen,
          if_neg hfirst]
        rfl
      have hrest := ih (hfresh.setElses (state.elses state.depth + 1)) hopen
        (by simp only [FlowState.depth_setElses, FlowState.elses_setElses]; omega) rest
      simp only [FlowState.depth_setElses, FlowState.elses_setElses,
        FlowState.setElses_setElses] at hrest
      rw [List.cons_append, hstep, hrest, Nat.add_assoc, Nat.add_comm 1]
  | @block inner own body rest' hinner _ _ ihbody ihrest =>
      have hinside := ihbody (hfresh.behind .opening) (Nat.succ_ne_zero state.depth)
        (by rw [hfresh.elses_opening]; omega)
      have hblock := flowFindingsFrom_block hfresh hinside (rest' ++ rest)
      rw [List.append_assoc]
      exact hblock.trans (ihrest hfresh hopen hown rest)

/-- In a row of closed blocks nothing is found. -/
theorem Nested.flowFindingsFrom_eq_nil {tokens : List FlowToken} (hnested : Nested tokens) :
    flowFindingsFrom .start tokens = [] := by
  induction hnested with
  | empty => rfl
  | @block own body rest hown hbody _ ih =>
      have hfresh := FlowState.fresh_start
      have hinside := hbody.flowFindingsFrom_append (hfresh.behind .opening) (Nat.succ_ne_zero 0)
        (by rw [hfresh.elses_opening]; omega)
      rw [flowFindingsFrom_block hfresh hinside rest, ih]

/-- Where nothing is found, the innermost open block is closed behind a body that fits it, and
nothing is found behind that. -/
theorem exists_body_of_flowFindingsFrom_eq_nil {state : FlowState} (hfresh : state.Fresh)
    (hopen : state.depth ≠ 0) {tokens : List FlowToken}
    (hnothing : flowFindingsFrom state tokens = []) :
    ∃ own body rest, tokens = body ++ .closing :: rest ∧ Body own body ∧
      (own = 0 ∨ state.elses state.depth + own ≤ 1) ∧
      flowFindingsFrom (state.behind .closing) rest = [] := by
  match tokens with
  | [] => exact absurd (flowFindingsFrom_nil_eq_nil_iff.mp hnothing) hopen
  | token :: rest =>
    obtain ⟨hfirst, hrest⟩ := List.append_eq_nil_iff.mp hnothing
    match token with
    | .closing => exact ⟨0, [], rest, rfl, .empty, Or.inl rfl, hrest⟩
    | .elseif =>
        obtain ⟨own, body, behind, rfl, hbody, hown, hbehind⟩ :=
          exists_body_of_flowFindingsFrom_eq_nil hfresh hopen hrest
        exact ⟨own, .elseif :: body, behind, rfl, hbody.elseif, hown, hbehind⟩
    | .otherwise =>
        have hzero : state.elses state.depth = 0 := by
          by_contra hpos
          simp [FlowState.finding?, hopen, Nat.pos_of_ne_zero hpos] at hfirst
        rw [FlowState.behind, if_neg hopen] at hrest
        obtain ⟨own, body, behind, rfl, hbody, hown, hbehind⟩ :=
          exists_body_of_flowFindingsFrom_eq_nil (hfresh.setElses _) hopen hrest
        rw [FlowState.closing_setElses hopen] at hbehind
        simp only [FlowState.depth_setElses, FlowState.elses_setElses] at hown
        exact ⟨own + 1, .otherwise :: body, behind, rfl, hbody.otherwise, by omega, hbehind⟩
    | .opening =>
        obtain ⟨inner, body, middle, rfl, hbody, hinner, hmiddle⟩ :=
          exists_body_of_flowFindingsFrom_eq_nil (hfresh.behind .opening)
            (Nat.succ_ne_zero state.depth) hrest
        rw [hfresh.closing_opening] at hmiddle
        rw [hfresh.elses_opening] at hinner
        obtain ⟨own, body', behind, rfl, hbody', hown, hbehind⟩ :=
          exists_body_of_flowFindingsFrom_eq_nil hfresh hopen hmiddle
        refine ⟨own, .opening :: body ++ .closing :: body', behind, by simp, ?_, hown, hbehind⟩
        exact .block (by omega) hbody hbody'
termination_by tokens.length
decreasing_by all_goals simp_all <;> omega

/-- The walk finds nothing just where the words are well nested. -/
theorem flowFindingsFrom_eq_nil_iff {tokens : List FlowToken} :
    flowFindingsFrom .start tokens = [] ↔ Nested tokens := by
  refine ⟨fun hnothing => ?_, Nested.flowFindingsFrom_eq_nil⟩
  induction hlength : tokens.length using Nat.strong_induction_on generalizing tokens with
  | _ length ih =>
      match tokens with
      | [] => exact .empty
      | .elseif :: _ | .otherwise :: _ | .closing :: _ =>
          simp [flowFindingsFrom, FlowState.finding?, FlowState.start] at hnothing
      | .opening :: rest =>
          have hfresh := FlowState.fresh_start
          obtain ⟨own, body, behind, rfl, hbody, hown, hbehind⟩ :=
            exists_body_of_flowFindingsFrom_eq_nil (hfresh.behind .opening) (Nat.succ_ne_zero 0)
              hnothing
          rw [hfresh.closing_opening] at hbehind
          rw [hfresh.elses_opening] at hown
          have hshorter : behind.length < length := by
            rw [← hlength]
            simp
            omega
          exact .block (by omega) hbody (ih behind.length hshorter hbehind rfl)

/-- The words that close a block where none is open are as many as the closing words outnumber
the opening ones in some front of the words, and in no front do they by more. -/
theorem count_endifOutsideIf (state : FlowState) (tokens : List FlowToken) :
    let missing := (flowFindingsFrom state tokens).count .endifOutsideIf
    (∀ front, front <+: tokens →
        front.count .closing ≤ front.count .opening + state.depth + missing) ∧
      (missing = 0 ∨ ∃ front, front <+: tokens ∧
        front.count .closing = front.count .opening + state.depth + missing) := by
  induction tokens generalizing state with
  | nil =>
      refine ⟨fun front hfront => ?_, Or.inl ?_⟩
      · simp [List.prefix_nil.mp hfront]
      · rw [flowFindingsFrom]
        split <;> rfl
  | cons token tokens ih =>
      obtain ⟨hall, hsome⟩ := ih (state.behind token)
      rw [state.depth_behind] at hall hsome
      simp only [flowFindingsFrom, List.count_append, state.count_finding?]
      have hword := count_depthBehind state.depth token
      constructor
      · intro front hfront
        rcases List.prefix_cons_iff.mp hfront with rfl | ⟨rest, rfl, hrest⟩
        · simp
        · have hbound := hall rest hrest
          have hdepths := hword rest
          omega
      · rcases hsome with hnone | ⟨front, hfront, hmost⟩
        · by_cases hunmatched : token = .closing ∧ state.depth = 0
          · refine Or.inr ⟨[token], by simp, ?_⟩
            obtain ⟨rfl, hempty⟩ := hunmatched
            simp [hnone, hempty]
          · exact Or.inl (by rw [hnone, if_neg hunmatched])
        · refine Or.inr ⟨token :: front, (List.prefix_cons_inj token).mpr hfront, ?_⟩
          have hdepths := hword front
          omega

/-- Words that close every block they open and no other. -/
def Paired (tokens : List FlowToken) : Prop :=
  (∀ front, front <+: tokens → front.count .closing ≤ front.count .opening) ∧
    tokens.count .closing = tokens.count .opening

/-- The words before a closing one hold the `$if` that it closes: what stands between the two is
paired. -/
def HasOpening (before : List FlowToken) : Prop :=
  ∃ outer inner, before = outer ++ .opening :: inner ∧ Paired inner

/-- Words that never close more blocks than are open change the depth by what they open and
close. -/
theorem foldl_depthBehind_of_open (depth : Nat) {tokens : List FlowToken}
    (hopen : ∀ front, front <+: tokens → front.count .closing ≤ front.count .opening + depth) :
    tokens.foldl depthBehind depth + tokens.count .closing = tokens.count .opening + depth := by
  induction tokens generalizing depth with
  | nil => simp
  | cons token tokens ih =>
      have hcovered : ¬ (token = .closing ∧ depth = 0) := by
        rintro ⟨rfl, rfl⟩
        simpa using hopen [.closing] (by simp)
      have hrest := ih (depthBehind depth token) fun front hfront => by
        have hlonger := hopen (token :: front) ((List.prefix_cons_inj token).mpr hfront)
        have hword := count_depthBehind depth token front
        rw [if_neg hcovered] at hword
        omega
      have hword := count_depthBehind depth token tokens
      rw [if_neg hcovered] at hword
      rw [List.foldl_cons]
      omega

/-- Closing words close all open blocks just where they are as many. -/
theorem flowFindingsFrom_replicate_closing {state : FlowState} {n : Nat} :
    flowFindingsFrom state (List.replicate n .closing) = [] ↔ n = state.depth := by
  induction n generalizing state with
  | zero => rw [List.replicate_zero, flowFindingsFrom_nil_eq_nil_iff, eq_comm]
  | succ n ih =>
      rw [List.replicate_succ, flowFindingsFrom, List.append_eq_nil_iff, ih, state.depth_behind]
      by_cases hdepth : state.depth = 0
      · simp [FlowState.finding?, hdepth]
      · simp [FlowState.finding?, hdepth, depthBehind]
        omega

/-- Where nothing is wrong but that blocks stay open, the walk over the words has found nothing so
far and leads to a state in which some are open; they are as many as the `$if` outnumber the
`$endif`. -/
theorem exists_state_of_unbalancedIf {tokens : List FlowToken}
    (honly : flowFindingsFrom .start tokens = [.unbalancedIf]) :
    ∃ state : FlowState,
      (∀ more, flowFindingsFrom .start (tokens ++ more) = flowFindingsFrom state more) ∧
      0 < state.depth ∧ state.depth = tokens.foldl depthBehind 0 ∧
      tokens.count .closing + state.depth = tokens.count .opening := by
  obtain ⟨found, hfound, hrun⟩ := exists_flowFindingsFrom_append .start tokens
  have hend := hrun []
  rw [List.append_nil, honly] at hend
  obtain rfl : found = [] := by
    rcases List.append_eq_singleton_iff.mp hend.symm with ⟨hnone, -⟩ | ⟨rfl, -⟩
    · exact hnone
    · simp at hfound
  have hdepth := FlowState.depth_foldl_behind .start tokens
  have hopened : (tokens.foldl FlowState.behind .start).depth ≠ 0 := fun hnone => by
    rw [List.nil_append, flowFindingsFrom_nil_eq_nil_iff.mpr hnone] at hend
    cases hend
  obtain ⟨hfronts, -⟩ := count_endifOutsideIf .start tokens
  rw [honly] at hfronts
  have hcounts := foldl_depthBehind_of_open 0 hfronts
  exact ⟨_, hrun, Nat.pos_of_ne_zero hopened, hdepth, by rw [hdepth, Nat.add_comm]; exact hcounts⟩

/-- Where nothing is wrong but that blocks stay open, closing words put it right just where they
are as many as the `$if` outnumber the `$endif`. -/
theorem flowFindingsFrom_append_closing_eq_nil_iff {tokens : List FlowToken}
    (honly : flowFindingsFrom .start tokens = [.unbalancedIf]) (n : Nat) :
    tokens.count .closing < tokens.count .opening ∧
      (flowFindingsFrom .start (tokens ++ List.replicate n .closing) = [] ↔
        tokens.count .closing + n = tokens.count .opening) := by
  obtain ⟨state, hrun, hpos, -, hcount⟩ := exists_state_of_unbalancedIf honly
  rw [hrun, flowFindingsFrom_replicate_closing]
  omega

/-- Every block that is open behind some words was opened by one of them, behind which as many
blocks have been opened and left open as lie within it. -/
theorem exists_opening_of_lt {before : List FlowToken} {inside : Nat}
    (hdeep : inside < before.foldl depthBehind 0) :
    ∃ outer inner, before = outer ++ .opening :: inner ∧
      (∀ front, front <+: inner → front.count .closing ≤ front.count .opening) ∧
      inner.count .opening = inner.count .closing + inside := by
  induction before using List.reverseRecOn generalizing inside with
  | nil => simp at hdeep
  | append_singleton before token ih =>
      rw [List.foldl_append, List.foldl_cons, List.foldl_nil] at hdeep
      -- Either the last word opens the block itself, or it stands within the block.
      have hlast : (token = .opening ∧ inside = 0) ∨ ∃ depth < before.foldl depthBehind 0,
          depthBehind depth token = inside ∧ ¬ (token = .closing ∧ depth = 0) := by
        cases token with
        | opening =>
            cases inside with
            | zero => exact Or.inl ⟨rfl, rfl⟩
            | succ depth => exact Or.inr ⟨depth, Nat.lt_of_succ_lt_succ hdeep, rfl, by simp⟩
        | closing =>
            simp only [depthBehind] at hdeep
            exact Or.inr ⟨inside + 1, by omega, rfl, by simp⟩
        | elseif | otherwise => exact Or.inr ⟨inside, hdeep, rfl, by simp⟩
      rcases hlast with ⟨rfl, rfl⟩ | ⟨depth, hdepth, rfl, hcovered⟩
      · exact ⟨before, [], rfl, fun front hfront => by simp [List.prefix_nil.mp hfront], rfl⟩
      · obtain ⟨outer, inner, rfl, hfronts, hcount⟩ := ih hdepth
        have hword := count_depthBehind depth token []
        rw [if_neg hcovered] at hword
        simp only [List.count_nil, Nat.add_zero] at hword
        refine ⟨outer, inner ++ [token], by simp, fun front hfront => ?_, ?_⟩
        · rcases List.prefix_concat_iff.mp hfront with rfl | hfront
          · rw [List.count_append, List.count_append]
            omega
          · exact hfronts front hfront
        · rw [List.count_append, List.count_append]
          omega

/-- A block is open behind some words just where they hold an `$if` without its `$endif`. -/
theorem hasOpening_iff {before : List FlowToken} :
    HasOpening before ↔ 0 < before.foldl depthBehind 0 := by
  constructor
  · rintro ⟨outer, inner, rfl, hfronts, hpaired⟩
    rw [List.foldl_append, List.foldl_cons, depthBehind]
    have hinner := foldl_depthBehind_of_open (outer.foldl depthBehind 0 + 1)
      fun front hfront => Nat.le_add_right_of_le (hfronts front hfront)
    omega
  · intro hdeep
    obtain ⟨outer, inner, hbefore, hfronts, hcount⟩ := exists_opening_of_lt hdeep
    exact ⟨outer, inner, hbefore, hfronts, by omega⟩

instance (before : List FlowToken) : Decidable (HasOpening before) :=
  decidable_of_iff _ hasOpening_iff.symm

/-- The positions of the closing words that have an `$if` to close. -/
def partnered (tokens : List FlowToken) : List Nat :=
  (List.range tokens.length).filter fun i =>
    tokens[i]? = some .closing ∧ HasOpening (tokens.take i)

theorem partnered_concat (tokens : List FlowToken) (token : FlowToken) :
    partnered (tokens ++ [token]) =
      partnered tokens ++ if token = .closing ∧ HasOpening tokens then [tokens.length] else [] := by
  have hbefore : ∀ i ∈ List.range tokens.length,
      decide ((tokens ++ [token])[i]? = some .closing ∧ HasOpening ((tokens ++ [token]).take i)) =
        decide (tokens[i]? = some .closing ∧ HasOpening (tokens.take i)) := by
    intro i hi
    have hlt : i < tokens.length := List.mem_range.mp hi
    rw [List.getElem?_append_left hlt, List.take_append_of_le_length (Nat.le_of_lt hlt)]
  have hlast : (tokens ++ [token])[tokens.length]? = some token ∧
      (tokens ++ [token]).take tokens.length = tokens := by simp
  rw [partnered, List.length_append, List.length_singleton, List.range_succ, List.filter_append,
    List.filter_congr hbefore, partnered]
  simp only [List.filter_cons, hlast, List.filter_nil, Option.some.injEq, decide_eq_true_eq]

/-- Every `$if` is closed by a word of its own or still open at the end. -/
theorem length_partnered_add (tokens : List FlowToken) :
    (partnered tokens).length + tokens.foldl depthBehind 0 = tokens.count .opening := by
  induction tokens using List.reverseRecOn with
  | nil => rfl
  | append_singleton tokens token ih =>
      have hword := count_depthBehind (tokens.foldl depthBehind 0) token []
      simp only [List.count_nil, Nat.add_zero] at hword
      rw [partnered_concat, List.length_append, List.foldl_append, List.foldl_cons, List.foldl_nil,
        List.count_append, ← ih]
      by_cases hclosing : token = .closing
      · subst token
        by_cases hdeep : 0 < tokens.foldl depthBehind 0
        · simp [hasOpening_iff, hdeep, depthBehind]
          omega
        · simp [hasOpening_iff, hdeep, depthBehind]
          omega
      · simp [hclosing] at hword ⊢
        omega

end ScriptDocs.Snippet
