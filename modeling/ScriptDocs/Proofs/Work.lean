/-
# Work that gets done

Work that goes on with the value of other work is done just where both are, and work that is not
done does not depend on what would have gone on with its value. A time limit makes no difference to
work that gets done in time.
-/

import ScriptDocs.Work

namespace ScriptDocs

deriving instance DecidableEq for Outcome

namespace Work

variable {α β γ : Type}

theorem outcome_bind_eq_done_iff {work : Work α} {next : α → Work β} {value : β} :
    (work >>= next).outcome = .done value ↔
      ∃ first, work.outcome = .done first ∧ (next first).outcome = .done value := by
  show (work.andThen next).outcome = .done value ↔ _
  unfold andThen
  constructor
  · intro hdone
    split at hdone
    · rename_i first hfirst
      exact ⟨first, hfirst, hdone⟩
    · cases hdone
    · cases hdone
  · rintro ⟨first, hfirst, hnext⟩
    rw [hfirst]
    exact hnext

theorem outcome_ofExcept_eq_done_iff {result : Except Failure α} {value : α} :
    (ofExcept result).outcome = .done value ↔ result = .ok value := by
  cases result with
  | ok other =>
      show Outcome.done other = .done value ↔ _
      rw [Outcome.done.injEq, Except.ok.injEq]
  | error failure =>
      constructor
      · intro hdone
        cases hdone
      · intro hdone
        cases hdone

theorem bind_of_done {work : Work α} {next : α → Work β} {first : α}
    (hdone : work.outcome = .done first) :
    work >>= next = ⟨(next first).outcome, work.events ++ (next first).events⟩ := by
  show work.andThen next = _
  rw [andThen, hdone]

theorem bind_eq_of_not_done {work : Work α} (hnever : ∀ value, work.outcome ≠ .done value)
    (first second : α → Work β) : work >>= first = work >>= second := by
  show work.andThen first = work.andThen second
  unfold andThen
  split
  · rename_i value hdone
    exact absurd hdone (hnever value)
  · rfl
  · rfl

theorem bind_assoc (work : Work α) (first : α → Work β) (second : β → Work γ) :
    work >>= first >>= second = work >>= fun value => first value >>= second := by
  show (work.andThen first).andThen second = work.andThen fun value => (first value).andThen second
  obtain ⟨outcome, events⟩ := work
  cases outcome with
  | failed failure => rfl
  | waiting limit => rfl
  | done value =>
      unfold andThen
      dsimp only
      cases (first value).outcome <;> simp

theorem events_bind_of_done {work : Work α} {next : α → Work β} {first : α}
    (hdone : work.outcome = .done first) :
    (work >>= next).events = work.events ++ (next first).events := by
  rw [bind_of_done hdone]

theorem bounded_eq_of_done {work : Work α} {time : Binary64} {failure : Failure} {value : α}
    (hdone : (bounded time failure work).outcome = .done value) :
    bounded time failure work = work := by
  obtain ⟨outcome, events⟩ := work
  cases outcome with
  | done value => rfl
  | failed failure => rfl
  | waiting limit =>
      rcases limit with - | ⟨inner, innerFailure⟩
      · cases hdone
      · dsimp only [bounded] at hdone
        split at hdone <;> cases hdone

/-- A time limit makes no difference to work that gets done under it. -/
theorem within_eq_of_done {work : Work α} {limit : Option Number} {failure : Failure} {value : α}
    (hdone : (within limit failure work).outcome = .done value) :
    within limit failure work = work := by
  cases limit with
  | none => rfl
  | some limit =>
      rw [within] at hdone ⊢
      by_cases hended : limit.atMost (.integer 0) = true
      · rw [if_pos hended] at hdone
        cases hdone
      rw [if_neg hended] at hdone ⊢
      cases htime : limit.double? with
      | none =>
          rw [htime] at hdone
          cases hdone
      | some time =>
          rw [htime] at hdone
          exact bounded_eq_of_done hdone

/-- A time limit that leaves time: there is none, or it is positive and a clock can wait for it. -/
def LeavesTime (limit : Option Number) : Prop :=
  ∀ time, limit = some time → time.atMost (.integer 0) = false ∧ time.double?.isSome = true

/-- Where no time is left, it makes no difference which work is to be done. -/
theorem within_eq_of_not_leavesTime {limit : Option Number} (hnone : ¬ LeavesTime limit)
    {failure : Failure} (first second : Work α) :
    within limit failure first = within limit failure second := by
  cases limit with
  | none => exact absurd nofun hnone
  | some limit =>
      rw [within, within]
      split
      · rfl
      · rename_i hpositive
        split
        · rename_i time htime
          refine absurd ?_ hnone
          rintro _ ⟨⟩
          exact ⟨Bool.eq_false_iff.mpr hpositive, by rw [htime]; rfl⟩
        · rfl

/-- Where time is left, work that asks a collaborator who fails ends as that one does. -/
theorem within_fail_bind_outcome {limit : Option Number} (htime : LeavesTime limit)
    {failure refusal : Failure} {next : α → Work β} {after : β → Work γ} :
    (within limit failure (fail refusal >>= next) >>= after).outcome = .failed refusal := by
  have hfail : (fail refusal >>= next : Work β) = fail refusal := rfl
  have hwithin : within limit failure (fail refusal : Work β) = fail refusal := by
    cases limit with
    | none => rfl
    | some limit =>
        obtain ⟨hpositive, hdouble⟩ := htime limit rfl
        obtain ⟨time, hdouble⟩ := Option.isSome_iff_exists.mp hdouble
        simp [within, hpositive, hdouble, bounded, fail]
  rw [hfail, hwithin]
  rfl

theorem bounded_outcome_eq_done_iff {work : Work α} {time : Binary64} {failure : Failure}
    {value : α} :
    (bounded time failure work).outcome = .done value ↔ work.outcome = .done value := by
  constructor
  · intro hdone
    rwa [bounded_eq_of_done hdone] at hdone
  · intro hdone
    rw [bounded, hdone]
    exact hdone

/-- Work gets done in time just where it gets done and there is time at all. -/
theorem within_outcome_eq_done_iff {work : Work α} {limit : Option Number} {failure : Failure}
    {value : α} : (within limit failure work).outcome = .done value ↔
      LeavesTime limit ∧ work.outcome = .done value := by
  cases limit with
  | none =>
      rw [and_iff_right (show LeavesTime none from nofun)]
      rfl
  | some limit =>
      have hleaves : LeavesTime (some limit) ↔
          limit.atMost (.integer 0) = false ∧ limit.double?.isSome = true :=
        ⟨fun h => h limit rfl, by rintro h _ ⟨⟩; exact h⟩
      rw [hleaves, within]
      cases hended : limit.atMost (.integer 0) with
      | true => simp [fail]
      | false =>
          cases htime : limit.double? with
          | none => simp [fail]
          | some time => simp [bounded_outcome_eq_done_iff]

/-- Work that goes on with the value of other work gets done in time just where the other does, and
what follows gets done. -/
theorem within_bind_outcome_eq_done_iff {work : Work α} {next : α → Work β}
    {limit : Option Number} {failure : Failure} {value : β} :
    (within limit failure (work >>= next)).outcome = .done value ↔
      ∃ first, (within limit failure work).outcome = .done first ∧
        (next first).outcome = .done value := by
  simp only [within_outcome_eq_done_iff, outcome_bind_eq_done_iff, and_assoc, exists_and_left]

end Work

end ScriptDocs
