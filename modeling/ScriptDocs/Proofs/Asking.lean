/-
# Whom some work asks

Work may be handed a collaborator whom it can ask questions. It asks nothing where it is the same
with every collaborator. It asks one question, once, where it is some events, the answer of the
collaborator, and what is done with that answer, and none of these but the answer depends on who the
collaborator is. Under a time limit it turns on that answer where the limit leaves time.
-/

import ScriptDocs.Proofs.Work

namespace ScriptDocs

variable {κ α β γ : Type} {question : κ} {run : (κ → Work α) → Work β}

namespace Work

theorem bind_done (work : Work α) : work >>= done = work := by
  show work.andThen done = work
  obtain ⟨outcome, events⟩ := work
  cases outcome with
  | done value => exact congrArg _ (List.append_nil events)
  | failed failure | waiting limit => rfl

/-- Work whose events come behind some others. -/
def behind (events : List Event) (work : Work α) : Work α :=
  ⟨work.outcome, events ++ work.events⟩

theorem bind_eq_behind {work : Work α} {next : α → Work β} {value : α}
    (hdone : work.outcome = .done value) : work >>= next = (next value).behind work.events :=
  bind_of_done hdone

theorem behind_behind (work : Work α) (first second : List Event) :
    (work.behind second).behind first = work.behind (first ++ second) :=
  congrArg _ (List.append_assoc _ _ _).symm

theorem behind_bind (work : Work α) (events : List Event) (next : α → Work β) :
    work.behind events >>= next = (work >>= next).behind events := by
  show (work.behind events).andThen next = (work.andThen next).behind events
  obtain ⟨outcome, others⟩ := work
  cases outcome with
  | done value => exact congrArg _ (List.append_assoc _ _ _)
  | failed failure | waiting limit => rfl

end Work

/-- Work that is the same with every collaborator. -/
def AsksNothing (run : (κ → Work α) → Work β) : Prop :=
  ∀ first second, run first = run second

/-- Work that asks its collaborator one question, once, and goes on with the answer. -/
def AsksOnce (question : κ) (run : (κ → Work α) → Work β) : Prop :=
  ∃ events, ∃ after : α → Work β, ∀ ask, run ask = (ask question >>= after).behind events

/-- Work that asks its collaborator at most once, and nothing but what is admitted. -/
def AsksOnly (admits : κ → Prop) (run : (κ → Work α) → Work β) : Prop :=
  AsksNothing run ∨ ∃ question, admits question ∧ AsksOnce question run

theorem asksNothing_const (work : Work β) : AsksNothing fun _ : κ → Work α => work :=
  fun _ _ => rfl

theorem asksOnce_ask (question : κ) : AsksOnce question fun ask : κ → Work α => ask question :=
  ⟨[], Work.done, fun ask => (Work.bind_done (ask question)).symm⟩

theorem AsksNothing.bind (hnothing : AsksNothing run) (next : β → Work γ) :
    AsksNothing fun ask => run ask >>= next :=
  fun first second => congrArg (· >>= next) (hnothing first second)

theorem AsksOnce.bind (honce : AsksOnce question run) (next : β → Work γ) :
    AsksOnce question fun ask => run ask >>= next := by
  obtain ⟨events, after, hrun⟩ := honce
  refine ⟨events, fun answer => after answer >>= next, fun ask => ?_⟩
  dsimp only
  rw [hrun, Work.behind_bind, Work.bind_assoc]

/-- What goes on with a value that is there asks what it asks. -/
theorem AsksOnce.after {work : Work γ} {value : γ} {next : (κ → Work α) → γ → Work β}
    (hdone : work.outcome = .done value) (honce : AsksOnce question fun ask => next ask value) :
    AsksOnce question fun ask => work >>= next ask := by
  obtain ⟨events, after, hnext⟩ := honce
  refine ⟨work.events ++ events, after, fun ask => ?_⟩
  dsimp only at hnext ⊢
  rw [Work.bind_eq_behind hdone, hnext, Work.behind_behind]

theorem AsksNothing.after {work : Work γ} {next : (κ → Work α) → γ → Work β}
    (hnothing : ∀ value, work.outcome = .done value → AsksNothing fun ask => next ask value) :
    AsksNothing fun ask => work >>= next ask := by
  intro first second
  cases hwork : work.outcome with
  | done value =>
      have hsame : next first value = next second value := hnothing value hwork first second
      dsimp only
      rw [Work.bind_eq_behind hwork, Work.bind_eq_behind hwork, hsame]
  | failed failure | waiting limit =>
      exact Work.bind_eq_of_not_done (by rw [hwork]; exact nofun) _ _

/-- Asking once makes a difference: collaborators that fail in two ways are told apart. -/
theorem AsksOnce.not_asksNothing (honce : AsksOnce question run) : ¬ AsksNothing run := by
  obtain ⟨events, after, hrun⟩ := honce
  intro hnothing
  have hsame := hnothing (fun _ => .fail .codeMissing) fun _ => .fail .codeEmpty
  rw [hrun, hrun] at hsame
  cases congrArg Work.outcome hsame

/-- Only one question is asked: a collaborator that fails in its own way on that is told apart. -/
theorem AsksOnce.unique {other : κ} (hfirst : AsksOnce question run)
    (hsecond : AsksOnce other run) : question = other := by
  classical
  obtain ⟨events, after, hrun⟩ := hfirst
  obtain ⟨events', after', hrun'⟩ := hsecond
  by_cases hdiffer : question = other
  · exact hdiffer
  let ask : κ → Work α := fun asked => .fail (if asked = question then .codeMissing else .codeEmpty)
  have hasked : ask question = .fail .codeMissing := congrArg Work.fail (if_pos rfl)
  have hother : ask other = .fail .codeEmpty := congrArg Work.fail (if_neg (Ne.symm hdiffer))
  have hsame := (hrun ask).symm.trans (hrun' ask)
  rw [hasked, hother] at hsame
  cases congrArg Work.outcome hsame

/-- Work that turns on the answer of its collaborator to one question, and on none of its other
answers. -/
def TurnsOn (question : κ) (run : (κ → Work α) → Work β) : Prop :=
  (∀ first second, first question = second question → run first = run second) ∧ ¬ AsksNothing run

/-- Work turns on one question only: a collaborator can agree with one other on the first question
and with another on the second. -/
theorem TurnsOn.unique {other : κ} (hfirst : TurnsOn question run) (hsecond : TurnsOn other run) :
    question = other := by
  classical
  by_cases hdiffer : question = other
  · exact hdiffer
  refine absurd (fun first second => ?_) hfirst.2
  let mixed : κ → Work α := fun asked => if asked = question then first question else second other
  have hquestion : mixed question = first question := if_pos rfl
  have hother : mixed other = second other := if_neg (Ne.symm hdiffer)
  calc run first = run mixed := (hfirst.1 mixed first hquestion).symm
    _ = run second := hsecond.1 mixed second hother

/-- Work that goes on with an answer, and waits for it under a time limit, turns on that answer
where the limit leaves time. -/
theorem turnsOn_within_iff {asked : κ} {limit : Option Number} {failure : Failure}
    {next : α → Work β} {after : β → Work γ} :
    TurnsOn asked (fun ask => Work.within limit failure (ask question >>= next) >>= after) ↔
      Work.LeavesTime limit ∧ asked = question := by
  have hone : ∀ first second : κ → Work α, first question = second question →
      Work.within limit failure (first question >>= next) >>= after =
        Work.within limit failure (second question >>= next) >>= after :=
    fun first second hsame => by rw [hsame]
  have hturns : Work.LeavesTime limit → TurnsOn question
      (fun ask => Work.within limit failure (ask question >>= next) >>= after) := by
    refine fun htime => ⟨hone, fun hnothing => ?_⟩
    have hsame := congrArg Work.outcome
      (hnothing (fun _ => Work.fail .codeMissing) fun _ => Work.fail .codeEmpty)
    rw [Work.within_fail_bind_outcome htime, Work.within_fail_bind_outcome htime] at hsame
    cases hsame
  constructor
  · intro hasked
    by_cases htime : Work.LeavesTime limit
    · exact ⟨htime, hasked.unique (hturns htime)⟩
    · refine absurd (fun first second => ?_) hasked.2
      exact congrArg (· >>= after) (Work.within_eq_of_not_leavesTime htime _ _)
  · rintro ⟨htime, rfl⟩
    exact hturns htime

namespace AsksOnly

variable {admits : κ → Prop}

theorem const (work : Work β) : AsksOnly admits fun _ : κ → Work α => work :=
  Or.inl (asksNothing_const work)

theorem bind (hrun : AsksOnly admits run) (next : β → Work γ) :
    AsksOnly admits fun ask => run ask >>= next := by
  rcases hrun with hnothing | ⟨question, hadmits, honce⟩
  · exact Or.inl (hnothing.bind next)
  · exact Or.inr ⟨question, hadmits, honce.bind next⟩

/-- What goes on with a value, if there is one, may ask. -/
theorem after {work : Work γ} {next : (κ → Work α) → γ → Work β}
    (hnext : ∀ value, work.outcome = .done value → AsksOnly admits fun ask => next ask value) :
    AsksOnly admits fun ask => work >>= next ask := by
  by_cases hdone : ∃ value, work.outcome = .done value
  · obtain ⟨value, hdone⟩ := hdone
    rcases hnext value hdone with hnothing | ⟨question, hadmits, honce⟩
    · refine Or.inl (AsksNothing.after fun other hother => ?_)
      cases hdone.symm.trans hother
      exact hnothing
    · exact Or.inr ⟨question, hadmits, honce.after hdone⟩
  · exact Or.inl (AsksNothing.after fun value hvalue => absurd ⟨value, hvalue⟩ hdone)

end AsksOnly

end ScriptDocs
