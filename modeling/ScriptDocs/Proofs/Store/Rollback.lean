/-
# What a rollback leaves behind

A rollback takes the rows back to the last commit, but not what the view has learnt about
the length of the vectors. Where the committed rows tell a length, or it was remembered
before, that makes no difference: whatever is learnt on the way is the same length, and a
view that has learnt what its rows tell answers like one that has not. Where they tell none,
the first passage that is added fixes a length, which the rollback does not undo.
-/

import ScriptDocs.Proofs.Store.Memory

namespace ScriptDocs

namespace Store

variable {store : Store} {passage : Passage}

theorem settled_rollback (store : Store) : store.rollback.Settled := ⟨rfl, rfl⟩

/-- A commit settles an unbroken view. -/
theorem settled_commit (hunbroken : store.isBroken = false) : store.commit.1.Settled := by
  rw [commit_of_unbroken hunbroken]
  exact ⟨hunbroken, rfl⟩

/-- A view behind some operations without a commit, given the settled view before them. -/
structure Follows (store settled : Store) : Prop where
  unbroken : store.isBroken = false
  saved : store.saved = settled.saved
  dialect : store.dialect = settled.dialect
  keeps : settled.table <+: store.table

/-- Nothing is learnt on the way but what was known from the start. -/
structure Recalls (store settled : Store) : Prop extends store.Follows settled where
  learnt : store.vectorLength = settled.vectorLength ∨
    settled.knownLength = .ok store.vectorLength

section Runs

variable {settled : Store} (hsettled : settled.Settled)
include hsettled

theorem Settled.follows : settled.Follows settled :=
  ⟨hsettled.unbroken, rfl, rfl, List.prefix_rfl⟩

/-- One operation other than a commit goes on from the settled view. -/
theorem Follows.perform (hfollows : store.Follows settled) {operation : Operation}
    (huncommitted : operation ≠ .commit) : (store.perform operation).1.Follows settled := by
  have hdialect := (store.perform_dialect operation).trans hfollows.dialect
  cases operation with
  | upsert passage =>
      by_cases hadded : (store.upsert passage).2 = .ok true
      · obtain ⟨-, -, hupsert⟩ := upsert_eq_of_added hadded
        simp only [Store.perform, hupsert]
        exact ⟨hfollows.unbroken, hfollows.saved, hfollows.dialect,
          hfollows.keeps.trans (List.prefix_append _ _)⟩
      · have halike := upsert_alike hadded
        exact ⟨halike.isBroken.trans hfollows.unbroken, halike.saved.trans hfollows.saved,
          hdialect, halike.table ▸ hfollows.keeps⟩
  | commit => exact absurd rfl huncommitted
  | rollback =>
      refine ⟨rfl, hfollows.saved, hdialect, ?_⟩
      rw [← hsettled.committed, ← hfollows.saved]
      exact List.prefix_rfl
  | holds _ | bySource _ _ | search _ _ | count | statistics => exact hfollows

/-- The rollback of a run without a commit leaves at most a length behind. -/
theorem Settled.rollback_after {operations : List Operation}
    (huncommitted : .commit ∉ operations) :
    (settled.after operations).rollback =
      { settled with vectorLength := (settled.after operations).vectorLength } := by
  have hfollows : (settled.after operations).Follows settled :=
    after_induction (Follows · settled) (fun _ hmem _ hbefore =>
      hbefore.perform hsettled (ne_of_mem_of_not_mem hmem huncommitted)) hsettled.follows
  rw [Store.rollback, hfollows.saved, hfollows.dialect, hsettled.committed, ← hsettled.unbroken]

variable (hknown : settled.knownLength ≠ .ok none)
include hknown

/-- Where a length is known or the rows cannot be read, more rows change nothing about it. -/
theorem Recalls.knownLength (hrecalls : store.Recalls settled) :
    store.knownLength = settled.knownLength := by
  rcases hrecalls.learnt with hsame | hlearnt
  · cases hlength : settled.vectorLength with
    | some length => simp [Store.knownLength, hsame, hlength]
    | none =>
        obtain ⟨more, hmore⟩ := hrecalls.keeps
        have htells := knownLength_of_none hsettled.unbroken hlength
        have hsome := Table.ne_nil_of_vectorLength? (htells ▸ hknown)
        rw [knownLength_of_none hrecalls.unbroken (hsame.trans hlength), htells, ← hmore,
          Table.vectorLength?_append hsome]
  · cases hlength : store.vectorLength with
    | none => exact absurd (hlength ▸ hlearnt) hknown
    | some length => rw [Store.knownLength, hlength, hlearnt, hlength]

theorem Recalls.perform (hrecalls : store.Recalls settled) {operation : Operation}
    (huncommitted : operation ≠ .commit) : (store.perform operation).1.Recalls settled := by
  refine ⟨hrecalls.toFollows.perform hsettled huncommitted, ?_⟩
  cases operation with
  | upsert passage =>
      have hsame := hrecalls.knownLength hsettled hknown
      rcases vectorLength_upsert store passage with hkept | hread | ⟨hnone, -⟩
      · simp only [Store.perform, hkept]
        exact hrecalls.learnt
      · exact Or.inr (hsame ▸ hread)
      · exact absurd (hsame ▸ hnone) hknown
  | commit => exact absurd rfl huncommitted
  | rollback | holds _ | bySource _ _ | search _ _ | count | statistics => exact hrecalls.learnt

theorem Recalls.after (hrecalls : store.Recalls settled) {operations : List Operation}
    (huncommitted : .commit ∉ operations) : (store.after operations).Recalls settled :=
  after_induction (Recalls · settled) (fun _ hmem _ hbefore =>
    hbefore.perform hsettled hknown (ne_of_mem_of_not_mem hmem huncommitted)) hrecalls

end Runs

namespace Settled

variable {settled : Store}

/-- What is known of the length may be remembered, as nothing is to be taken back. -/
theorem answers_learnt (hsettled : settled.Settled) {known : Option Nat}
    (hknown : settled.knownLength = .ok known) (operations : List Operation) :
    ({ settled with vectorLength := known } : Store).answers operations =
      settled.answers operations := by
  cases hlength : settled.vectorLength with
  | some length =>
      have hsame : known = settled.vectorLength := by
        simpa [knownLength, hlength, eq_comm] using hknown
      rw [hsame]
  | none =>
      rw [knownLength_of_none hsettled.unbroken hlength] at hknown
      cases known with
      | none => rw [← hlength]
      | some length =>
          have htells : settled.Tells length :=
            ⟨hsettled.unbroken, hknown, hsettled.committed ▸ hknown, Or.inl hlength⟩
          exact htells.answers_learn operations

/-- A run without a commit that adds nothing leaves a view that knows no length as it is. -/
theorem after_of_accepted_nil (hsettled : settled.Settled)
    (hunknown : settled.knownLength = .ok none) {operations : List Operation}
    (huncommitted : .commit ∉ operations) (hnothing : settled.accepted operations = []) :
    settled.after operations = settled := by
  induction operations with
  | nil => rfl
  | cons operation operations ih =>
      rw [List.mem_cons, not_or] at huncommitted
      rw [accepted, List.append_eq_nil_iff] at hnothing
      have hstep : (settled.perform operation).1 = settled := by
        cases operation with
        | upsert passage =>
            have hrefused : (settled.upsert passage).2 ≠ .ok true := by
              intro hadded
              rw [added_of_ok hadded] at hnothing
              exact List.cons_ne_nil _ _ hnothing.1
            refine (upsert_alike hrefused).eq ?_
            rcases vectorLength_upsert settled passage with hkept | hread | ⟨-, hadded⟩
            · exact hkept
            · have hnone : settled.vectorLength = none := vectorLength_of_unknown hunknown
              simpa [hunknown, hnone, eq_comm] using hread
            · exact absurd hadded hrefused
        | commit => exact absurd rfl huncommitted.1
        | rollback => exact hsettled.rollback_eq
        | holds _ | bySource _ _ | search _ _ | count | statistics => rfl
      rw [hstep] at hnothing
      rw [after_cons, hstep, ih huncommitted.2 hnothing.2]

end Settled

/-- A broken view stays as it is until a rollback. -/
theorem perform_of_broken (hbroken : store.isBroken = true) {operation : Operation}
    (hforward : operation ≠ .rollback) : (store.perform operation).1 = store := by
  have hrows : store.rows = .error .transactionBroken := by rw [rows, if_pos hbroken]
  cases operation with
  | upsert passage =>
      have hrefused : (store.upsert passage).2 ≠ .ok true := by
        intro hadded
        simpa [hbroken] using (upsert_eq_of_added hadded).1.unbroken
      refine (upsert_alike hrefused).eq ?_
      cases hlength : store.vectorLength with
      | some length => exact vectorLength_upsert_of_some hlength
      | none =>
          have hunread : store.knownLength = .error .transactionBroken := by
            simp [knownLength, hlength, hrows, bind, Except.bind]
          rcases vectorLength_upsert store passage with hkept | hread | ⟨hread, -⟩
          · exact hkept.trans hlength
          · cases hunread.symm.trans hread
          · cases hunread.symm.trans hread
  | commit => simp only [perform, commit, hrows]
  | rollback => exact absurd rfl hforward
  | holds _ | bySource _ _ | search _ _ | count | statistics => rfl

/-- What a broken view does before a rollback counts for nothing. -/
theorem exists_run_of_broken (hbroken : store.isBroken = true) (operations : List Operation) :
    ∃ rest, (∀ operation ∈ rest, operation ∈ operations) ∧
      (store.after operations).rollback = (store.rollback.after rest).rollback ∧
      store.accepted operations = store.rollback.accepted rest := by
  induction operations with
  | nil => exact ⟨[], by simp, rfl, rfl⟩
  | cons operation operations ih =>
      by_cases hforward : operation = .rollback
      · subst hforward
        exact ⟨operations, fun _ => List.mem_cons_of_mem _, rfl, rfl⟩
      · obtain ⟨rest, hrest, hafter, haccepted⟩ := ih
        have hsame := perform_of_broken hbroken hforward
        have hnothing : store.added operation = [] := by
          by_contra hadded
          simpa [hbroken] using (usable_of_added hadded).unbroken
        refine ⟨rest, fun _ h => List.mem_cons_of_mem _ (hrest _ h), ?_, ?_⟩
        · rw [after_cons, hsame, hafter]
        · rw [accepted, hnothing, hsame, haccepted, List.nil_append]

/-- Behind a commit that succeeded nothing is pending, and behind one that failed the view is
broken: either way a run goes on from the view that a rollback leaves there. -/
theorem exists_settled_run (store : Store) {between : List Operation}
    (huncommitted : .commit ∉ between) :
    ∃ rest, .commit ∉ rest ∧
      (store.commit.1.after between).rollback =
        (store.commit.1.rollback.after rest).rollback ∧
      store.commit.1.accepted between = store.commit.1.rollback.accepted rest := by
  cases hbroken : store.isBroken with
  | false =>
      rw [(settled_commit hbroken).rollback_eq]
      exact ⟨between, huncommitted, rfl, rfl⟩
  | true =>
      have hfailed : store.commit.1 = store :=
        perform_of_broken hbroken (nofun : Operation.commit ≠ .rollback)
      rw [hfailed]
      obtain ⟨rest, hrest, hrun⟩ := exists_run_of_broken hbroken between
      exact ⟨rest, fun hcommit => huncommitted (hrest _ hcommit), hrun⟩

/-- A view that remembers a length refuses what the settled view may insert. -/
theorem exists_answers_ne (hsettled : store.Settled) (hunknown : store.knownLength = .ok none)
    (hsupported : store.dialect ∈ dialects) (length : Nat) :
    ∃ later, (store.learn length).answers later ≠ store.answers later := by
  let passage : Passage :=
    { sourcePath := [], content := [], fingerprint := []
      embedding := List.replicate (length + 1) .zero }
  -- The vector is longer by one than the remembered length.
  have hrefused : ((store.learn length).upsert passage).2 =
      .error (.vectorLengthDiffers (length + 1) length) := by
    simp [passage, upsert, check, knownLength, learn, checkLength]
  have husable : store.Usable := ⟨hsettled.unbroken, hsupported⟩
  have hinserted : ∃ isNew, (store.upsert passage).2 = .ok isNew := by
    have hnonempty : passage.embedding ≠ [] := by simp [passage]
    by_cases hheld : passage.fingerprint ∈ store.table.fingerprints
    · exact ⟨false, upsert_of_held husable hnonempty (Or.inl hunknown) hheld⟩
    · exact ⟨true, by rw [upsert_of_new husable hnonempty (Or.inl hunknown) hheld]⟩
  obtain ⟨isNew, hinserted⟩ := hinserted
  refine ⟨[.upsert passage], ?_⟩
  simp [answers, perform, hrefused, hinserted, Except.map]

/-- Whether a rollback brings a settled view back, as far as any later operation can tell. -/
theorem Settled.answers_rollback_iff (hsettled : store.Settled) {operations : List Operation}
    (huncommitted : .commit ∉ operations) :
    (∀ later, (store.after operations).rollback.answers later = store.answers later) ↔
      store.knownLength ≠ .ok none ∨ store.accepted operations = [] := by
  constructor
  · intro hsame
    by_contra hneither
    rw [not_or, not_not] at hneither
    obtain ⟨hunknown, haccepted⟩ := hneither
    obtain ⟨hsupported, length, hlearnt⟩ := exists_learnt_of_accepted haccepted
    obtain ⟨later, hdiffers⟩ := exists_answers_ne hsettled hunknown hsupported length
    apply hdiffers
    rw [← hsame later, hsettled.rollback_after huncommitted, hlearnt, learn]
  · intro hcases later
    by_cases hunknown : store.knownLength = .ok none
    · have hnothing := hcases.resolve_left (not_not_intro hunknown)
      rw [hsettled.after_of_accepted_nil hunknown huncommitted hnothing, hsettled.rollback_eq]
    · have hstart : store.Recalls store := ⟨hsettled.follows, Or.inl rfl⟩
      rw [hsettled.rollback_after huncommitted]
      rcases (hstart.after hsettled hunknown huncommitted).learnt with hsame | hlearnt
      · rw [hsame]
      · exact hsettled.answers_learnt hlearnt later

/-- A rollback undoes what has been done since the last commit, as far as any later operation
can tell, exactly where the committed rows tell the length of the vectors or it was remembered
at the commit, or where nothing has been added since. -/
theorem rollback_undoes_iff (store : Store) (before : List Operation) {between : List Operation}
    (huncommitted : .commit ∉ between) :
    let committed := store.after (before ++ [.commit])
    (∀ later,
        (store.after (before ++ [.commit] ++ between ++ [.rollback])).answers later =
          (store.after (before ++ [.commit] ++ [.rollback])).answers later) ↔
      committed.rollback.knownLength ≠ .ok none ∨ committed.accepted between = [] := by
  intro committed
  obtain ⟨rest, hrest, hrun, haccepted⟩ := exists_settled_run (store.after before) huncommitted
  have hcommitted : committed = (store.after before).commit.1 := after_append store before [.commit]
  rw [hcommitted, haccepted, ← (settled_rollback _).answers_rollback_iff hrest, ← hrun]
  simp only [after_append]
  rfl

/-- The insertion of a passage that is rolled back. -/
def takenBack : List Operation := [.upsert (markedPassage 'y' [.one])]

theorem rollback_undoes_iff_of_committedRow :
    .commit ∉ takenBack ∧
      let before := [Operation.upsert (markedPassage 'x' [.zero])]
      let committed := ({} : Store).after (before ++ [.commit])
      ((∀ later,
          (({} : Store).after (before ++ [.commit] ++ takenBack ++ [.rollback])).answers later =
            (({} : Store).after (before ++ [.commit] ++ [.rollback])).answers later) ↔
        committed.rollback.knownLength ≠ .ok none ∨ committed.accepted takenBack = []) ∧
      committed.rollback.knownLength = .ok (some 1) := by
  have huncommitted : Operation.commit ∉ takenBack := by decide
  exact ⟨huncommitted, rollback_undoes_iff {} _ huncommitted, rfl⟩

/-- In an empty table the length of a passage that was taken back refuses another passage. -/
theorem answers_of_takenBack :
    let later := [Operation.upsert (markedPassage 'z' [.one, .zero])]
    let known := ({} : Store).after ([.commit] ++ takenBack ++ [.rollback])
    let fresh := ({} : Store).after ([.commit] ++ [.rollback])
    known.table = [] ∧ known.answers later = [.error (.vectorLengthDiffers 2 1)] ∧
      fresh.answers later = [.ok (.inserted true)] :=
  ⟨rfl, rfl, rfl⟩

end Store

end ScriptDocs
