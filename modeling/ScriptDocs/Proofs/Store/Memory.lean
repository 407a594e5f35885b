/-
# What a view remembers

A view remembers the length of the vectors once it has learnt it, and never forgets or
changes it. It learns what its rows tell, or the length of the first passage that it adds
where they tell none. Where both the rows and those of the last commit tell a length, it
makes no difference to any answer whether the view remembers it.
-/

import ScriptDocs.Proofs.Store.Operation

namespace ScriptDocs

namespace Table

theorem vectorLength?_append {table : Table} (hsome : table ≠ []) (more : Table) :
    vectorLength? (table ++ more) = vectorLength? table := by
  obtain ⟨row, rest, rfl⟩ := List.exists_cons_of_ne_nil hsome
  rfl

theorem ne_nil_of_vectorLength? {table : Table} (htells : vectorLength? table ≠ .ok none) :
    table ≠ [] := by
  rintro rfl
  exact htells rfl

end Table

namespace Store

section Runs

variable (store : Store)

theorem after_append (first second : List Operation) :
    store.after (first ++ second) = (store.after first).after second :=
  List.foldl_append

theorem after_cons (operation : Operation) (operations : List Operation) :
    store.after (operation :: operations) = (store.perform operation).1.after operations :=
  rfl

end Runs

variable {store : Store} {passage : Passage}

/-- What each operation of a run preserves holds behind the run. -/
theorem after_induction (holds : Store → Prop) {operations : List Operation}
    (hstep : ∀ operation ∈ operations, ∀ store, holds store → holds (store.perform operation).1)
    (hstart : holds store) : holds (store.after operations) := by
  induction operations generalizing store with
  | nil => exact hstart
  | cons operation operations ih =>
      rw [List.forall_mem_cons] at hstep
      exact ih hstep.2 (hstep.1 store hstart)

/-- Where nothing is remembered the rows tell the length. -/
theorem knownLength_of_none (hunbroken : store.isBroken = false)
    (hnone : store.vectorLength = none) : store.knownLength = store.table.vectorLength? := by
  rw [knownLength, hnone, rows_of_unbroken hunbroken]
  rfl

theorem vectorLength_of_unknown (hunknown : store.knownLength = .ok none) :
    store.vectorLength = none := by
  cases hlength : store.vectorLength with
  | none => rfl
  | some length => simp [knownLength, hlength] at hunknown

theorem Alike.eq {first second : Store} (halike : first.Alike second)
    (hlength : first.vectorLength = second.vectorLength) : first = second := by
  cases first
  cases second
  obtain ⟨htable, hsaved, hbroken, hdialect, -⟩ := halike
  simp_all

/-- Only a usable view adds a row, and only under a new fingerprint. -/
theorem usable_of_insert (hadded : (store.insert passage).2 = .ok true) :
    store.Usable ∧ passage.fingerprint ∉ store.table.fingerprints := by
  by_cases hsupported : store.dialect ∈ dialects
  · cases hbroken : store.isBroken with
    | true => simp [insert, hsupported, rows, hbroken, Except.map] at hadded
    | false =>
        have husable : store.Usable := ⟨hbroken, hsupported⟩
        rw [insert_of_usable husable] at hadded
        split at hadded
        · cases hadded
        · exact ⟨husable, ‹_›⟩
  · simp [insert, hsupported] at hadded

/-- What an insertion that adds a row has found, and what it has done. -/
theorem upsert_eq_of_added (hadded : (store.upsert passage).2 = .ok true) :
    store.Usable ∧ store.Fits passage.embedding.length ∧
      store.upsert passage =
        ({ store with
            table := store.table ++ [Row.ofPassage passage]
            vectorLength := some passage.embedding.length }, .ok true) := by
  by_cases hfits : passage.embedding ≠ [] ∧ store.Fits passage.embedding.length
  · have halike := check_alike store passage.embedding
    rw [upsert_of_fits hfits.1 hfits.2] at hadded
    obtain ⟨husable, hnew⟩ := usable_of_insert hadded
    have husable' : store.Usable := husable.alike halike.symm
    exact ⟨husable', hfits.2, upsert_of_new husable' hfits.1 hfits.2 (halike.table ▸ hnew)⟩
  · obtain ⟨failure, hrefused⟩ := upsert_of_not_fits hfits
    rw [hrefused] at hadded
    cases hadded

/-- What is remembered once is remembered from then on. -/
theorem vectorLength_upsert_of_some {length : Nat} (hlearnt : store.vectorLength = some length) :
    (store.upsert passage).1.vectorLength = some length := by
  have hcheck : ∀ vector, (store.check vector).1.vectorLength = some length := by
    intro vector
    unfold check
    split
    · exact hlearnt
    · rw [knownLength, hlearnt]
  by_cases hadded : (store.upsert passage).2 = .ok true
  · obtain ⟨-, hfits, hupsert⟩ := upsert_eq_of_added hadded
    rw [hupsert]
    simpa [Fits, knownLength, hlearnt, eq_comm] using hfits
  · by_cases hfits : passage.embedding ≠ [] ∧ store.Fits passage.embedding.length
    · rw [upsert_of_fits hfits.1 hfits.2] at hadded ⊢
      rw [insert_eq_self hadded, hcheck]
    · obtain ⟨failure, hrefused⟩ := upsert_of_not_fits hfits
      rw [hrefused, hcheck]

/-- What is remembered after an insertion: what was remembered before, what was known before,
or the length of the passage where it was added and no length was known. -/
theorem vectorLength_upsert (store : Store) (passage : Passage) :
    (store.upsert passage).1.vectorLength = store.vectorLength ∨
      store.knownLength = .ok (store.upsert passage).1.vectorLength ∨
      store.knownLength = .ok none ∧ (store.upsert passage).2 = .ok true := by
  by_cases hadded : (store.upsert passage).2 = .ok true
  · obtain ⟨-, hfits, hupsert⟩ := upsert_eq_of_added hadded
    rcases hfits with hnone | hsame
    · exact Or.inr (Or.inr ⟨hnone, hadded⟩)
    · exact Or.inr (Or.inl (by rw [hupsert, hsame]))
  · have halike := upsert_alike hadded
    cases hafter : (store.upsert passage).1.vectorLength with
    | none =>
        cases hbefore : store.vectorLength with
        | none => exact Or.inl rfl
        | some length =>
            rw [vectorLength_upsert_of_some hbefore] at hafter
            cases hafter
    | some length =>
        refine Or.inr (Or.inl ?_)
        rw [← halike.knownLength, Store.knownLength, hafter]

theorem commit_of_unbroken (hunbroken : store.isBroken = false) :
    store.commit = ({ store with saved := store.table }, .ok ()) := by
  rw [commit, rows_of_unbroken hunbroken]

/-- Only an insertion adds something. -/
theorem exists_upsert_of_added {operation : Operation} (hadded : store.added operation ≠ []) :
    ∃ passage, operation = .upsert passage ∧ (store.upsert passage).2 = .ok true := by
  cases operation with
  | upsert passage =>
      by_cases hnew : (store.upsert passage).2 = .ok true
      · exact ⟨passage, rfl, hnew⟩
      · exact absurd (added_of_ne hnew) hadded
  | commit | rollback | holds _ | bySource _ _ | search _ _ | count | statistics =>
      exact absurd rfl hadded

/-- Nothing is added in a database of another kind, or by a broken view. -/
theorem usable_of_added {operation : Operation} (hadded : store.added operation ≠ []) :
    store.Usable := by
  obtain ⟨passage, -, hnew⟩ := exists_upsert_of_added hadded
  exact (upsert_eq_of_added hnew).1

theorem perform_dialect (store : Store) (operation : Operation) :
    (store.perform operation).1.dialect = store.dialect := by
  cases operation with
  | upsert passage =>
      by_cases hadded : (store.upsert passage).2 = .ok true
      · simp only [perform, (upsert_eq_of_added hadded).2.2]
      · exact (upsert_alike hadded).dialect
  | commit =>
      simp only [perform, commit]
      split <;> rfl
  | rollback | holds _ | bySource _ _ | search _ _ | count | statistics => rfl

theorem vectorLength_perform_of_some {length : Nat} (hlearnt : store.vectorLength = some length)
    (operation : Operation) : (store.perform operation).1.vectorLength = some length := by
  cases operation with
  | upsert passage => exact vectorLength_upsert_of_some hlearnt
  | commit =>
      simp only [perform, commit]
      split <;> exact hlearnt
  | rollback | holds _ | bySource _ _ | search _ _ | count | statistics => exact hlearnt

theorem vectorLength_after_of_some {length : Nat} (hlearnt : store.vectorLength = some length)
    (operations : List Operation) : (store.after operations).vectorLength = some length :=
  after_induction (fun store => store.vectorLength = some length)
    (fun operation _ _ hbefore => vectorLength_perform_of_some hbefore operation) hlearnt

/-- From the first added passage on a length is remembered. -/
theorem exists_learnt_of_accepted {operations : List Operation}
    (haccepted : store.accepted operations ≠ []) :
    store.dialect ∈ dialects ∧ ∃ length, (store.after operations).vectorLength = some length := by
  induction operations generalizing store with
  | nil => exact absurd rfl haccepted
  | cons operation operations ih =>
      by_cases hadded : store.added operation = []
      · rw [accepted, hadded, List.nil_append] at haccepted
        rw [← store.perform_dialect operation]
        exact ih haccepted
      · obtain ⟨passage, rfl, hnew⟩ := exists_upsert_of_added hadded
        obtain ⟨husable, -, hupsert⟩ := upsert_eq_of_added hnew
        refine ⟨husable.supported, passage.embedding.length,
          vectorLength_after_of_some ?_ operations⟩
        simp only [perform, hupsert]

/-- Both the rows and those of the last commit tell a length, and no other one is remembered. -/
structure Tells (store : Store) (length : Nat) : Prop where
  unbroken : store.isBroken = false
  table : store.table.vectorLength? = .ok (some length)
  saved : store.saved.vectorLength? = .ok (some length)
  learnt : store.vectorLength = none ∨ store.vectorLength = some length

/-- The view with a remembered length. -/
def learn (store : Store) (length : Nat) : Store :=
  { store with vectorLength := some length }

namespace Tells

variable {length : Nat}

theorem knownLength (htells : store.Tells length) : store.knownLength = .ok (some length) := by
  rcases htells.learnt with hnone | hsome
  · rw [knownLength_of_none htells.unbroken hnone, htells.table]
  · rw [Store.knownLength, hsome]

theorem upsert (htells : store.Tells length) (passage : Passage) :
    (store.upsert passage).1.Tells length := by
  have hlearnt : (store.upsert passage).1.vectorLength = none ∨
      (store.upsert passage).1.vectorLength = some length := by
    rcases vectorLength_upsert store passage with hkept | hread | ⟨hnone, -⟩
    · exact hkept ▸ htells.learnt
    · exact Or.inr (Except.ok.inj (hread.symm.trans htells.knownLength))
    · cases htells.knownLength.symm.trans hnone
  by_cases hadded : (store.upsert passage).2 = .ok true
  · obtain ⟨-, -, hupsert⟩ := upsert_eq_of_added hadded
    have hsome : store.table ≠ [] := Table.ne_nil_of_vectorLength? (by simp [htells.table])
    rw [hupsert] at hlearnt ⊢
    exact ⟨htells.unbroken, (Table.vectorLength?_append hsome _).trans htells.table,
      htells.saved, hlearnt⟩
  · have halike := upsert_alike hadded
    exact ⟨halike.isBroken.trans htells.unbroken, halike.table ▸ htells.table,
      halike.saved ▸ htells.saved, hlearnt⟩

/-- An insertion is the same where the length is remembered, but that one without a vector is
refused before the view has learnt anything. -/
theorem upsert_learn (htells : store.Tells length) (passage : Passage) :
    (store.learn length).upsert passage =
      ((store.upsert passage).1.learn length, (store.upsert passage).2) := by
  by_cases hempty : passage.embedding = []
  · simp [Store.upsert, check, hempty]
  · -- The check makes the other view learn the same length.
    have hcheck : (store.learn length).check passage.embedding =
        store.check passage.embedding := by
      simp only [check, List.isEmpty_iff, hempty, if_false, htells.knownLength]
      rfl
    have hsame : (store.learn length).upsert passage = store.upsert passage := by
      rw [Store.upsert, Store.upsert, hcheck]
    have hlearnt : (store.upsert passage).1.vectorLength = some length := by
      rw [← hsame]
      exact vectorLength_upsert_of_some rfl
    rw [hsame, learn, ← hlearnt]

/-- One operation answers the same where the length is remembered, and no more than that
tells the views behind it apart. -/
theorem perform (htells : store.Tells length) (operation : Operation) :
    (store.perform operation).1.Tells length ∧
      (store.learn length).perform operation =
        ((store.perform operation).1.learn length, (store.perform operation).2) := by
  cases operation with
  | upsert passage =>
      refine ⟨htells.upsert passage, ?_⟩
      simp only [Store.perform, htells.upsert_learn]
  | commit =>
      have hlearnt : (store.learn length).isBroken = false := htells.unbroken
      simp only [Store.perform, commit_of_unbroken htells.unbroken, commit_of_unbroken hlearnt]
      exact ⟨⟨htells.unbroken, htells.table, htells.table, htells.learnt⟩, rfl⟩
  | rollback => exact ⟨⟨rfl, htells.saved, htells.saved, htells.learnt⟩, rfl⟩
  | holds _ | bySource _ _ | search _ _ | count | statistics => exact ⟨htells, rfl⟩

/-- No answer depends on whether the length that the rows tell is remembered. -/
theorem answers_learn (htells : store.Tells length) (operations : List Operation) :
    (store.learn length).answers operations = store.answers operations := by
  induction operations generalizing store with
  | nil => rfl
  | cons operation operations ih =>
      obtain ⟨hbehind, hstep⟩ := htells.perform operation
      rw [answers, answers, hstep, ih hbehind]

end Tells

end Store

end ScriptDocs
