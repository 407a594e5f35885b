/-
# Writers that share a table

Several writers insert into one table, each through a view of its own, and each insertion is
committed at once. An insertion takes two turns: the vector is checked against what the view
knows of the rows, and later the row is put in. In between other writers take their turns, and
nothing checks the vector again. So every stored vector has the length of one whose check found
no row, and all of them have one length just where those have.
-/

import ScriptDocs.Proofs.Store.Memory
import Mathlib.Logic.Function.Basic

namespace ScriptDocs

/-- The view as it finds a table whose rows are all committed. -/
def Store.onto (store : Store) (table : Table) : Store :=
  { store with table, saved := table }

namespace Store

/-- The insertion of a passage whose vector has been checked, committed at once. -/
def insertAtOnce (store : Store) (passage : Passage) : Store × Except Failure Bool :=
  match store.insert passage with
  | (store, .ok isNew) => (store.commit.1, .ok isNew)
  | (store, .error failure) => (store, .error failure)

/-- The view with the row of a passage, which is committed. -/
def withRow (store : Store) (passage : Passage) : Store :=
  { store with
    table := store.table ++ [Row.ofPassage passage]
    saved := store.table ++ [Row.ofPassage passage]
    vectorLength := store.vectorLength <|> some passage.embedding.length }

/-- There is nothing to commit. -/
theorem Settled.commit_eq {store : Store} (hsettled : store.Settled) :
    store.commit = (store, .ok ()) := by
  have hsaved : ({ store with saved := store.table } : Store) = store :=
    congrArg (fun saved => { store with saved }) hsettled.committed.symm
  rw [commit_of_unbroken hsettled.unbroken, hsaved]

/-- A settled view finds its own table as it knows it. -/
theorem Settled.onto_eq {store : Store} (hsettled : store.Settled) :
    store.onto store.table = store :=
  congrArg (fun saved => { store with saved }) hsettled.committed.symm

/-- An insertion that is committed at once adds a row, or leaves everything as it is. -/
theorem insertAtOnce_cases {store : Store} (hsettled : store.Settled) (passage : Passage) :
    store.insertAtOnce passage = (store.withRow passage, .ok true) ∨
      ∃ result, result ≠ .ok true ∧ store.insertAtOnce passage = (store, result) := by
  by_cases hadded : (store.insert passage).2 = .ok true
  · left
    obtain ⟨husable, hnew⟩ := usable_of_insert hadded
    let grown : Store := { store with
      table := store.table ++ [Row.ofPassage passage]
      vectorLength := store.vectorLength <|> some passage.embedding.length }
    have hcommit : grown.commit = (store.withRow passage, .ok ()) :=
      commit_of_unbroken husable.unbroken
    rw [insertAtOnce, insert_of_usable husable, if_neg hnew]
    show (grown.commit.1, _) = _
    rw [hcommit]
  · right
    have hsame := insert_eq_self hadded
    rw [insertAtOnce]
    rcases hinsert : store.insert passage with ⟨left, failure | isNew⟩
    all_goals
      rw [hinsert] at hadded hsame
      obtain rfl : left = store := hsame
    · exact ⟨.error failure, hadded, rfl⟩
    · refine ⟨.ok isNew, hadded, ?_⟩
      dsimp only
      rw [hsettled.commit_eq]

end Store

/-- A row was inserted with a vector of a certain length. -/
def Row.HasLength (row : Row) (length : Nat) : Prop :=
  ∃ vector : Vector64, row.vector = .vector vector ∧ vector.length = length

/-- A passage whose vector has passed the check, and the rows that the check found. -/
structure Attempt where
  passage : Passage
  found : Table
  deriving DecidableEq, Repr

/-- The length of the vector. -/
def Attempt.length (attempt : Attempt) : Nat :=
  attempt.passage.embedding.length

/-- A writer: its view of the table, and the insertion that it has under way. -/
structure Writer where
  view : Store
  underWay : Option Attempt := none
  deriving DecidableEq, Repr

/-- A table that some writers share, and the attempts that its rows came from. -/
structure Sharing (ι : Type) where
  table : Table
  writers : ι → Writer
  history : List Attempt

/-- What one of the writers does next. -/
inductive Turn (ι : Type)
  | check (writer : ι) (passage : Passage)
  | insert (writer : ι)
  deriving DecidableEq, Repr

namespace Sharing

/-- The empty table, and writers that have learnt nothing yet. -/
def start {ι : Type} (dialect : Text) : Sharing ι where
  table := []
  writers _ := { view := { dialect } }
  history := []

/-- A length that an inserted vector has whose check found no row. -/
def Opens {ι : Type} (sharing : Sharing ι) (length : Nat) : Prop :=
  ∃ attempt ∈ sharing.history, attempt.found = [] ∧ attempt.length = length

section Turns

variable {ι : Type} [DecidableEq ι]

/-- A writer has moved on. -/
def put (sharing : Sharing ι) (i : ι) (writer : Writer) : Sharing ι :=
  { sharing with writers := Function.update sharing.writers i writer }

/-- One turn. A writer that has an insertion under way begins no other one, and one that has
none puts nothing in. -/
def turn (sharing : Sharing ι) : Turn ι → Sharing ι
  | .check i passage =>
    match (sharing.writers i).underWay with
    | some _ => sharing
    | none =>
      match ((sharing.writers i).view.onto sharing.table).check passage.embedding with
      | (view, .error _) => sharing.put i { view }
      | (view, .ok ()) => sharing.put i { view, underWay := some ⟨passage, sharing.table⟩ }
  | .insert i =>
    match (sharing.writers i).underWay with
    | none => sharing
    | some attempt =>
      match ((sharing.writers i).view.onto sharing.table).insertAtOnce attempt.passage with
      | (view, .ok true) =>
        { sharing.put i { view } with
          table := view.saved
          history := sharing.history ++ [attempt] }
      | (view, _) => sharing.put i { view }

/-- The table and its writers behind some turns. -/
def after (sharing : Sharing ι) (turns : List (Turn ι)) : Sharing ι :=
  turns.foldl turn sharing

@[simp]
theorem writers_put (sharing : Sharing ι) (i : ι) (writer : Writer) :
    (sharing.put i writer).writers i = writer := by
  dsimp only [put]
  exact Function.update_self ..

/-- The two turns of an insertion, one right behind the other, come to an insertion as a whole that
is committed where it does not fail. -/
theorem after_check_insert (sharing : Sharing ι) (i : ι) (passage : Passage)
    (hidle : (sharing.writers i).underWay = none)
    (hunbroken : (sharing.writers i).view.isBroken = false) :
    let kept := match ((sharing.writers i).view.onto sharing.table).upsert passage with
      | (view, .ok _) => view.commit.1
      | (view, .error _) => view
    let later := sharing.after [.check i passage, .insert i]
    later.writers i = { view := kept } ∧ later.table = kept.saved := by
  intro kept later
  have hview : ((sharing.writers i).view.onto sharing.table).Settled := ⟨hunbroken, rfl⟩
  have halike := Store.check_alike ((sharing.writers i).view.onto sharing.table) passage.embedding
  have hlater : later = (sharing.turn (.check i passage)).turn (.insert i) := rfl
  rw [hlater, turn.eq_1 sharing i passage, hidle]
  dsimp only [kept, Store.upsert]
  rcases hcheck : ((sharing.writers i).view.onto sharing.table).check passage.embedding with
    ⟨checked, failure | ⟨⟩⟩
  all_goals
    rw [hcheck] at halike
    dsimp only [turn]
    rw [writers_put]
    dsimp only
  · exact ⟨writers_put _ _ _, halike.saved.symm⟩
  · have hchecked : checked.Settled := hview.alike halike
    have hfound : checked.table = sharing.table := halike.table
    have honto : checked.onto sharing.table = checked := by
      rw [← hfound]
      exact hchecked.onto_eq
    have hsame : (checked.insert passage).2 ≠ .ok true → (checked.insert passage).1 = checked :=
      Store.insert_eq_self
    dsimp only [put]
    rw [honto, Store.insertAtOnce]
    rcases hinsert : checked.insert passage with ⟨inserted, failure | isNew⟩
    all_goals rw [hinsert] at hsame
    · obtain rfl : inserted = checked := hsame nofun
      exact ⟨Function.update_self .., halike.saved.symm⟩
    · cases isNew with
      | true => exact ⟨Function.update_self .., rfl⟩
      | false =>
          obtain rfl : inserted = checked := hsame nofun
          dsimp only
          rw [hchecked.commit_eq]
          exact ⟨Function.update_self .., halike.saved.symm⟩

end Turns

end Sharing

/-- What a writer has learnt and what it is about to insert comes from certain lengths, unless its
check found no row. -/
structure Writer.Traced (opens : Nat → Prop) (writer : Writer) : Prop where
  unbroken : writer.view.isBroken = false
  learnt : ∀ length, writer.view.vectorLength = some length → opens length
  underWay : ∀ attempt, writer.underWay = some attempt →
    attempt.passage.embedding ≠ [] ∧ (attempt.found = [] ∨ opens attempt.length)

/-- A writer that has nothing under way. -/
theorem Writer.Traced.of_idle {opens : Nat → Prop} {view : Store}
    (hunbroken : view.isBroken = false)
    (hlearnt : ∀ length, view.vectorLength = some length → opens length) :
    Writer.Traced opens { view } where
  unbroken := hunbroken
  learnt := hlearnt
  underWay attempt hnone := by cases hnone

theorem Writer.Traced.imp {opens more : Nat → Prop} {writer : Writer}
    (htraced : writer.Traced opens) (hmore : ∀ length, opens length → more length) :
    writer.Traced more where
  unbroken := htraced.unbroken
  learnt length hlearnt := hmore length (htraced.learnt length hlearnt)
  underWay attempt hunderWay :=
    (htraced.underWay attempt hunderWay).imp_right (Or.imp_right (hmore _))

namespace Sharing

/-- Every length comes from a check that found no row: those of the rows, those that the writers
have learnt, and those of what they are about to insert. -/
structure Traced {ι : Type} (sharing : Sharing ι) : Prop where
  table : sharing.table = sharing.history.map fun attempt => Row.ofPassage attempt.passage
  rows : ∀ attempt ∈ sharing.history,
    attempt.passage.embedding ≠ [] ∧ sharing.Opens attempt.length
  writers : ∀ i, (sharing.writers i).Traced sharing.Opens

namespace Traced

variable {ι : Type} {sharing : Sharing ι}

theorem start (dialect : Text) : (Sharing.start dialect : Sharing ι).Traced where
  table := rfl
  rows _ hnone := absurd hnone List.not_mem_nil
  writers _ := by
    apply Writer.Traced.of_idle rfl
    intro length hnone
    cases hnone

/-- The rows tell no length only where there are none, and else one that comes from such a
check. -/
theorem vectorLength?_table (htraced : sharing.Traced) :
    (sharing.table = [] ∧ sharing.table.vectorLength? = .ok none) ∨
      ∃ length, sharing.table.vectorLength? = .ok (some length) ∧ sharing.Opens length := by
  rw [htraced.table]
  cases hhistory : sharing.history with
  | nil => exact Or.inl ⟨rfl, rfl⟩
  | cons first rest =>
      obtain ⟨hsome, hopens⟩ := htraced.rows first (hhistory ▸ List.mem_cons_self)
      refine Or.inr ⟨first.length, ?_, hopens⟩
      simp [Table.vectorLength?, Row.ofPassage, StoredVector.decode, Except.map, hsome,
        Attempt.length]

/-- A writer that knows no length finds no row, and what another one knows comes from such a
check. -/
theorem knownLength (htraced : sharing.Traced) (i : ι) :
    let view := (sharing.writers i).view.onto sharing.table
    (sharing.table = [] ∧ view.knownLength = .ok none) ∨
      ∃ length, view.knownLength = .ok (some length) ∧ sharing.Opens length := by
  intro view
  have hwriter := htraced.writers i
  cases hlearnt : (sharing.writers i).view.vectorLength with
  | some length =>
      have hview : view.vectorLength = some length := hlearnt
      exact Or.inr ⟨length, by rw [Store.knownLength, hview], hwriter.learnt length hlearnt⟩
  | none =>
      have hrows : view.knownLength = sharing.table.vectorLength? :=
        Store.knownLength_of_none hwriter.unbroken hlearnt
      rw [hrows]
      exact htraced.vectorLength?_table

/-- A writer that has only checked a vector knows no more lengths. -/
theorem learnt_check (htraced : sharing.Traced) (i : ι) (vector : Vector64) {length : Nat}
    (hlearnt : (((sharing.writers i).view.onto sharing.table).check vector).1.vectorLength =
      some length) : sharing.Opens length := by
  have halike := Store.check_alike ((sharing.writers i).view.onto sharing.table) vector
  have hknown : ((sharing.writers i).view.onto sharing.table).knownLength = .ok (some length) := by
    rw [← halike.knownLength, Store.knownLength, hlearnt]
  rcases htraced.knownLength i with ⟨-, hnone⟩ | ⟨other, hother, hopens⟩
  · rw [hnone] at hknown
    cases hknown
  · rw [hother] at hknown
    cases hknown
    exact hopens

variable [DecidableEq ι]

theorem put (htraced : sharing.Traced) (i : ι) {writer : Writer}
    (hwriter : writer.Traced sharing.Opens) : (sharing.put i writer).Traced where
  table := htraced.table
  rows := htraced.rows
  writers := (Function.forall_update_iff sharing.writers
    fun _ writer => writer.Traced sharing.Opens).mpr ⟨hwriter, fun j _ => htraced.writers j⟩

/-- One more row, whose vector has been checked. -/
theorem extend (htraced : sharing.Traced) (i : ι) {view : Store} {attempt : Attempt}
    (hsome : attempt.passage.embedding ≠ [])
    (hchecked : attempt.found = [] ∨ sharing.Opens attempt.length)
    (hunbroken : view.isBroken = false)
    (hlearnt : ∀ length, view.vectorLength = some length →
      length = attempt.passage.embedding.length ∨ sharing.Opens length) :
    Traced { sharing.put i { view } with
      table := sharing.table ++ [Row.ofPassage attempt.passage]
      history := sharing.history ++ [attempt] } := by
  let extended : Sharing ι := { sharing.put i { view } with
    table := sharing.table ++ [Row.ofPassage attempt.passage]
    history := sharing.history ++ [attempt] }
  have hgrows : ∀ length, sharing.Opens length → extended.Opens length := by
    rintro length ⟨opening, hopening, hopens⟩
    exact ⟨opening, List.mem_append_left _ hopening, hopens⟩
  have hlast : extended.Opens attempt.length := by
    rcases hchecked with hempty | hopens
    · exact ⟨attempt, List.mem_append_right _ (List.mem_singleton_self attempt), hempty, rfl⟩
    · exact hgrows _ hopens
  have hwriter : Writer.Traced extended.Opens { view } := by
    apply Writer.Traced.of_idle hunbroken
    intro length hlength
    rcases hlearnt length hlength with rfl | hopens
    · exact hlast
    · exact hgrows length hopens
  refine ⟨?_, ?_, ?_⟩
  · simp [htraced.table]
  · intro other hother
    rcases List.mem_append.mp hother with hold | hnew
    · exact (htraced.rows other hold).imp_right (hgrows _)
    · rw [List.mem_singleton.mp hnew]
      exact ⟨hsome, hlast⟩
  · exact (Function.forall_update_iff sharing.writers
      fun _ writer => writer.Traced extended.Opens).mpr
        ⟨hwriter, fun j _ => (htraced.writers j).imp hgrows⟩

/-- A check that passes has found no row, or a length that comes from such a check. -/
theorem check (htraced : sharing.Traced) (i : ι) (passage : Passage) :
    (sharing.turn (.check i passage)).Traced := by
  have hlearnt : ∀ length, (((sharing.writers i).view.onto sharing.table).check
      passage.embedding).1.vectorLength = some length → sharing.Opens length :=
    fun _ => htraced.learnt_check i passage.embedding
  have hpassed := Store.check_eq_ok_iff ((sharing.writers i).view.onto sharing.table)
    passage.embedding
  have hunbroken := (Store.check_alike ((sharing.writers i).view.onto sharing.table)
    passage.embedding).isBroken.trans (htraced.writers i).unbroken
  rw [turn]
  cases hunderWay : (sharing.writers i).underWay with
  | some attempt => exact htraced
  | none =>
      dsimp only
      rcases hcheck : ((sharing.writers i).view.onto sharing.table).check passage.embedding with
        ⟨view, failure | ⟨⟩⟩
      all_goals rw [hcheck] at hlearnt hpassed hunbroken
      · apply htraced.put
        exact .of_idle hunbroken hlearnt
      · obtain ⟨hsome, hfits⟩ := hpassed.mp rfl
        apply htraced.put
        refine ⟨hunbroken, hlearnt, ?_⟩
        rintro attempt ⟨⟩
        refine ⟨hsome, ?_⟩
        rcases htraced.knownLength i with ⟨hempty, -⟩ | ⟨length, hlength, hopens⟩
        · exact Or.inl hempty
        · right
          rcases hfits with hnone | hsame
          · rw [hlength] at hnone
            cases hnone
          · rw [hlength] at hsame
            cases hsame
            exact hopens

/-- An insertion puts in the vector that has been checked. -/
theorem insert (htraced : sharing.Traced) (i : ι) : (sharing.turn (.insert i)).Traced := by
  have hwriter := htraced.writers i
  rw [turn]
  cases hunderWay : (sharing.writers i).underWay with
  | none => exact htraced
  | some attempt =>
      obtain ⟨hsome, hchecked⟩ := hwriter.underWay attempt hunderWay
      have hsettled : ((sharing.writers i).view.onto sharing.table).Settled :=
        ⟨hwriter.unbroken, rfl⟩
      dsimp only
      rcases Store.insertAtOnce_cases hsettled attempt.passage with hadded | ⟨result, hnot, hkept⟩
      · rw [hadded]
        dsimp only
        refine htraced.extend i hsome hchecked hwriter.unbroken ?_
        intro length hlength
        cases hlearnt : (sharing.writers i).view.vectorLength with
        | none =>
            left
            simpa [Store.withRow, Store.onto, hlearnt, eq_comm] using hlength
        | some known =>
            right
            apply hwriter.learnt
            simpa [Store.withRow, Store.onto, hlearnt] using hlength
      · have hmoved : (sharing.put i
            { view := (sharing.writers i).view.onto sharing.table }).Traced := by
          apply htraced.put
          exact .of_idle hwriter.unbroken hwriter.learnt
        rw [hkept]
        split
        · rename_i heq
          cases heq
          exact absurd rfl hnot
        · rename_i heq
          cases heq
          exact hmoved

theorem after (htraced : sharing.Traced) (turns : List (Turn ι)) :
    (sharing.after turns).Traced := by
  induction turns generalizing sharing with
  | nil => exact htraced
  | cons turn turns ih =>
      apply ih
      cases turn with
      | check i passage => exact htraced.check i passage
      | insert i => exact htraced.insert i

end Traced

/-- However the turns of the writers interleave, every stored vector has the length of one whose
check found no row. So all have one length just where those have, and nothing else keeps the
lengths together. -/
theorem one_length_iff {ι : Type} [DecidableEq ι] (dialect : Text) (turns : List (Turn ι)) :
    let sharing := (start dialect).after turns
    sharing.table = sharing.history.map (fun attempt => Row.ofPassage attempt.passage) ∧
      (∀ attempt ∈ sharing.history, sharing.Opens attempt.length) ∧
      ((∃ length, ∀ row ∈ sharing.table, row.HasLength length) ↔
        ∃ length, ∀ attempt ∈ sharing.history, attempt.found = [] → attempt.length = length) := by
  intro sharing
  have htraced : sharing.Traced := (Traced.start dialect).after turns
  refine ⟨htraced.table, fun attempt hattempt => (htraced.rows attempt hattempt).2, ?_⟩
  apply exists_congr
  intro length
  rw [htraced.table]
  constructor
  · intro hrows attempt hattempt _
    obtain ⟨vector, hvector, hlength⟩ := hrows _ (List.mem_map_of_mem hattempt)
    cases hvector
    exact hlength
  · intro hopenings row hrow
    obtain ⟨attempt, hattempt, rfl⟩ := List.mem_map.mp hrow
    obtain ⟨opening, hopening, hempty, hlength⟩ := (htraced.rows attempt hattempt).2
    refine ⟨attempt.passage.embedding, rfl, ?_⟩
    rw [← hopenings opening hopening hempty, hlength]
    rfl

/-- Two writers check vectors of different lengths before either puts in its row. -/
def crossedTurns : List (Turn Bool) :=
  [.check false (Store.markedPassage 'x' [.one]),
    .check true (Store.markedPassage 'y' [.one, .one]), .insert false, .insert true]

/-- Both checks find no row, both insertions succeed, and the vectors differ in length. -/
theorem not_one_length_of_crossedTurns :
    let sharing := (start "sqlite").after crossedTurns
    sharing.table = [Row.ofPassage (Store.markedPassage 'x' [.one]),
        Row.ofPassage (Store.markedPassage 'y' [.one, .one])] ∧
      ¬ ∃ length, ∀ row ∈ sharing.table, row.HasLength length := by
  intro sharing
  have htable : sharing.table = [Row.ofPassage (Store.markedPassage 'x' [.one]),
      Row.ofPassage (Store.markedPassage 'y' [.one, .one])] := rfl
  refine ⟨htable, ?_⟩
  rintro ⟨length, hrows⟩
  rw [htable] at hrows
  obtain ⟨first, hfirst, hone⟩ := hrows _ List.mem_cons_self
  obtain ⟨second, hsecond, htwo⟩ := hrows _ (List.mem_cons_of_mem _ List.mem_cons_self)
  cases hfirst
  cases hsecond
  rw [← htwo] at hone
  cases hone

end Sharing

end ScriptDocs
