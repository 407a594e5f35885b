/-
# What an insertion does

An insertion through a view of the table has three ends: it is refused, the
fingerprint is known, or one row is added. Refusing and knowing leave the table
alone; at most the length of the vectors is learnt from the first row, which no
later insertion can tell. The view is called usable where its transaction is unbroken
and its database is one that rows can be inserted into, and settled where there is nothing
to take back.
-/

import ScriptDocs.Store.Basic

namespace ScriptDocs

namespace Table

/-- The fingerprints of the rows. -/
def fingerprints (table : Table) : List Text :=
  table.map Row.fingerprint

theorem holds_eq (table : Table) (fingerprint : Text) :
    table.holds fingerprint = decide (fingerprint ∈ table.fingerprints) := by
  rw [Bool.eq_iff_iff]
  simp [holds, fingerprints]

end Table

@[simp]
theorem Row.ofPassage_fingerprint (passage : Passage) :
    (Row.ofPassage passage).fingerprint = passage.fingerprint := rfl

namespace Store

/-- Rows can be read and inserted. -/
structure Usable (store : Store) : Prop where
  unbroken : store.isBroken = false
  supported : store.dialect ∈ dialects

/-- Vectors of one length can be inserted as far as the view knows: it has learnt no
other length, and its first row tells no other one. -/
def Fits (store : Store) (length : Nat) : Prop :=
  store.knownLength = .ok none ∨ store.knownLength = .ok (some length)

/-- Rows with vectors of a length that is not zero can be inserted. -/
structure Admits (store : Store) (length : Nat) : Prop where
  supported : store.dialect ∈ dialects
  nonzero : length ≠ 0
  fits : store.Fits length

/-- The two views agree on all but whether the length that the rows tell is learnt. -/
structure Alike (first second : Store) : Prop where
  table : first.table = second.table
  saved : first.saved = second.saved
  isBroken : first.isBroken = second.isBroken
  dialect : first.dialect = second.dialect
  knownLength : first.knownLength = second.knownLength

theorem Alike.refl (store : Store) : store.Alike store := ⟨rfl, rfl, rfl, rfl, rfl⟩

theorem Alike.symm {first second : Store} (halike : first.Alike second) : second.Alike first :=
  ⟨halike.table.symm, halike.saved.symm, halike.isBroken.symm, halike.dialect.symm,
    halike.knownLength.symm⟩

theorem Alike.trans {first second third : Store} (hfirst : first.Alike second)
    (hsecond : second.Alike third) : first.Alike third :=
  ⟨hfirst.table.trans hsecond.table, hfirst.saved.trans hsecond.saved,
    hfirst.isBroken.trans hsecond.isBroken, hfirst.dialect.trans hsecond.dialect,
    hfirst.knownLength.trans hsecond.knownLength⟩

theorem Admits.alike {first second : Store} {length : Nat} (hadmits : first.Admits length)
    (halike : second.Alike first) : second.Admits length := by
  refine ⟨halike.dialect ▸ hadmits.supported, hadmits.nonzero, ?_⟩
  rw [Fits, halike.knownLength]
  exact hadmits.fits

theorem Usable.alike {first second : Store} (husable : first.Usable)
    (halike : second.Alike first) : second.Usable :=
  ⟨halike.isBroken.trans husable.unbroken, halike.dialect ▸ husable.supported⟩

/-- Everything is committed and can be worked on. -/
structure Settled (store : Store) : Prop where
  unbroken : store.isBroken = false
  committed : store.saved = store.table

theorem Settled.alike {first second : Store} (hsettled : first.Settled)
    (halike : second.Alike first) : second.Settled where
  unbroken := halike.isBroken.trans hsettled.unbroken
  committed := by rw [halike.saved, halike.table, hsettled.committed]

/-- There is nothing to take back. -/
theorem Settled.rollback_eq {store : Store} (hsettled : store.Settled) :
    store.rollback = store := by
  obtain ⟨table, saved, isBroken, dialect, vectorLength⟩ := store
  obtain ⟨hunbroken, hcommitted⟩ := hsettled
  dsimp only at hunbroken hcommitted
  rw [rollback, hcommitted, hunbroken]

theorem rows_of_unbroken {store : Store} (hunbroken : store.isBroken = false) :
    store.rows = .ok store.table := by
  simp [rows, hunbroken]

/-- Learning what is known anyway changes nothing that is known. -/
theorem alike_learnt {store : Store} {known : Option Nat}
    (hknown : store.knownLength = .ok known) :
    ({ store with vectorLength := known } : Store).Alike store := by
  refine ⟨rfl, rfl, rfl, rfl, ?_⟩
  cases known with
  | some length => exact hknown.symm
  | none =>
      have hforgetful : store.vectorLength = none := by
        cases hlength : store.vectorLength with
        | none => rfl
        | some length => simp [knownLength, hlength] at hknown
      rw [← hforgetful]

/-- The check changes nothing that is known. -/
theorem check_alike (store : Store) (vector : Vector64) :
    (store.check vector).1.Alike store := by
  unfold check
  split
  · exact Alike.refl store
  · cases hknown : store.knownLength with
    | error failure => exact Alike.refl store
    | ok known => exact alike_learnt hknown

/-- The check passes exactly the vectors that have a component and fit. -/
theorem check_eq_ok_iff (store : Store) (vector : Vector64) :
    (store.check vector).2 = .ok () ↔ vector ≠ [] ∧ store.Fits vector.length := by
  by_cases hempty : vector = []
  · simp [check, hempty]
  · unfold check Fits
    simp only [List.isEmpty_iff, hempty, if_false, ne_eq, not_false_eq_true, true_and]
    cases store.knownLength with
    | error failure => simp
    | ok known =>
        cases known with
        | none => simp [checkLength]
        | some held =>
            simp only [checkLength, Except.ok.injEq, reduceCtorEq, Option.some.injEq, false_or]
            split <;> simp_all [eq_comm]

/-- What an insertion into a usable view does, once the vector is checked. -/
theorem insert_of_usable {store : Store} (husable : store.Usable) (passage : Passage) :
    store.insert passage =
      if passage.fingerprint ∈ store.table.fingerprints then (store, .ok false)
      else
        ({ store with
            table := store.table ++ [Row.ofPassage passage]
            vectorLength := store.vectorLength <|> some passage.embedding.length }, .ok true) := by
  unfold insert
  rw [if_neg (not_not_intro husable.supported), rows_of_unbroken husable.unbroken]
  simp only [Except.map, Table.insert, Table.holds_eq, Row.ofPassage_fingerprint,
    decide_eq_true_eq]
  by_cases hheld : passage.fingerprint ∈ store.table.fingerprints <;> simp [hheld]

/-- An insertion that adds no row changes nothing. -/
theorem insert_eq_self {store : Store} {passage : Passage}
    (hnothing : (store.insert passage).2 ≠ .ok true) : (store.insert passage).1 = store := by
  unfold insert at hnothing ⊢
  split
  · rfl
  · rename_i hsupported
    rw [if_neg hsupported] at hnothing
    split <;> simp_all

/-- A vector that does not pass the check ends the insertion. -/
theorem upsert_of_not_fits {store : Store} {passage : Passage}
    (hrefused : ¬ (passage.embedding ≠ [] ∧ store.Fits passage.embedding.length)) :
    ∃ failure, store.upsert passage =
      ((store.check passage.embedding).1, .error failure) := by
  rw [← check_eq_ok_iff] at hrefused
  unfold upsert
  rcases hcheck : store.check passage.embedding with ⟨checked, failure | _⟩
  · exact ⟨failure, rfl⟩
  · exact absurd (by rw [hcheck]) hrefused

/-- A vector that passes the check leaves the answer to the insertion itself. -/
theorem upsert_of_fits {store : Store} {passage : Passage}
    (hnonempty : passage.embedding ≠ []) (hfits : store.Fits passage.embedding.length) :
    store.upsert passage = (store.check passage.embedding).1.insert passage := by
  have hpassed := (check_eq_ok_iff store passage.embedding).mpr ⟨hnonempty, hfits⟩
  unfold upsert
  rcases hcheck : store.check passage.embedding with ⟨checked, failure | _⟩
  · simp [hcheck] at hpassed
  · rfl

/-- An insertion that adds no row changes nothing that is known, whatever its reason. -/
theorem upsert_alike {store : Store} {passage : Passage}
    (hnothing : (store.upsert passage).2 ≠ .ok true) :
    (store.upsert passage).1.Alike store := by
  by_cases hfits : passage.embedding ≠ [] ∧ store.Fits passage.embedding.length
  · rw [upsert_of_fits hfits.1 hfits.2] at hnothing ⊢
    rw [insert_eq_self hnothing]
    exact check_alike store passage.embedding
  · obtain ⟨failure, hrefused⟩ := upsert_of_not_fits hfits
    rw [hrefused]
    exact check_alike store passage.embedding

/-- A known fingerprint is told. -/
theorem upsert_of_held {store : Store} {passage : Passage} (husable : store.Usable)
    (hnonempty : passage.embedding ≠ []) (hfits : store.Fits passage.embedding.length)
    (hheld : passage.fingerprint ∈ store.table.fingerprints) :
    (store.upsert passage).2 = .ok false := by
  have halike := check_alike store passage.embedding
  rw [upsert_of_fits hnonempty hfits, insert_of_usable (husable.alike halike), halike.table,
    if_pos hheld]

/-- A new passage becomes the last row, and the length of its vector is known from then on. -/
theorem upsert_of_new {store : Store} {passage : Passage} (husable : store.Usable)
    (hnonempty : passage.embedding ≠ []) (hfits : store.Fits passage.embedding.length)
    (hnew : passage.fingerprint ∉ store.table.fingerprints) :
    store.upsert passage =
      ({ store with
          table := store.table ++ [Row.ofPassage passage]
          vectorLength := some passage.embedding.length }, .ok true) := by
  have halike := check_alike store passage.embedding
  rw [upsert_of_fits hnonempty hfits, insert_of_usable (husable.alike halike), halike.table,
    if_neg hnew]
  have hlearnt : (store.check passage.embedding).1.vectorLength = none ∨
      (store.check passage.embedding).1.vectorLength = some passage.embedding.length := by
    unfold check
    rcases hfits with h | h <;> simp [hnonempty, h]
  rcases hlearnt with h | h <;>
    simp [h, halike.saved, halike.isBroken, halike.dialect]

/-- Where a vector is not admitted, the insertion is refused. -/
theorem upsert_of_not_admits {store : Store} {passage : Passage}
    (hrefused : ¬ store.Admits passage.embedding.length) :
    ∃ failure, (store.upsert passage).2 = .error failure := by
  by_cases hfits : passage.embedding ≠ [] ∧ store.Fits passage.embedding.length
  · have halike := check_alike store passage.embedding
    have hunsupported : (store.check passage.embedding).1.dialect ∉ dialects := by
      intro hsupported
      refine hrefused ⟨halike.dialect ▸ hsupported, ?_, hfits.2⟩
      simpa using hfits.1
    refine ⟨.dialectUnsupported (store.check passage.embedding).1.dialect, ?_⟩
    rw [upsert_of_fits hfits.1 hfits.2, insert, if_pos hunsupported]
  · obtain ⟨failure, hfailed⟩ := upsert_of_not_fits hfits
    exact ⟨failure, by rw [hfailed]⟩

end Store

end ScriptDocs
