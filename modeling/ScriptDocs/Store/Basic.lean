/-
# The store

A store is one writer's view of the table. It sees its own insertions at once, and a
commit makes them survive a rollback. It remembers the length of the vectors once it
has learnt it, from the first row or from its own first insertion; a rollback does not
make it forget, a reopened store starts without the knowledge. Inserting a passage
is two steps: the check of its vector, and the insertion itself. A failed insertion
breaks the transaction: until a rollback every operation on the rows fails.

Of the engine behind a store it is assumed that it keeps every text whole, whatever its
length and its characters, that it takes integers of 64 bits, and that it reads a
negative limit as none. The engine of the default dialect does. An engine that limits
the length of a column, or refuses some character or a negative limit, fails where the
store here goes on; it is left out, and its dialect stands for one that does none of it.
-/

import ScriptDocs.Store.Table

namespace ScriptDocs

/-- One writer's view of the table. -/
structure Store where
  table : Table := []
  saved : Table := []
  isBroken : Bool := false
  dialect : Text := "sqlite"
  vectorLength : Option Nat := none
  deriving DecidableEq, Repr

namespace Store

/-- The dialects in which rows can be inserted. In all of them the store is the same one. -/
def dialects : List Text := ["postgresql", "sqlite"]

/-- The rows, as far as they can be worked on. -/
def rows (store : Store) : Except Failure Table :=
  if store.isBroken then .error .transactionBroken else .ok store.table

/-- The length of the vectors: what is remembered, or else what the rows tell. -/
def knownLength (store : Store) : Except Failure (Option Nat) :=
  match store.vectorLength with
  | some length => .ok (some length)
  | none => store.rows >>= Table.vectorLength?

/-- The check of a vector against a known length. -/
def checkLength (known : Option Nat) (vector : Vector64) : Except Failure Unit :=
  match known with
  | some held =>
    if vector.length = held then .ok () else .error (.vectorLengthDiffers vector.length held)
  | none => .ok ()

/-- The check of a vector before it is inserted. What is learnt on the way is kept. -/
def check (store : Store) (vector : Vector64) : Store × Except Failure Unit :=
  if vector.isEmpty then (store, .error .vectorEmpty)
  else
    match store.knownLength with
    | .error failure => (store, .error failure)
    | .ok known => ({ store with vectorLength := known }, checkLength known vector)

/-- The insertion of a passage whose vector has been checked, and whether it was new. -/
def insert (store : Store) (passage : Passage) : Store × Except Failure Bool :=
  if store.dialect ∉ dialects then (store, .error (.dialectUnsupported store.dialect))
  else
    match store.rows.map fun rows => rows.insert (Row.ofPassage passage) with
    | .error failure => (store, .error failure)
    | .ok (_, false) => (store, .ok false)
    | .ok (table, true) =>
      ({ store with
          table, vectorLength := store.vectorLength <|> some passage.embedding.length }, .ok true)

/-- A passage is inserted unless its fingerprint is stored; the answer says whether
it was new. -/
def upsert (store : Store) (passage : Passage) : Store × Except Failure Bool :=
  match store.check passage.embedding with
  | (store, .error failure) => (store, .error failure)
  | (store, .ok ()) => store.insert passage

/-- The insertion of a row without any check but that of its fingerprint, given the row
or why there is none. Where it fails, the transaction is broken. -/
def insertUnchecked (store : Store) (row : Except Failure Row) : Store × Except Failure Unit :=
  let inserted : Except Failure Table := do
    match (← store.rows).insert (← row) with
    | (table, true) => return table
    | (_, false) => throw .fingerprintRepeated
  match inserted with
  | .ok table => ({ store with table }, .ok ())
  | .error failure => ({ store with isBroken := true }, .error failure)

/-- What is inserted so far survives from now on. -/
def commit (store : Store) : Store × Except Failure Unit :=
  match store.rows with
  | .ok rows => ({ store with saved := rows }, .ok ())
  | .error failure => (store, .error failure)

/-- The insertions since the last commit are taken back. -/
def rollback (store : Store) : Store :=
  { store with table := store.saved, isBroken := false }

/-- A new view of the same table, which has learnt nothing yet. -/
def reopen (store : Store) : Store :=
  { store with vectorLength := none }

/-- Whether a fingerprint is stored. -/
def holds (store : Store) (fingerprint : Text) : Except Failure Bool :=
  store.rows.map fun rows => rows.holds fingerprint

/-- The best hits for a query, at most `k` of them. -/
def search [Json.DepthLimit] (store : Store) (query : List Number) (k : Int) :
    Except Failure (List Hit) :=
  if k ≤ 0 then .ok [] else store.rows >>= fun rows => rows.search query k

/-- The passages of one document; a negative limit is none. -/
def bySource (store : Store) (sourcePath : Text) (limit : Int) : Except Failure (List Passage) :=
  if sourcePath.isEmpty then .ok [] else store.rows >>= fun rows => rows.bySource sourcePath limit

/-- The number of rows. -/
def count (store : Store) : Except Failure Nat :=
  store.rows.map List.length

/-- The figures of the store. -/
def statistics (store : Store) : Except Failure Statistics :=
  store.rows.map Table.statistics

end Store

end ScriptDocs
