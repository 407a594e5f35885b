/-
# Reading and extending the table

The operations on the rows themselves, without regard to who performs them. A
fingerprint occurs once, so inserting a row whose fingerprint is there changes
nothing. A search scores every row against a query and ranks them: scores never
increase, and rows with equal scores stay in the order of their insertion.
-/

import ScriptDocs.Number
import ScriptDocs.Store.Row
import ScriptDocs.Store.Similarity

namespace ScriptDocs

/-- The figures of a store. -/
structure Statistics where
  passages : Nat
  sources : List Text
  deriving DecidableEq, Repr

namespace Table

/-- Whether a fingerprint is stored. -/
def holds (table : Table) (fingerprint : Text) : Bool :=
  table.any fun row => row.fingerprint = fingerprint

/-- The table with a row at its end, unless its fingerprint is stored, and whether it
was added. -/
def insert (table : Table) (row : Row) : Table × Bool :=
  if holds table row.fingerprint then (table, false) else (table ++ [row], true)

/-- The length of the vectors, as far as the first row tells it. -/
def vectorLength? [Json.DepthLimit] (table : Table) : Except Failure (Option Nat) :=
  match table with
  | [] => .ok none
  | row :: _ =>
    row.vector.decode.map fun vector? => (vector?.map List.length).filter (· ≠ 0)

/-- The similarity of a query and a vector. Only where their lengths are equal the numbers
of the query are made doubles, and one beyond all doubles is an error then. -/
def similarityTo (query : List Number) (vector : Vector64) : Except Failure Binary64 :=
  if vector.isEmpty ∨ query.length ≠ vector.length then .ok .zero
  else
    match query.mapM Number.double? with
    | some query => .ok (similarity query vector)
    | none => .error .beyondDoubles

/-- A row as a hit for a query. -/
def score [Json.DepthLimit] (query : List Number) (row : Row) : Except Failure Hit := do
  let vector? ← row.vector.decode
  let score ← similarityTo query (vector?.getD [])
  let passage ← row.passage (vector?.getD [])
  return { passage, score }

/-- Whether one hit may stand before another. -/
def ranked (a b : Hit) : Bool :=
  !a.score.below b.score

/-- The best hits for a query, at most `k` of them. -/
def search [Json.DepthLimit] (table : Table) (query : List Number) (k : Int) :
    Except Failure (List Hit) :=
  if k ≤ 0 then .ok []
  else (table.mapM (score query)).map fun hits => (hits.mergeSort ranked).take k.toNat

/-- The passages of one document in the order of their insertion, without their
vectors; a negative limit is none. -/
def bySource (table : Table) (sourcePath : Text) (limit : Int) : Except Failure (List Passage) :=
  if sourcePath.isEmpty then .ok []
  else if !fitsStore limit then .error .integerBeyondStore
  else
    let rows := table.filter fun row => row.sourcePath = sourcePath
    (if limit < 0 then rows else rows.take limit.toNat).mapM fun row => row.passage []

/-- The number of rows, and the documents they come from in the order of code points. -/
def statistics (table : Table) : Statistics where
  passages := table.length
  sources := (distinct (table.map Row.sourcePath)).mergeSort Text.atMost

end Table

end ScriptDocs
