/-
# Ingestion

A document is cut into chunks, and each chunk whose fingerprint is not stored is
embedded, inserted and committed on its own, with a pause behind it if one is
wanted. So an ingestion that ends early keeps what it has stored, and repeating
it asks for nothing that is there. A file that fails is counted and logged, its
uncommitted insertions are taken back, and the next file follows.
-/

import ScriptDocs.Field.Fault
import ScriptDocs.Ingest.Report
import ScriptDocs.Ingest.Tree
import ScriptDocs.Markdown.Chunk
import ScriptDocs.Number
import ScriptDocs.Store.Basic
import ScriptDocs.Work

namespace ScriptDocs

/-- A chunk of a document with the title of its section. -/
structure Piece where
  title : Text
  chunk : Markdown.Chunk
  deriving DecidableEq, Repr

/-- The pieces of a document in order. -/
def piecesOf (text : Text) : List Piece :=
  (Markdown.sections text).flatMap fun part =>
    (Markdown.chunks {} part.content).map fun chunk => ⟨part.title, chunk⟩

/-- How an ingestion works: the provider, which may answer by what it has been asked
before, the milliseconds of the pause behind each insertion, which are missing where
something else than a number was given for them, and whether fingerprints are looked up
before. -/
structure Ingester where
  embed : List Event → Text → Work Vector64
  milliseconds : Option Number := some (.integer 0)
  looksUp : Bool := true

/-- An ingestion under way: the store, what has been asked, and the pauses made. -/
structure Ingestion where
  store : Store
  events : List Event := []
  pauses : List Binary64 := []

namespace Ingester

/-- The pause of a number of milliseconds, in seconds. -/
def seconds : Option Number → Except Failure Binary64
  | none => .error .pauseNotNumeric
  | some (.double x) => .ok (x.div (.ofInt 1000))
  | some (.integer n) =>
    let pause := Binary64.ofRatio n 1000
    if pause.isFinite then .ok pause else .error .quotientBeyondDoubles

/-- The passage of a piece with its vector. A document without a path has no passages. -/
def passageOf (path : Text) (piece : Piece) (vector : Vector64) : Except Failure Passage :=
  if path.isEmpty then .error (.fieldsInvalid [⟨[.name "source_path"], .textTooShort⟩])
  else .ok {
    sourcePath := path
    sectionTitle := some piece.title
    content := piece.chunk.content
    embedding := vector
    fingerprint := piece.chunk.fingerprint }

/-- Whether a piece is known, before the provider is asked. -/
def knows (ingester : Ingester) (run : Ingestion) (piece : Piece) : Except Failure Bool :=
  if ingester.looksUp then run.store.holds piece.chunk.fingerprint else .ok false

/-- The question for the vector of a piece. -/
def ask (ingester : Ingester) (run : Ingestion) (piece : Piece) : Ingestion × Outcome Vector64 :=
  let work := ingester.embed run.events piece.chunk.content
  ({ run with events := run.events ++ work.events }, work.outcome)

/-- The insertion of a piece with its vector, committed at once; the answer says whether
it was new. -/
def keep (pause : Binary64) (path : Text) (run : Ingestion) (piece : Piece)
    (vector : Vector64) : Ingestion × Except Failure Bool :=
  match passageOf path piece vector with
  | .error failure => (run, .error failure)
  | .ok passage =>
    match run.store.upsert passage with
    | (store, .error failure) => ({ run with store }, .error failure)
    | (store, .ok inserted) =>
      match store.commit with
      | (store, .error failure) => ({ run with store }, .error failure)
      | (store, .ok ()) =>
        let pauses := if Binary64.below .zero pause then [pause] else []
        ({ run with store, pauses := run.pauses ++ pauses }, .ok inserted)

/-- The ingestion of one piece; the answer says whether it was new. -/
def ingestPiece (ingester : Ingester) (pause : Binary64) (path : Text) (run : Ingestion)
    (piece : Piece) : Ingestion × Outcome Bool :=
  match ingester.knows run piece with
  | .error failure => (run, .failed failure)
  | .ok true => (run, .done false)
  | .ok false =>
    match ingester.ask run piece with
    | (run, .failed failure) => (run, .failed failure)
    | (run, .waiting limit) => (run, .waiting limit)
    | (run, .done vector) =>
      match keep pause path run piece vector with
      | (run, .ok inserted) => (run, .done inserted)
      | (run, .error failure) => (run, .failed failure)

/-- The ingestion of some pieces, counted onto a report, until one fails. -/
def ingestPieces (ingester : Ingester) (pause : Binary64) (path : Text) (report : Report)
    (run : Ingestion) : List Piece → Ingestion × Outcome Report
  | [] => (run, .done report)
  | piece :: pieces =>
    match ingester.ingestPiece pause path run piece with
    | (run, .done inserted) => ingester.ingestPieces pause path (report.count inserted) run pieces
    | (run, .failed failure) => (run, .failed failure)
    | (run, .waiting limit) => (run, .waiting limit)

/-- The ingestion of a document. -/
def ingestText (ingester : Ingester) (path text : Text) (run : Ingestion) :
    Ingestion × Outcome Report :=
  match seconds ingester.milliseconds with
  | .ok pause => ingester.ingestPieces pause path { files := 1 } run (piecesOf text)
  | .error failure => (run, .failed failure)

/-- A text whose lines all end in a line feed. -/
def withLineFeeds : Text → Text
  | '\r' :: '\n' :: s => '\n' :: withLineFeeds s
  | '\r' :: s => '\n' :: withLineFeeds s
  | c :: s => c :: withLineFeeds s
  | [] => []

/-- The text of a file. -/
def textOf (content : Bytes) : Except Failure Text :=
  match content.text? with
  | .ok text => .ok (withLineFeeds text)
  | .error fault => .error (.fileNotUtf8 fault)

/-- The ingestion of a file. -/
def ingestFile (ingester : Ingester) (path : Text) (content : Bytes) (run : Ingestion) :
    Ingestion × Outcome Report :=
  match textOf content with
  | .ok text => ingester.ingestText path text run
  | .error failure => (run, .failed failure)

/-- The path of a file below a directory. -/
def pathBelow (root : Text) (place : List Text) : Text :=
  Text.join "/" ((if root = ['/'] then [] else root) :: place)

/-- An ingestion after a failed file, with the line about it. -/
def afterFailure (path : Text) (failure : Failure) (run : Ingestion) : Ingestion × LogLine :=
  ({ run with store := run.store.rollback }, .failed path failure.kind.name failure.message)

/-- The ingestion of some files below a directory, counted onto a report and logged. -/
def ingestFiles (ingester : Ingester) (root : Text) (report : Report) (run : Ingestion) :
    List SourceFile → Ingestion × Outcome Report × List LogLine
  | [] => (run, .done report, [])
  | file :: files =>
    let path := pathBelow root file.place
    match ingester.ingestFile path file.content run with
    | (run, .done counted) =>
      let (run, result, lines) := ingester.ingestFiles root (report.add counted) run files
      (run, result, .ingested path counted :: lines)
    | (run, .failed failure) =>
      let (run, line) := afterFailure path failure run
      let report := { report with failedFiles := report.failedFiles + 1 }
      let (run, result, lines) := ingester.ingestFiles root report run files
      (run, result, line :: lines)
    | (run, .waiting limit) => (run, .waiting limit, [])

/-- The ingestion of all documentation files of a directory. -/
def ingestDirectory (ingester : Ingester) (root : Text) (entries : List Entry) (run : Ingestion) :
    Ingestion × Outcome Report × List LogLine :=
  ingester.ingestFiles root {} run (Entry.listing entries)

end Ingester

end ScriptDocs
