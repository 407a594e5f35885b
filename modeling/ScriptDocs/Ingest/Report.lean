/-
# Reports of an ingestion

The counters of an ingestion and the lines of its log.
-/

import ScriptDocs.Text.Basic

namespace ScriptDocs

/-- The counters of an ingestion. -/
structure Report where
  files : Nat := 0
  failedFiles : Nat := 0
  chunks : Nat := 0
  inserted : Nat := 0
  skipped : Nat := 0
  deriving DecidableEq, Repr

/-- Two reports added up. -/
def Report.add (a b : Report) : Report where
  files := a.files + b.files
  failedFiles := a.failedFiles + b.failedFiles
  chunks := a.chunks + b.chunks
  inserted := a.inserted + b.inserted
  skipped := a.skipped + b.skipped

/-- A report with one more chunk, which was new or not. -/
def Report.count (report : Report) (inserted : Bool) : Report :=
  if inserted then { report with chunks := report.chunks + 1, inserted := report.inserted + 1 }
  else { report with chunks := report.chunks + 1, skipped := report.skipped + 1 }

/-- How grave a line of a log is. -/
inductive Level
  | info
  | warning
  | error
  deriving DecidableEq, Repr

/-- The name of a level. -/
def Level.name : Level → Text
  | .info => "INFO"
  | .warning => "WARNING"
  | .error => "ERROR"

/-- A line of a log. -/
structure LogLine where
  level : Level
  message : Text
  deriving DecidableEq, Repr

/-- A line as it is shown. -/
def LogLine.text (line : LogLine) : Text :=
  line.level.name ++ ' ' :: line.message

/-- A counter and what it counts. -/
def counted (n : Nat) (what : Text) : Text :=
  Text.ofNat n ++ ' ' :: what

/-- The line about a file that has been ingested. -/
def LogLine.ingested (path : Text) (report : Report) : LogLine where
  level := .info
  message := "Ingested: ".toList ++ path ++ " (".toList ++ counted report.inserted "new, "
    ++ counted report.skipped "unchanged)"

/-- The line about a file that failed. -/
def LogLine.failed (path kind message : Text) : LogLine where
  level := .error
  message := "Failed: ".toList ++ path ++ " (".toList ++ kind ++ ": ".toList ++ message ++ [')']

/-- The line at the end of an ingestion. -/
def LogLine.complete (report : Report) : LogLine where
  level := .info
  message := "Ingestion complete: ".toList ++ counted report.files "files ("
    ++ counted report.failedFiles "failed), " ++ counted report.chunks "chunks, "
    ++ counted report.inserted "new, " ++ counted report.skipped "unchanged"

end ScriptDocs
