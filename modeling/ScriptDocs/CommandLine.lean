/-
# The command line

The command ingests a directory of documentation: `[docs_path] [--sleep-ms N]`. Long
options may be shortened and may carry their value behind an equals sign; a double
dash ends the options. Wrong usage ends the command with code 2, asking for help
with code 0, and a path that does not exist with code 1.
-/

import ScriptDocs.Ingest.Run
import ScriptDocs.Path
import ScriptDocs.Settings.Basic
import ScriptDocs.Text.Digit

namespace ScriptDocs.CommandLine

/-- What is told about the pause: its milliseconds, or a value that is empty. -/
inductive Pause
  | milliseconds (n : Int)
  | empty
  deriving DecidableEq, Repr

/-- What the command is told. -/
structure Arguments where
  docsPath : Option Text := none
  pause : Option Pause := none
  deriving DecidableEq, Repr

/-- The options of the command. -/
inductive Switch
  | help
  | pause
  deriving DecidableEq, Repr

/-- A word of the command line: an option, possibly with a value in the same word, an
unknown option, a shortened option that may stand for several, or an argument. -/
inductive Word
  | switch (switch : Switch) (value : Option Text)
  | unknown
  | ambiguous
  | argument (text : Text)
  deriving DecidableEq, Repr

/-- The long options. -/
def longSwitches : List (Text × Switch) :=
  [("--help", .help), ("--sleep-ms", .pause)]

/-- A text without one line feed at its end. -/
def withoutLineEnd (s : Text) : Text :=
  if s.getLast? = some '\n' then s.dropLast else s

/-- Whether a text is a number with a minus sign. A line feed may stand at its end. -/
def isNegativeNumber (s : Text) : Bool :=
  match withoutLineEnd s with
  | '-' :: s =>
    match s.dropWhile Text.isDecimal with
    | [] => !s.isEmpty
    | '.' :: places => !places.isEmpty && places.all Text.isDecimal
    | _ => false
  | _ => false

/-- A word that is no option that is known: an argument if it is a negative number or
holds a space. -/
def Word.other (s : Text) : Word :=
  if isNegativeNumber s ∨ ' ' ∈ s then .argument s else .unknown

/-- A word with a long option, which may be shortened behind its dashes and may have a
value behind an equals sign. -/
def Word.long (s : Text) : Word :=
  let spelling := s.takeWhile (· ≠ '=')
  match longSwitches.filter fun (name, _) => Text.startsWith spelling name with
  | [(_, known)] =>
    .switch known (match s.dropWhile (· ≠ '=') with | _ :: value => some value | [] => none)
  | [] => .other s
  | _ => .ambiguous

/-- The short option for help with what follows it in its word, behind an equals sign or
not. It may be said several times in one word; anything else is a value. -/
def Word.shortHelp (tail : Text) : Word :=
  let more := match tail with | '=' :: value => value | _ => tail
  let repeated := !more.isEmpty && more.all (· == 'h')
  .switch .help (if tail.isEmpty || repeated then none else some more)

/-- A word of the command line, read by its spelling. -/
def Word.read (s : Text) : Word :=
  match s with
  | '-' :: '-' :: _ => .long s
  | '-' :: 'h' :: tail => .shortHelp tail
  | '-' :: _ :: _ => .other s
  | _ => .argument s

/-- The code of wrong usage. -/
def usageCode : Nat := 2

/-- What has been read of the command line: the arguments so far, whether something is
left over, whether the next word is the value of the pause, whether options have ended, and
whether an option stands behind the path. -/
structure Reading where
  arguments : Arguments := {}
  leftOver : Bool := false
  awaitsPause : Bool := false
  optionsEnded : Bool := false
  pathClosed : Bool := false

/-- A reading with one more path; only the first one counts. -/
def Reading.place (reading : Reading) (path : Text) : Reading :=
  if reading.arguments.docsPath.isSome then { reading with leftOver := true }
  else { reading with arguments := { reading.arguments with docsPath := some path } }

/-- The pause that a value stands for. A double dash is an empty value. -/
def Pause.read? (value : Text) : Option Pause :=
  if value = "--".toList then some .empty else (Text.integer? value).map .milliseconds

/-- A reading with a value for the pause. -/
def Reading.withPause (reading : Reading) (value : Text) : Except Nat Reading :=
  match Pause.read? value with
  | some pause =>
    .ok { reading with
      awaitsPause := false
      pathClosed := reading.arguments.docsPath.isSome
      arguments := { reading.arguments with pause := some pause } }
  | none => .error usageCode

/-- A reading at the end of the options, which is left over itself where the path is closed. -/
def Reading.endOptions (reading : Reading) : Reading :=
  { reading with optionsEnded := true, leftOver := reading.leftOver || reading.pathClosed }

/-- A reading with one more word, or the code that the command ends with. -/
def Reading.next (reading : Reading) (word : Text) : Except Nat Reading :=
  if reading.optionsEnded then .ok (reading.place word)
  else if word = "--".toList then
    if reading.awaitsPause then .error usageCode else .ok reading.endOptions
  else
    match Word.read word, reading.awaitsPause with
    | .argument s, true => reading.withPause s
    | .argument s, false => .ok (reading.place s)
    | _, true => .error usageCode
    | .ambiguous, false => .error usageCode
    | .unknown, false => .ok { reading with leftOver := true }
    | .switch .help none, false => .error 0
    | .switch .help (some _), false => .error usageCode
    | .switch .pause none, false => .ok { reading with awaitsPause := true }
    | .switch .pause (some value), false => reading.withPause value

/-- The arguments at the end of the words. What is left over is told only here, after a
request for help has had its chance. -/
def Reading.finish (reading : Reading) : Except Nat Arguments :=
  if reading.awaitsPause ∨ reading.leftOver then .error usageCode else .ok reading.arguments

/-- Whether a word in front of the end of the options may stand for several of them. -/
def hasAmbiguous (words : List Text) : Bool :=
  (words.takeWhile (· ≠ "--".toList)).any fun word => Word.read word = .ambiguous

/-- The arguments of the command, or the code that it ends with. A shortened option that
may stand for several is told before any other word counts. -/
def Arguments.parse (words : List Text) : Except Nat Arguments :=
  if hasAmbiguous words then .error usageCode
  else words.foldlM Reading.next {} >>= Reading.finish

/-- A directory, named by its path from the root of the file system, and the entries
below it. -/
structure Site where
  root : Text
  entries : List Entry

/-- The names on the way to a site, innermost first. -/
def Site.home (site : Site) : List Text :=
  Path.resolve [] site.root

/-- Where a path leads; one without a leading slash is read from the site on. -/
def Site.resolve (site : Site) (path : Text) : List Text :=
  Path.resolve site.home path

/-- What stands at a place; nothing is known outside the site. -/
def Site.at? (site : Site) (place : List Text) : Option (Entry ⊕ List Entry) :=
  if place = site.home then some (.inr site.entries)
  else (Path.below? site.home place).bind fun names => Entry.at? names site.entries

/-- Whether the first name of a path that is not found in the entries of directories is
too long to be looked up. -/
def missesLong : List Text → List Entry → Bool
  | [], _ => false
  | name :: place, entries =>
    match entries.find? fun entry => entry.name = name with
    | none => Path.isLongName name
    | some (.folder _ inner) => missesLong place inner
    | some (.file _ _) => false

/-- The names behind those that two places share, the places given outermost name first. -/
def afterShared : List Text → List Text → List Text
  | a :: home, b :: place => if a = b then afterShared home place else b :: place
  | _, place => place

/-- Whether a place cannot be looked up because its path or a name in it is too long. -/
def Site.isTooLong (site : Site) (place : List Text) : Bool :=
  Path.isLong (Path.absolute place) ||
    match Path.below? site.home place with
    | some names => missesLong names site.entries
    | none => missesLong (afterShared site.home.reverse place.reverse) []

/-- How the command ends: with its code, by a failure, or not at all where the provider
does not answer; its log, and the ingestion if one was started. -/
structure Ending where
  result : Outcome Nat
  lines : List LogLine := []
  run : Option Ingestion := none

/-- The line about a path that does not exist. -/
def notFoundLine (path : Text) : LogLine :=
  ⟨.error, "Docs path not found: " ++ path⟩

/-- The line at the start of an ingestion. -/
def startLine (path : Text) : LogLine :=
  ⟨.info, "Starting ingestion of " ++ path⟩

/-- The milliseconds of the pause; without an argument those of the settings. -/
def millisecondsOf (settings : Settings) : Option Pause → Option Number
  | none => some settings.pauseMilliseconds
  | some (.milliseconds n) => some (.integer n)
  | some .empty => none

/-- The ingestion of a directory with the given entries. -/
def ingestEntries (settings : Settings) (embed : List Event → Text → Work Vector64)
    (store : Store) (pause : Option Pause) (path : Text) (entries : List Entry) : Ending :=
  let ingester : Ingester := { embed, milliseconds := millisecondsOf settings pause }
  match ingester.ingestDirectory path entries { store := store.reopen } with
  | (run, .done report, lines) =>
    { result := .done 0, lines := startLine path :: lines ++ [.complete report], run := some run }
  | (run, .failed failure, lines) =>
    { result := .failed failure, lines := startLine path :: lines, run := some run }
  | (run, .waiting limit, lines) =>
    { result := .waiting limit, lines := startLine path :: lines, run := some run }

/-- The ingestion that the command is told to make, with the given store. -/
def ingest (settings : Settings) (embed : List Event → Text → Work Vector64) (site : Site)
    (store : Store) (arguments : Arguments) : Ending :=
  let given := arguments.docsPath.getD settings.docsPath
  let place := site.resolve given
  let path := Path.absolute place
  if Path.endMark ∈ given then { result := .failed .pathCutShort }
  else if site.isTooLong place then { result := .failed .pathTooLong }
  else
    match site.at? place with
    | none => { result := .done 1, lines := [notFoundLine path] }
    | some (.inl _) => { result := .failed .notDirectory, lines := [startLine path] }
    | some (.inr entries) => ingestEntries settings embed store arguments.pause path entries

/-- The whole command, unless its words end it with a code at once. -/
def run (settings : Settings) (embed : List Event → Text → Work Vector64) (site : Site)
    (store : Store) (words : List Text) : Except Nat Ending :=
  (Arguments.parse words).map (ingest settings embed site store)

end ScriptDocs.CommandLine
