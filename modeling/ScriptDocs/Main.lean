/-
# The command as a program

The program reads one line, a JSON object with the root of a directory and its
files, and ingests the directory as its arguments and its environment say. It has no
network of its own: each request to the embedding provider is written as a line, and
the next line it reads is the body of the reply. An empty line stands for a reply
that was lost. The log is written to the standard error.
-/

import ScriptDocs.CommandLine
import ScriptDocs.Json.Reader
import ScriptDocs.Json.Writer
import ScriptDocs.Provider.Embedding
import ScriptDocs.Settings.Environment

open ScriptDocs

namespace ScriptDocs.CommandLine

/-- The site that a JSON value describes. -/
def Site.ofJson : Json → Site
  | .object fields =>
    let root : Text := match Json.lookup "root" fields with | some (.text s) => s | _ => "/"
    let files := match Json.lookup "files" fields with | some (.object files) => files | _ => []
    let put (entries : List Entry) (file : Text × Json) : List Entry :=
      match file.2 with
      | .text s => Entry.put s.utf8 (Path.resolve [] file.1).reverse entries
      | _ => entries
    ⟨root, files.foldl put []⟩
  | _ => ⟨"/", []⟩

/-- What became of a request, given the line that was read for it. -/
def deliveryOf (line : Text) : Delivery :=
  if (Text.trim line).isEmpty then .undelivered "ReadError"
  else .replied { body := .bytes line.utf8 }

/-- The answers to the requests so far; a further request waits. -/
def answering (client : EmbeddingClient) (replies : List Text) (asked : List Event) (text : Text) :
    Work Vector64 :=
  client.embed (fun _ =>
    match replies[(Event.embeddedTexts asked).length]? with
    | some line => deliveryOf line
    | none => .unanswered) text

/-- The line of a request. -/
def requestLine (request : EmbeddingRequest) : Text :=
  Json.write (.object
    [("host", .text request.host), ("path", .text request.path), ("key", .text request.key),
     ("body", request.body)])

/-- The lines that are logged at the end, and the code of the program. -/
def closing (ending : Ending) : List Text × Nat :=
  let lines := ending.lines.map LogLine.text
  match ending.result with
  | .done code => (lines, code)
  | .failed failure => (lines ++ [failure.kind.name ++ ": ".toList ++ failure.message], 1)
  | .waiting _ => (lines, 1)

/-- The environment as far as settings are read from it. -/
def environment : IO (List (Text × Text)) := do
  let found ← Settings.allVariables.mapM fun entry => do
    let value ← IO.getEnv (String.ofList (entry.name.map Char.toUpper))
    return value.map fun s => (entry.name, s.toList)
  return found.filterMap id

/-- The command is run again with each reply until no request is left. -/
partial def attend (settings : Settings) (site : Site) (words replies : List Text) : IO UInt32 := do
  let client := EmbeddingClient.ofSettings settings none none none
  match run settings (answering client replies) site {} words with
  | .error code => return code.toUInt32
  | .ok ending =>
    let asked := ((ending.run.map Ingestion.events).map Event.embeddedTexts).getD []
    match ending.result, asked.getLast?.map client.request with
    | .waiting _, some (.ok request) =>
      IO.println (String.ofList (requestLine request))
      (← IO.getStdout).flush
      let line ← (← IO.getStdin).getLine
      attend settings site words (replies ++ [line.toList])
    | _, _ =>
      let (lines, code) := closing ending
      lines.forM fun line => IO.eprintln (String.ofList line)
      return code.toUInt32

end ScriptDocs.CommandLine

/-- The program. -/
def main (arguments : List String) : IO UInt32 := do
  match Settings.withEnvironment (← CommandLine.environment) {} with
  | .error _ => return 1
  | .ok settings =>
    let line ← (← IO.getStdin).getLine
    let value := match Json.read line.toList with | .ok value => value | .error _ => .null
    let site := CommandLine.Site.ofJson value
    CommandLine.attend settings site (arguments.map String.toList) []
