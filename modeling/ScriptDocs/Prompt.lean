/-
# Prompts

What the generation provider is told: fixed constraints with the passages that an
answer has to rest on, and the question itself. A request for a correction lists the
snippet and its findings.
-/

import ScriptDocs.Passage

namespace ScriptDocs.Prompt

/-- The answer to a question that the documentation does not cover. -/
def notDocumented : Text :=
  "This is not documented in the official aoi.js documentation."

/-- The constraints that every answer has to keep. -/
def constraints : List Text :=
  ["You are an aoi.js support assistant.",
   "Answer using ONLY the provided documentation context.",
   "If an answer is not present in the context, reply exactly: \"" ++ notDocumented ++ "\"".toList,
   "Do not invent syntax or functions. Be clear and correct."]

/-- The heading of a passage in a prompt. -/
def headingOf (passage : Passage) : Text :=
  match passage.sectionTitle.filter (!·.isEmpty) with
  | some title => passage.sourcePath ++ " - ".toList ++ title
  | none => passage.sourcePath

/-- A passage in a prompt, with its number. -/
def source (number : Nat) (passage : Passage) : Text :=
  "Source ".toList ++ Text.ofNat number ++ " (".toList ++ headingOf passage ++ "):\n".toList
    ++ passage.content

/-- The passages of a prompt, cut to a number of characters. -/
def context (limit : Int) (passages : List Passage) : Text :=
  let sources := (passages.zipIdx 1).map fun (passage, number) => source number passage
  upTo limit (Text.join "\n\n" sources)

/-- The constraints followed by the passages. -/
def system (limit : Int) (passages : List Passage) : Text :=
  Text.join "\n" constraints ++ "\n\nContext:\n".toList ++ context limit passages

/-- What a correction has to keep to. -/
def correctionRules : List Text :=
  ["Explain the following aoi.js code errors using ONLY the provided documentation context.",
   "If correction is requested, produce a corrected version within a single JavaScript code block.",
   "Do not invent undocumented functions. ".toList
     ++ "Maintain $if/$elseif/$else/$endif correctness and $onlyIf error messages.".toList]

/-- The request for a correction of a snippet. -/
def correction (intent code : Text) (findings : List Text) : Text :=
  let parts : List Text :=
    [[], "Request:", intent, [], "Original code:", code, [], "Detected issues:"]
  Text.join "\n" (correctionRules ++ parts ++ findings.map fun finding => '-' :: ' ' :: finding)

/-- What is asked for when a question wants code. -/
def codeInstructions : Text :=
  "Generate minimal aoi.js code strictly using the provided context. ".toList
    ++ "Use correct bracket syntax [..] and separators ';' and ':'. ".toList
    ++ "Output only code in a single JavaScript code block.".toList

/-- What is asked for when a question wants an answer in words. -/
def answerInstructions : Text :=
  "Answer strictly using the provided documentation context. ".toList
    ++ "If something is unknown or not in context, say it is not documented.".toList

end ScriptDocs.Prompt
