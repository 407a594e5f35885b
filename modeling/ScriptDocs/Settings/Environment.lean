/-
# Settings from the environment

Each setting has a variable, whose name counts in any letter case; of several
spellings of one name the last counts, and unknown names are passed over. The faults
of all variables are collected in the order of the settings.
-/

import ScriptDocs.Field.Numeral
import ScriptDocs.Settings.Basic

namespace ScriptDocs.Settings

/-- A variable of the environment and how its text changes the settings. -/
structure Variable where
  name : Text
  assign : Text → Settings → Except FieldRule Settings

/-- A variable that holds a text. -/
def textVariable (name : Text) (assign : Text → Settings → Settings) : Variable :=
  ⟨name, fun s settings => .ok (assign s settings)⟩

/-- A variable that holds an integer. -/
def integerVariable (name : Text) (assign : Int → Settings → Settings) : Variable :=
  ⟨name, fun s settings => (Numeral.integer s).map fun n => assign n settings⟩

/-- A variable that holds a double. -/
def doubleVariable (name : Text) (assign : Binary64 → Settings → Settings) : Variable :=
  ⟨name, fun s settings =>
    match Numeral.double? s with
    | some x => .ok (assign x settings)
    | none => .error .doubleUnreadable⟩

/-- All variables, in the order of the settings. -/
def allVariables : List Variable :=
  [textVariable "gemini_api_key" fun s t => { t with embeddingKey := some s },
   textVariable "gemini_embed_model" fun s t => { t with embeddingModel := s },
   textVariable "gemini_base_url" fun s t => { t with embeddingBase := s },
   textVariable "mistral_api_key" fun s t => { t with chatKey := some s },
   textVariable "mistral_endpoint" fun s t => { t with chatEndpoint := s },
   textVariable "mistral_model" fun s t => { t with chatModel := s },
   doubleVariable "mistral_temperature" fun x t => { t with chatTemperature := x },
   doubleVariable "request_timeout" fun x t => { t with requestTimeout := .double x },
   textVariable "database_url" fun s t => { t with databaseAddress := s },
   textVariable "docs_path" fun s t => { t with docsPath := s },
   integerVariable "ingest_sleep_ms" fun n t => { t with pauseMilliseconds := .integer n },
   doubleVariable "similarity_threshold" fun x t => { t with threshold := .double x },
   integerVariable "top_k" fun n t => { t with hitLimit := n },
   integerVariable "context_chunks" fun n t => { t with contextPassages := n },
   integerVariable "max_context_chars" fun n t => { t with contextCharacters := n },
   integerVariable "function_search_k" fun n t => { t with functionHits := n },
   integerVariable "function_results_limit" fun n t => { t with functionResults := n },
   textVariable "log_level" fun s t => { t with logLevel := s }]

/-- The value of a variable in an environment. -/
def valueOf? (name : Text) (environment : List (Text × Text)) : Option Text :=
  (environment.reverse.find? fun given => Text.lower given.1 = name).map Prod.snd

/-- The settings changed by some variables, and the faults found on the way. -/
def assignAll (environment : List (Text × Text)) :
    List Variable → Settings → Settings × List FieldFault
  | [], settings => (settings, [])
  | entry :: rest, settings =>
    match valueOf? entry.name environment with
    | none => assignAll environment rest settings
    | some s =>
      match entry.assign s settings with
      | .ok settings => assignAll environment rest settings
      | .error rule =>
        let (settings, faults) := assignAll environment rest settings
        (settings, ⟨[.name entry.name], rule⟩ :: faults)

/-- Settings changed by an environment. -/
def withEnvironment (environment : List (Text × Text)) (settings : Settings) :
    Except (List FieldFault) Settings :=
  match assignAll environment allVariables settings with
  | (settings, []) => .ok settings
  | (_, faults) => .error faults

end ScriptDocs.Settings
