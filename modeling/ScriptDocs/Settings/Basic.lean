/-
# Settings

The configuration of the whole service: the two providers, the store, ingestion and
the tuning of retrieval. Every field has a default, and the two keys are absent by
default.
-/

import ScriptDocs.Number
import ScriptDocs.Text.Basic

namespace ScriptDocs

/-- The configuration. -/
structure Settings where
  embeddingKey : Option Text := none
  embeddingModel : Text := "text-embedding-004"
  embeddingBase : Text := "https://generativelanguage.googleapis.com/v1beta/models"
  chatKey : Option Text := none
  chatEndpoint : Text := "https://api.mistral.ai/v1/chat/completions"
  chatModel : Text := "mistral-small-latest"
  chatTemperature : Binary64 := .ofRatio 1 5
  requestTimeout : Number := .double (.ofInt 60)
  databaseAddress : Text := "sqlite+aiosqlite:///./data/vectors.db"
  docsPath : Text := "website"
  pauseMilliseconds : Number := .integer 100
  threshold : Number := .double (.ofRatio 3 5)
  hitLimit : Int := 8
  contextPassages : Int := 6
  contextCharacters : Int := 12000
  functionHits : Int := 40
  functionResults : Int := 12
  logLevel : Text := "INFO"

end ScriptDocs
