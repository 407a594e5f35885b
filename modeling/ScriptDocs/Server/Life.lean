/-
# The life of the service

What the service logs when it starts and when it stops.
-/

import ScriptDocs.Ingest.Report
import ScriptDocs.Settings.Basic

namespace ScriptDocs.Server

/-- The lines at the start, where the store may be prepared; a missing key is warned of. -/
def startLines (settings : Settings) (preparesStore : Bool) : List LogLine :=
  [⟨.info, "Starting aoi-docs-server"⟩]
    ++ (if preparesStore then [⟨.info, "Passage store ready"⟩] else [])
    ++ (if settings.embeddingKey.isNone then
      [⟨.warning, "GEMINI_API_KEY is not set; retrieval requests will fail"⟩] else [])

/-- The lines at the end. -/
def stopLines : List LogLine :=
  [⟨.info, "Shutting down aoi-docs-server"⟩]

end ScriptDocs.Server
