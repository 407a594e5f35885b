import ScriptDocs.Json.Display
import ScriptDocs.Main
import ScriptDocs.Provider.Embedding
import ScriptDocs.Server.Life
import ScriptDocs.Server.Routes
import ScriptDocs.Settings.Environment
import ScriptDocs.Store.Schema
import ScriptDocs.Proofs.Distinct
import ScriptDocs.Proofs.Lists
import ScriptDocs.Proofs.Store.Reading
import ScriptDocs.Proofs.Store.Upsert
import ScriptDocs.Proofs.Store.Operation
import ScriptDocs.Proofs.Binary64
import ScriptDocs.Proofs.Json.Nesting
import ScriptDocs.Proofs.Store.Decoding
import ScriptDocs.Proofs.Store.Search
import ScriptDocs.Proofs.Store.Memory
import ScriptDocs.Proofs.Store.Rollback
import ScriptDocs.Proofs.Store.Sharing
import ScriptDocs.Proofs.Markdown.Paragraph
import ScriptDocs.Proofs.Markdown.Partition
import ScriptDocs.Proofs.Snippet.Bracket
import ScriptDocs.Proofs.Snippet.Rendering
import ScriptDocs.Proofs.Text.Letter
import ScriptDocs.Proofs.Text.Word
import ScriptDocs.Proofs.Text.Sigil
import ScriptDocs.Proofs.Text.Blank
import ScriptDocs.Proofs.Text.Front
import ScriptDocs.Proofs.Text.Replace
import ScriptDocs.Proofs.Text.Removal
import ScriptDocs.Proofs.Question
import ScriptDocs.Proofs.Snippet.FlowWord
import ScriptDocs.Proofs.Snippet.FlowWalk
import ScriptDocs.Proofs.Snippet.FlowCheck
import ScriptDocs.Proofs.Snippet.Division
import ScriptDocs.Proofs.Snippet.Cutting
import ScriptDocs.Proofs.Snippet.Nesting
import ScriptDocs.Proofs.Snippet.Fencing
import ScriptDocs.Proofs.Snippet.Closing
import ScriptDocs.Proofs.Work
import ScriptDocs.Proofs.Snippet.Validation
import ScriptDocs.Proofs.Snippet.Repair
import ScriptDocs.Proofs.Snippet.Names
import ScriptDocs.Proofs.Snippet.Coverage
import ScriptDocs.Proofs.Snippet.Stripping
import ScriptDocs.Proofs.Ingest.Candidate
import ScriptDocs.Proofs.Ingest.Step
import ScriptDocs.Proofs.Ingest.Documents
import ScriptDocs.Proofs.Ingest.Progress
import ScriptDocs.Proofs.Ingest.Directory
import ScriptDocs.Proofs.Ingest.Committed
import ScriptDocs.Proofs.Ingest.Resume
import ScriptDocs.Proofs.Ingest.Racer
import ScriptDocs.Proofs.Ingest.Race
import ScriptDocs.Proofs.Snippet.Assistance
import ScriptDocs.Proofs.Reference.Gathering
import ScriptDocs.Proofs.Reference.Naming
import ScriptDocs.Proofs.Service.Description
import ScriptDocs.Proofs.Service.Examples
import ScriptDocs.Proofs.Service.Score
import ScriptDocs.Proofs.Store.Ranking
import ScriptDocs.Proofs.Asking
import ScriptDocs.Proofs.Provider.Embedding
import ScriptDocs.Proofs.Provider.Generation
import ScriptDocs.Proofs.Service.Agreement
import ScriptDocs.Proofs.Service.Grounding
import ScriptDocs.Proofs.Markdown.Collecting
import ScriptDocs.Proofs.Markdown.Size
import ScriptDocs.Proofs.Markdown.Extension
import ScriptDocs.Proofs.Ingest.Extension
import ScriptDocs.Proofs.Ingest.Accounting
import ScriptDocs.Proofs.Markdown.Outline
import ScriptDocs.Proofs.Snippet.Completion
import ScriptDocs.Proofs.Snippet.NestedNames
import ScriptDocs.Proofs.Reference.Table
import ScriptDocs.Proofs.Reference.Brackets
import ScriptDocs.Proofs.Service.OneName
import ScriptDocs.Proofs.Text.Lower
import ScriptDocs.Proofs.Ingest.Walk
import ScriptDocs.Proofs.Service.BlankQuestion
import ScriptDocs.Proofs.Markdown.Heading
import ScriptDocs.Proofs.Markdown.Rereading
import ScriptDocs.Proofs.Markdown.BlankSlice
import ScriptDocs.Proofs.Ingest.Visible
import ScriptDocs.Proofs.Snippet.ForeignWord
import ScriptDocs.Proofs.Reference.WellFormed
