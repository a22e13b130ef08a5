import CodeAtlas.Assistant.Extraction
import CodeAtlas.Assistant.Model
import CodeAtlas.Assistant.Prompts
import CodeAtlas.Chat.Intent
import CodeAtlas.Chat.Line
import CodeAtlas.Chat.Relations
import CodeAtlas.Chat.Retrieval
import CodeAtlas.Chat.Router
import CodeAtlas.Chat.TestGaps
import CodeAtlas.Classifier
import CodeAtlas.Classifier.Outputs
import CodeAtlas.Console.Command
import CodeAtlas.Console.Plain
import CodeAtlas.Console.Run
import CodeAtlas.Decimal.Binary
import CodeAtlas.Decimal.Fixed
import CodeAtlas.Decimal.Nearest
import CodeAtlas.Decimal.Shortest
import CodeAtlas.Dialogue
import CodeAtlas.Digest.Sha256
import CodeAtlas.Embedding
import CodeAtlas.Excerpt.Braced
import CodeAtlas.Excerpt.Indented
import CodeAtlas.Failure
import CodeAtlas.FileText
import CodeAtlas.Graph.Catalogue
import CodeAtlas.Graph.Operation
import CodeAtlas.Graph.Query
import CodeAtlas.Graph.Store
import CodeAtlas.Ingest.Definition
import CodeAtlas.Ingest.File
import CodeAtlas.Issue.Analysis
import CodeAtlas.Issue.Basic
import CodeAtlas.Issue.Duplicate
import CodeAtlas.Issue.Shape
import CodeAtlas.Issue.TestSigns
import CodeAtlas.Issue.Unused
import CodeAtlas.Json.Access
import CodeAtlas.Json.Basic
import CodeAtlas.Json.Mapping
import CodeAtlas.Json.Order
import CodeAtlas.Json.Reader
import CodeAtlas.Json.Shown
import CodeAtlas.Json.Writer
import CodeAtlas.Language
import CodeAtlas.Link.Collect
import CodeAtlas.Link.Project
import CodeAtlas.Lint.Braces
import CodeAtlas.Lint.Check
import CodeAtlas.Lint.Finding
import CodeAtlas.Lint.Key
import CodeAtlas.Lint.Leftover
import CodeAtlas.Lint.Listing
import CodeAtlas.Lint.Percent
import CodeAtlas.Lint.Scope
import CodeAtlas.Lint.Site
import CodeAtlas.Lint.Visit
import CodeAtlas.Lint.Walk
import CodeAtlas.Main
import CodeAtlas.Node
import CodeAtlas.Paths
import CodeAtlas.Proofs.Assistant.Plan
import CodeAtlas.Proofs.Assistant.Reply
import CodeAtlas.Proofs.Chat.Confinement
import CodeAtlas.Proofs.Chat.Direction
import CodeAtlas.Proofs.Chat.Drawing
import CodeAtlas.Proofs.Chat.Indentation
import CodeAtlas.Proofs.Chat.LookUps
import CodeAtlas.Proofs.Chat.Parts
import CodeAtlas.Proofs.Chat.Ranking
import CodeAtlas.Proofs.Chat.Scoring
import CodeAtlas.Proofs.Chat.StoredCode
import CodeAtlas.Proofs.Chat.Stream
import CodeAtlas.Proofs.Chat.TestReply
import CodeAtlas.Proofs.Console.Linking
import CodeAtlas.Proofs.Decimal.Exact
import CodeAtlas.Proofs.Dialogue.Grounded
import CodeAtlas.Proofs.Dialogue.Laws
import CodeAtlas.Proofs.Dialogue.Rely
import CodeAtlas.Proofs.Dialogue.Transcript
import CodeAtlas.Proofs.Excerpt.Body
import CodeAtlas.Proofs.Excerpt.ClosingBrace
import CodeAtlas.Proofs.Excerpt.Outermost
import CodeAtlas.Proofs.Graph.Listing
import CodeAtlas.Proofs.Graph.Network
import CodeAtlas.Proofs.Graph.Part
import CodeAtlas.Proofs.Graph.Scope
import CodeAtlas.Proofs.Graph.Store
import CodeAtlas.Proofs.Ingest.Batches
import CodeAtlas.Proofs.Ingest.Belonging
import CodeAtlas.Proofs.Ingest.Completeness
import CodeAtlas.Proofs.Ingest.Endpoints
import CodeAtlas.Proofs.Ingest.Freshness
import CodeAtlas.Proofs.Ingest.History
import CodeAtlas.Proofs.Ingest.Identity
import CodeAtlas.Proofs.Ingest.Intake
import CodeAtlas.Proofs.Ingest.Interleaving
import CodeAtlas.Proofs.Ingest.Ledger
import CodeAtlas.Proofs.Ingest.Leftovers
import CodeAtlas.Proofs.Ingest.Lockstep
import CodeAtlas.Proofs.Ingest.Naming
import CodeAtlas.Proofs.Ingest.OwnRows
import CodeAtlas.Proofs.Ingest.Pool
import CodeAtlas.Proofs.Ingest.Reading
import CodeAtlas.Proofs.Ingest.Scoping
import CodeAtlas.Proofs.Ingest.Selection
import CodeAtlas.Proofs.Ingest.Site
import CodeAtlas.Proofs.Ingest.Turn
import CodeAtlas.Proofs.Ingest.Walk
import CodeAtlas.Proofs.Issue.Analysis
import CodeAtlas.Proofs.Issue.Functions
import CodeAtlas.Proofs.Issue.Locals
import CodeAtlas.Proofs.Issue.Nesting
import CodeAtlas.Proofs.Issue.Repeats
import CodeAtlas.Proofs.Issue.TestSigns
import CodeAtlas.Proofs.Json.ReadBack
import CodeAtlas.Proofs.Json.Refusal
import CodeAtlas.Proofs.Json.Written
import CodeAtlas.Proofs.Link.Acceptance
import CodeAtlas.Proofs.Link.Calls
import CodeAtlas.Proofs.Link.Index
import CodeAtlas.Proofs.Link.Ingested
import CodeAtlas.Proofs.Link.Occurrence
import CodeAtlas.Proofs.Link.Order
import CodeAtlas.Proofs.Link.Project
import CodeAtlas.Proofs.Link.Spelling
import CodeAtlas.Proofs.Link.Stability
import CodeAtlas.Proofs.Link.Structure
import CodeAtlas.Proofs.Lists
import CodeAtlas.Proofs.Outcome
import CodeAtlas.Proofs.Paths
import CodeAtlas.Proofs.Text.Blocks
import CodeAtlas.Proofs.Text.Pattern
import CodeAtlas.Proofs.Text.Rows
import CodeAtlas.Proofs.Training.Course
import CodeAtlas.Proofs.Training.Gradients
import CodeAtlas.Proofs.Training.Stopping
import CodeAtlas.Proofs.Tree.Place
import CodeAtlas.Rehearsal.Disk
import CodeAtlas.Rehearsal.Log
import CodeAtlas.Rehearsal.Script
import CodeAtlas.Rehearsal.Stage
import CodeAtlas.Request
import CodeAtlas.Script.Fault
import CodeAtlas.Script.Grammar.Expression
import CodeAtlas.Script.Grammar.Making
import CodeAtlas.Script.Grammar.Matching
import CodeAtlas.Script.Grammar.Misuse
import CodeAtlas.Script.Grammar.Parameter
import CodeAtlas.Script.Grammar.Peg
import CodeAtlas.Script.Grammar.Rule
import CodeAtlas.Script.Grammar.Statement
import CodeAtlas.Script.Grammar.Table
import CodeAtlas.Script.Grammar.Target
import CodeAtlas.Script.Grammar.Value
import CodeAtlas.Script.Literal
import CodeAtlas.Script.Node
import CodeAtlas.Script.Numeral
import CodeAtlas.Script.Outline
import CodeAtlas.Script.Parse
import CodeAtlas.Script.Scan
import CodeAtlas.Script.Token
import CodeAtlas.Script.Tree
import CodeAtlas.Service
import CodeAtlas.Settings
import CodeAtlas.Status
import CodeAtlas.Text.Blank
import CodeAtlas.Text.Casing
import CodeAtlas.Text.CharName
import CodeAtlas.Text.CharName.Data
import CodeAtlas.Text.Dedent
import CodeAtlas.Text.Fraction
import CodeAtlas.Text.Identifier
import CodeAtlas.Text.Normal
import CodeAtlas.Text.Normal.Data
import CodeAtlas.Text.Numbers
import CodeAtlas.Text.Numeral
import CodeAtlas.Text.Pattern
import CodeAtlas.Text.Printable
import CodeAtlas.Text.Quoted
import CodeAtlas.Text.Rows
import CodeAtlas.Text.Search
import CodeAtlas.Text.Separated
import CodeAtlas.Text.Similarity
import CodeAtlas.Text.Utf8
import CodeAtlas.Text.Word
import CodeAtlas.Training.Corpus
import CodeAtlas.Training.Dice
import CodeAtlas.Training.Fit
import CodeAtlas.Training.Network
import CodeAtlas.Training.Report
import CodeAtlas.Training.Run
import CodeAtlas.Training.Snippet
import CodeAtlas.Proofs.Decimal.Rounding
