import RankedRetrieval.Binary64
import RankedRetrieval.Decimal.Digits
import RankedRetrieval.Decimal.Fixed
import RankedRetrieval.Decimal.Pieces
import RankedRetrieval.Decimal.Reading
import RankedRetrieval.Decimal.Shortest
import RankedRetrieval.Features.Extraction
import RankedRetrieval.Features.Normalization
import RankedRetrieval.Features.Reranking
import RankedRetrieval.Feedback.Expansion
import RankedRetrieval.Files.Content
import RankedRetrieval.Files.Error
import RankedRetrieval.Files.FeatureRows
import RankedRetrieval.Files.Judgments
import RankedRetrieval.Files.Location
import RankedRetrieval.Files.PageRanks
import RankedRetrieval.Files.Predictions
import RankedRetrieval.Files.Queries
import RankedRetrieval.Files.Rankings
import RankedRetrieval.Files.Store
import RankedRetrieval.Files.Writer
import RankedRetrieval.Index.Basic
import RankedRetrieval.Index.Document
import RankedRetrieval.Index.Posting
import RankedRetrieval.Json.Basic
import RankedRetrieval.Json.Reading
import RankedRetrieval.Main
import RankedRetrieval.Model
import RankedRetrieval.Number
import RankedRetrieval.Positional.Cursor
import RankedRetrieval.Positional.Evaluation
import RankedRetrieval.Positional.Merge
import RankedRetrieval.Program.Host
import RankedRetrieval.Program.Signal
import RankedRetrieval.Proofs.Decimal.Numerals
import RankedRetrieval.Proofs.Decimal.Texts
import RankedRetrieval.Proofs.Exact.Counts
import RankedRetrieval.Proofs.Exact.Fractions
import RankedRetrieval.Proofs.Exact.Least
import RankedRetrieval.Proofs.Exact.Means
import RankedRetrieval.Proofs.Exact.Numbers
import RankedRetrieval.Proofs.Exact.Order
import RankedRetrieval.Proofs.Exact.Reals
import RankedRetrieval.Proofs.Exact.Rounding
import RankedRetrieval.Proofs.Features.Bm25
import RankedRetrieval.Proofs.Features.Indri
import RankedRetrieval.Proofs.Features.Reranking
import RankedRetrieval.Proofs.Features.Scaling
import RankedRetrieval.Proofs.Feedback.Combination
import RankedRetrieval.Proofs.Feedback.Expansion
import RankedRetrieval.Proofs.Feedback.Malformed
import RankedRetrieval.Proofs.Feedback.MissingFields
import RankedRetrieval.Proofs.Files.FeatureLines
import RankedRetrieval.Proofs.Files.Placing
import RankedRetrieval.Proofs.Files.RankingLines
import RankedRetrieval.Proofs.Index.Consistency
import RankedRetrieval.Proofs.Index.Contents
import RankedRetrieval.Proofs.Index.Tokens
import RankedRetrieval.Proofs.Json.Reading
import RankedRetrieval.Proofs.Outcome
import RankedRetrieval.Proofs.Positional.Agreement
import RankedRetrieval.Proofs.Positional.Alignment
import RankedRetrieval.Proofs.Positional.Appending
import RankedRetrieval.Proofs.Positional.Calls
import RankedRetrieval.Proofs.Positional.Chains
import RankedRetrieval.Proofs.Positional.Evaluation
import RankedRetrieval.Proofs.Positional.Merging
import RankedRetrieval.Proofs.Positional.Movement
import RankedRetrieval.Proofs.Positional.Proximity
import RankedRetrieval.Proofs.Positional.Selection
import RankedRetrieval.Proofs.Positional.Single
import RankedRetrieval.Proofs.Positional.Soundness
import RankedRetrieval.Proofs.Positional.Union
import RankedRetrieval.Proofs.Positional.Usability
import RankedRetrieval.Proofs.Positional.Windows
import RankedRetrieval.Proofs.Query.Cleaning
import RankedRetrieval.Proofs.Query.Grammar
import RankedRetrieval.Proofs.Query.Leaves
import RankedRetrieval.Proofs.Query.Lexing
import RankedRetrieval.Proofs.Query.NormalForm
import RankedRetrieval.Proofs.Query.Parsed
import RankedRetrieval.Proofs.Query.PositionalTexts
import RankedRetrieval.Proofs.Query.Printing
import RankedRetrieval.Proofs.Query.Reduction
import RankedRetrieval.Proofs.Query.RoundTrip
import RankedRetrieval.Proofs.Ranking.Apart
import RankedRetrieval.Proofs.Ranking.Cleanup
import RankedRetrieval.Proofs.Ranking.Execution
import RankedRetrieval.Proofs.Ranking.Failure
import RankedRetrieval.Proofs.Ranking.Names
import RankedRetrieval.Proofs.Ranking.Order
import RankedRetrieval.Proofs.Ranking.Results
import RankedRetrieval.Proofs.Ranking.TotalOrder
import RankedRetrieval.Proofs.Ranking.WeightedAnd
import RankedRetrieval.Proofs.Run.Actions
import RankedRetrieval.Proofs.Run.Agreement
import RankedRetrieval.Proofs.Run.Blocks
import RankedRetrieval.Proofs.Run.DisabledFeatures
import RankedRetrieval.Proofs.Run.FirstPass
import RankedRetrieval.Proofs.Run.Learning
import RankedRetrieval.Proofs.Run.Stages
import RankedRetrieval.Proofs.Scoring.Averages
import RankedRetrieval.Proofs.Scoring.Building
import RankedRetrieval.Proofs.Scoring.Calls
import RankedRetrieval.Proofs.Scoring.Combining
import RankedRetrieval.Proofs.Scoring.DefaultScores
import RankedRetrieval.Proofs.Scoring.Faults
import RankedRetrieval.Proofs.Scoring.FirstArguments
import RankedRetrieval.Proofs.Scoring.FoldedStanding
import RankedRetrieval.Proofs.Scoring.Folding
import RankedRetrieval.Proofs.Scoring.Growth
import RankedRetrieval.Proofs.Scoring.HiddenFaults
import RankedRetrieval.Proofs.Scoring.Induction
import RankedRetrieval.Proofs.Scoring.Meaning
import RankedRetrieval.Proofs.Scoring.NextMatch
import RankedRetrieval.Proofs.Scoring.PartialFolding
import RankedRetrieval.Proofs.Scoring.PlainQueries
import RankedRetrieval.Proofs.Scoring.Ranks
import RankedRetrieval.Proofs.Scoring.Regrouping
import RankedRetrieval.Proofs.Scoring.Repeats
import RankedRetrieval.Proofs.Scoring.Replacing
import RankedRetrieval.Proofs.Scoring.Rounds
import RankedRetrieval.Proofs.Scoring.RunStates
import RankedRetrieval.Proofs.Scoring.Scores
import RankedRetrieval.Proofs.Scoring.Settling
import RankedRetrieval.Proofs.Scoring.Smoothing
import RankedRetrieval.Proofs.Scoring.Standing
import RankedRetrieval.Proofs.Scoring.Sums
import RankedRetrieval.Proofs.Scoring.Support
import RankedRetrieval.Proofs.Scoring.TermScores
import RankedRetrieval.Proofs.Script.Arithmetic
import RankedRetrieval.Proofs.Script.Fields
import RankedRetrieval.Proofs.Script.Launching
import RankedRetrieval.Proofs.Script.Patterns
import RankedRetrieval.Proofs.Script.Rankers
import RankedRetrieval.Proofs.Snapshot.Codecs
import RankedRetrieval.Proofs.Snapshot.Layouts
import RankedRetrieval.Proofs.Snapshot.Metadata
import RankedRetrieval.Proofs.Snapshot.RoundTrip
import RankedRetrieval.Proofs.Text.Lines
import RankedRetrieval.Proofs.Text.Stems
import RankedRetrieval.Query.Cleanup
import RankedRetrieval.Query.Error
import RankedRetrieval.Query.Operator
import RankedRetrieval.Query.Parser
import RankedRetrieval.Query.Token
import RankedRetrieval.Query.Tree
import RankedRetrieval.Ranking.Execution
import RankedRetrieval.Ranking.ScoreList
import RankedRetrieval.Run.Action
import RankedRetrieval.Run.Batch
import RankedRetrieval.Run.Error
import RankedRetrieval.Run.Feedback
import RankedRetrieval.Run.Input
import RankedRetrieval.Run.Learning
import RankedRetrieval.Run.Parameters
import RankedRetrieval.Run.Retrieval
import RankedRetrieval.Run.Settings
import RankedRetrieval.Scalar
import RankedRetrieval.Scoring.Match
import RankedRetrieval.Scoring.Score
import RankedRetrieval.Scoring.Tree
import RankedRetrieval.Script.Arithmetic
import RankedRetrieval.Script.Builtin
import RankedRetrieval.Script.Command
import RankedRetrieval.Script.Condition
import RankedRetrieval.Script.Evaluation
import RankedRetrieval.Script.Filter
import RankedRetrieval.Script.Format
import RankedRetrieval.Script.Launch
import RankedRetrieval.Script.Pattern
import RankedRetrieval.Script.Shell
import RankedRetrieval.Script.Token
import RankedRetrieval.Script.Tool
import RankedRetrieval.Script.ToolCall
import RankedRetrieval.Script.Word
import RankedRetrieval.Snapshot.Codec
import RankedRetrieval.Snapshot.Layout
import RankedRetrieval.Snapshot.Metadata
import RankedRetrieval.Snapshot.Storage
import RankedRetrieval.Table
import RankedRetrieval.Text.Analysis
import RankedRetrieval.Text.AsciiCase
import RankedRetrieval.Text.Blank
import RankedRetrieval.Text.Line
import RankedRetrieval.Text.Stem
import RankedRetrieval.Text.Stopword
import RankedRetrieval.Unicode.CodeTable
import RankedRetrieval.Unicode.Composition
import RankedRetrieval.Unicode.Decomposition
import RankedRetrieval.Unicode.Letter
import RankedRetrieval.Unicode.LowerCase
import RankedRetrieval.Unicode.NormalForm
