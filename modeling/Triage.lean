import Triage.Category
import Triage.Command.Arguments
import Triage.Command.Outcome
import Triage.Ensemble.Attempt
import Triage.Ensemble.Engine
import Triage.Ensemble.Gate
import Triage.Ensemble.Limit
import Triage.Ensemble.Model
import Triage.Ensemble.Plan
import Triage.Ensemble.Provider
import Triage.Ensemble.Request
import Triage.Ensemble.Run
import Triage.Ensemble.Scoreboard
import Triage.Ensemble.Strategy
import Triage.ErrorType
import Triage.Fault
import Triage.Json.Reader
import Triage.Json.Reading
import Triage.Json.Tree
import Triage.Json.Value
import Triage.Json.Writer
import Triage.Learning.Blend
import Triage.Learning.Classifier
import Triage.Learning.Cue
import Triage.Learning.Keyword
import Triage.Learning.RetryDecision
import Triage.Learning.Rule
import Triage.Learning.TrainingSet
import Triage.Learning.Verdict
import Triage.Main
import Triage.Number.Binary
import Triage.Number.Layout
import Triage.Number.Rounding
import Triage.Number.Scaled
import Triage.Number.Shortest
import Triage.Pattern.CharSet
import Triage.Pattern.Compiled
import Triage.Pattern.Dialect
import Triage.Pattern.Expr
import Triage.Pattern.Parser
import Triage.Pattern.Search
import Triage.Pattern.Token
import Triage.Policy
import Triage.Policy.Catalogue
import Triage.Settings
import Triage.Severity
import Triage.Text.Blank
import Triage.Text.Case
import Triage.Text.Letter
import Triage.Text.Table
import Triage.Text.Table.Alphabetic
import Triage.Text.Table.Cased
import Triage.Text.Table.Lower
import Triage.Text.Table.Mark
import Triage.Text.Table.Number
import Triage.Timestamp
import Triage.Proofs.Ensemble.Schedule
import Triage.Proofs.Ensemble.Transition
import Triage.Proofs.Ensemble.Permits
import Triage.Proofs.Ensemble.Completion
import Triage.Proofs.Ensemble.Grounds
import Triage.Proofs.Ensemble.Outcome
import Triage.Proofs.Ensemble.Cascade
import Triage.Proofs.Ensemble.Isolation
import Triage.Proofs.Ensemble.Agreement
import Triage.Proofs.Ensemble.Arrangement
import Triage.Proofs.Ensemble.History
import Triage.Proofs.Ensemble.Accounting
import Triage.Proofs.Learning.Refit
import Triage.Proofs.Learning.RetryPolicy
import Triage.Proofs.Number.Order
import Triage.Proofs.Number.Comparison
import Triage.Proofs.Ensemble.Tallies
import Triage.Proofs.Ensemble.Session
import Triage.Proofs.Ensemble.Configuration
import Triage.Proofs.Learning.Rulebook
import Triage.Proofs.Learning.Strongest
import Triage.Proofs.Learning.Probabilities
import Triage.Proofs.Learning.CueText
import Triage.Proofs.Learning.Support
import Triage.Proofs.Learning.Blending
import Triage.Proofs.Learning.Phrases
import Triage.Proofs.Text.Folding
import Triage.Proofs.Pattern.Search
import Triage.Proofs.Pattern.Compiled
import Triage.Proofs.Pattern.Quoting
import Triage.Proofs.Pattern.Literal
import Triage.Proofs.Learning.Recall
import Triage.Proofs.Learning.Advice
import Triage.Proofs.Ensemble.Succession
import Triage.Proofs.Ensemble.Return
import Triage.Proofs.Learning.Alignment
import Triage.Proofs.Json.Inside
import Triage.Proofs.Json.Writing
import Triage.Proofs.Json.Recovery
import Triage.Proofs.Json.FreeForm
import Triage.Proofs.Time.Calendar
import Triage.Proofs.Time.Moment
import Triage.Proofs.Naming
import Triage.Proofs.Storage
import Triage.Proofs.Learning.CueTable
import Triage.Proofs.Ensemble.Ranking
import Triage.Proofs.Ensemble.Rounds
import Triage.Proofs.Ensemble.Precedence
import Triage.Proofs.Ensemble.Thinning
import Triage.Proofs.Learning.Bounds
import Triage.Proofs.Learning.Reordering
import Triage.Proofs.Learning.Separation
import Triage.Proofs.Number.Finite
import Triage.Proofs.Acceptance
import Triage.Proofs.Number.Parts
import Triage.Proofs.Ensemble.TimeLimit
import Triage.Proofs.Number.Undefined
import Triage.Proofs.Ensemble.Shadowing
import Triage.Proofs.Learning.Scores
import Triage.Proofs.Text.Spelling
import Triage.Proofs.Identifiers
import Triage.Proofs.Ensemble.Building
