import ProximityRanking.BM25
import ProximityRanking.CommandLine
import ProximityRanking.CommandLine.Word
import ProximityRanking.Evaluation
import ProximityRanking.Event
import ProximityRanking.Failure
import ProximityRanking.Index
import ProximityRanking.Main
import ProximityRanking.Metrics
import ProximityRanking.Number.Binary64
import ProximityRanking.Number.BlockSum
import ProximityRanking.Number.Decimal
import ProximityRanking.Number.Gamma
import ProximityRanking.Number.Numeral
import ProximityRanking.Pairing
import ProximityRanking.Pass
import ProximityRanking.Phrase
import ProximityRanking.Posting
import ProximityRanking.Progress
import ProximityRanking.Query
import ProximityRanking.Rescorer
import ProximityRanking.ResultSet
import ProximityRanking.Roster
import ProximityRanking.Scalar
import ProximityRanking.Scoring
import ProximityRanking.Scoring.Binomial
import ProximityRanking.Scoring.Catalog
import ProximityRanking.Scoring.MarkovField
import ProximityRanking.Session
import ProximityRanking.Settings
import ProximityRanking.Settings.Reading
import ProximityRanking.Source
import ProximityRanking.Stream
import ProximityRanking.Table
import ProximityRanking.Text.CaseTable
import ProximityRanking.Text.Class
import ProximityRanking.Text.PrintableTable
import ProximityRanking.Text.Quoted
import ProximityRanking.Text.Word
import ProximityRanking.Text.WordTable
import ProximityRanking.Window
import ProximityRanking.Proofs.Rounding
import ProximityRanking.Proofs.Windows
import ProximityRanking.Proofs.Grouping
import ProximityRanking.Proofs.Inversion
import ProximityRanking.Proofs.Streams
import ProximityRanking.Proofs.Lossless
import ProximityRanking.Proofs.Merging
import ProximityRanking.Proofs.Opening
import ProximityRanking.Proofs.Visiting
import ProximityRanking.Proofs.LookUp
import ProximityRanking.Proofs.Interruption
import ProximityRanking.Proofs.Renaming
import ProximityRanking.Proofs.Closing
import ProximityRanking.Proofs.Reopening
import ProximityRanking.Proofs.Endings
import ProximityRanking.Proofs.Gathering
import ProximityRanking.Proofs.Meetings
import ProximityRanking.Proofs.CollectionFrequency
import ProximityRanking.Proofs.Agreement
import ProximityRanking.Proofs.History
import ProximityRanking.Proofs.Symmetry
import ProximityRanking.Proofs.QueryOrder
import ProximityRanking.Proofs.Shares
import ProximityRanking.Proofs.TermOrder
import ProximityRanking.Proofs.Doubles
import ProximityRanking.Proofs.Ranking
import ProximityRanking.Proofs.Traces
import ProximityRanking.Proofs.Positionless
import ProximityRanking.Proofs.Snapshots
import ProximityRanking.Proofs.Cursors
import ProximityRanking.Proofs.DocumentScores
import ProximityRanking.Proofs.ExactScores
import ProximityRanking.Proofs.Retrieval
import ProximityRanking.Proofs.Overlaps
import ProximityRanking.Proofs.Guards
import ProximityRanking.Proofs.Binomial
import ProximityRanking.Proofs.Bounds
import ProximityRanking.Proofs.WholeNumbers
import ProximityRanking.Proofs.Accumulation
import ProximityRanking.Proofs.PseudoTerms
import ProximityRanking.Proofs.Repetitions
import ProximityRanking.Proofs.Operations
import ProximityRanking.Proofs.Refusals
import ProximityRanking.Proofs.Sorting
import ProximityRanking.Proofs.BlockSums
import ProximityRanking.Proofs.Gains
import ProximityRanking.Proofs.Quality
import ProximityRanking.Proofs.LowerCase
import ProximityRanking.Proofs.Tokens
import ProximityRanking.Proofs.Markers
import ProximityRanking.Proofs.AverageWindows
