import FactStream.Main
import FactStream.Proofs.Counting.Agreement
import FactStream.Proofs.Counting.Chunking
import FactStream.Proofs.Join.EquiJoin
import FactStream.Proofs.Selection.FilterCount
import FactStream.Proofs.Mapper
import FactStream.Proofs.Stage.BoundedSink
import FactStream.Proofs.Join.Reading
import FactStream.Proofs.Selection.KeyReading
import FactStream.Proofs.Stage.Progress
import FactStream.Proofs.Counting.Entries
import FactStream.Proofs.Counting.Invariant
import FactStream.Proofs.Join.Invariant
import FactStream.Proofs.Percentage.Invariant
import FactStream.Proofs.Selection.Invariant
import FactStream.Proofs.Command.Origin
import FactStream.Proofs.Command.Figures
import FactStream.Proofs.Command.Process
import FactStream.Proofs.Percentage.Precounting
import FactStream.Proofs.KeyRuns
import FactStream.Proofs.Stage.History
import FactStream.Proofs.Counting.History
import FactStream.Proofs.Counting.MaximalRuns
import FactStream.Proofs.Counting.KeyTotals
import FactStream.Proofs.Join.RowRuns
import FactStream.Proofs.Join.JoinedRuns
import FactStream.Proofs.Selection.HeaderRows
import FactStream.Proofs.Selection.MatchingRecords
import FactStream.Proofs.Selection.NamedColumns
import FactStream.Proofs.Percentage.Shares
import FactStream.Proofs.Aggregator
import FactStream.Proofs.Selection.RefusedLines
import FactStream.Proofs.Stage.Edges
import FactStream.Proofs.Stage.Noise
import FactStream.Proofs.Join.Isolation
import FactStream.Proofs.Join.ArrivalOrder
import FactStream.Proofs.Command.Settings
import FactStream.Proofs.Counting.Recounting
import FactStream.Proofs.Counting.Grammar
import FactStream.Proofs.Binary64.Shortest
import FactStream.Proofs.Percentage.Notation
import FactStream.Proofs.Percentage.Index
import FactStream.Proofs.Counting.Segments
import FactStream.Proofs.Counting.TotalsMap
import FactStream.Proofs.Fields
