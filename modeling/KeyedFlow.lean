import KeyedFlow.Check
import KeyedFlow.CommandLine.Execution
import KeyedFlow.Fixture
import KeyedFlow.Inspection
import KeyedFlow.Main
import KeyedFlow.Record.Document
import KeyedFlow.Verbosity
import KeyedFlow.Proofs.Walk
import KeyedFlow.Proofs.Groups
import KeyedFlow.Proofs.Combination
import KeyedFlow.Proofs.RowWise
import KeyedFlow.Proofs.Sorting
import KeyedFlow.Proofs.RowOrder
import KeyedFlow.Proofs.Partitioning
import KeyedFlow.Proofs.ExactArithmetic
import KeyedFlow.Proofs.KeyRestriction
import KeyedFlow.Proofs.DiskEffects
import KeyedFlow.Proofs.OverwrittenKeys
import KeyedFlow.Proofs.RunStages
import KeyedFlow.Proofs.ResultFile
import KeyedFlow.Proofs.RunLog
import KeyedFlow.Proofs.SessionLog
import KeyedFlow.Proofs.TextBytes
import KeyedFlow.Proofs.Spelling
import KeyedFlow.Proofs.NumeralValues
import KeyedFlow.Proofs.RowScanning
import KeyedFlow.Proofs.RecordLayout
import KeyedFlow.Proofs.RowReading
import KeyedFlow.Proofs.RecordRoundTrip
import KeyedFlow.Proofs.Locations
import KeyedFlow.Proofs.GeneratedPartitions
import KeyedFlow.Proofs.SessionInvariant
import KeyedFlow.Proofs.InputLines
import KeyedFlow.Proofs.MenuScript
import KeyedFlow.Proofs.Comparison
import KeyedFlow.Proofs.StandingFiles
import KeyedFlow.Proofs.PartitionReads
import KeyedFlow.Proofs.FirstFault
import KeyedFlow.Proofs.HeaderLine
import KeyedFlow.Proofs.RepeatedRun
import KeyedFlow.Proofs.WrittenPartitions
import KeyedFlow.Proofs.FixturePartitions
import KeyedFlow.Proofs.GeneratedFiles
import KeyedFlow.Proofs.ClosedLoop
import KeyedFlow.Proofs.GroupValues
import KeyedFlow.Proofs.CommandsAndMenu
import KeyedFlow.Proofs.LineNumbers
import KeyedFlow.Proofs.AppendedRows
import KeyedFlow.Proofs.OptionalHeader
import KeyedFlow.Proofs.ValidationInputs
import KeyedFlow.Proofs.TokenSpelling
import KeyedFlow.Proofs.WholeTrees
import KeyedFlow.Proofs.WrittenTrees
import KeyedFlow.Proofs.ProgramRoundTrip
import KeyedFlow.Proofs.EventTrace
import KeyedFlow.Proofs.Quotients
import KeyedFlow.Proofs.RationalQuotients
import KeyedFlow.Proofs.NamedStages
import KeyedFlow.Proofs.Vocabulary
import KeyedFlow.Proofs.StageMeaning
import KeyedFlow.Proofs.Replacement
import KeyedFlow.Proofs.MovedMaps
import KeyedFlow.Proofs.MovedFilters
import KeyedFlow.Proofs.WrittenCalls
import KeyedFlow.Proofs.FoldedMaps
import KeyedFlow.Proofs.DividedCalls
import KeyedFlow.Proofs.NumeralFaults
import KeyedFlow.Proofs.IntegerArguments
import KeyedFlow.Proofs.DocumentText
import KeyedFlow.Proofs.DocumentTrees
import KeyedFlow.Proofs.FieldReading
import KeyedFlow.Proofs.MissingFields
import KeyedFlow.Proofs.TwoFields
import KeyedFlow.Proofs.ConfigurationText
import KeyedFlow.Proofs.TableText
import KeyedFlow.Proofs.FailureContexts
