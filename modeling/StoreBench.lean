import StoreBench.Benchmark.Task
import StoreBench.Main
import StoreBench.Store.Scripted
import StoreBench.CommandLine.Directory
import StoreBench.Pattern.CharSet
import StoreBench.Pattern.Expression
import StoreBench.Text.Letter
import StoreBench.Pattern.Escape
import StoreBench.Pattern.ClassReading
import StoreBench.Pattern.Grammar
import StoreBench.Pattern.Search
import StoreBench.Pattern.Meaning
import StoreBench.Proofs.Benchmark.Barrier
import StoreBench.Proofs.Benchmark.LoadedTable
import StoreBench.Proofs.Benchmark.OnMachine
import StoreBench.Proofs.Checks
import StoreBench.Proofs.CommandLine.Overrides
import StoreBench.Proofs.Configured
import StoreBench.Proofs.Drawing.Cumulative
import StoreBench.Proofs.Drawing.Even
import StoreBench.Proofs.Drawing.FirstCandidate
import StoreBench.Proofs.Drawing.Frame
import StoreBench.Proofs.Drawing.Histories
import StoreBench.Proofs.Drawing.Newest
import StoreBench.Proofs.Drawing.Reweighed
import StoreBench.Proofs.Drawing.Scattered
import StoreBench.Proofs.Drawing.Targets
import StoreBench.Proofs.Drawing.Transactions
import StoreBench.Proofs.Interleaving.CaughtUp
import StoreBench.Proofs.Interleaving.CompleteRecords
import StoreBench.Proofs.Interleaving.Dispensed
import StoreBench.Proofs.Interleaving.History
import StoreBench.Proofs.Interleaving.Inserted
import StoreBench.Proofs.Interleaving.LoadCoverage
import StoreBench.Proofs.Interleaving.Loading
import StoreBench.Proofs.Interleaving.NewRecords
import StoreBench.Proofs.Interleaving.OperationsInMix
import StoreBench.Proofs.Interleaving.Schedules
import StoreBench.Proofs.Interleaving.Sequential
import StoreBench.Proofs.Interleaving.WholeRun
import StoreBench.Proofs.Keys.DistinctKeys
import StoreBench.Proofs.Naturals
import StoreBench.Proofs.Random.Seeds
import StoreBench.Proofs.Session.Calls
import StoreBench.Proofs.Session.Influence
import StoreBench.Proofs.Store.PlainMap
import StoreBench.Proofs.Sound
import StoreBench.Proofs.Store.Scanned
