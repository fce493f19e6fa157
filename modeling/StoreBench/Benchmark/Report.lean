import StoreBench.Benchmark.Measurement
import StoreBench.Benchmark.Phase
import StoreBench.Decimal.Places

namespace StoreBench

/-! The results of a phase, and the lines that are printed for them. -/

structure Report where
  phase : Phase
  store : String
  threads : Nat
  requested : Nat
  executed : Nat
  ok : Nat
  tallies : Tallies
  /-- In nanoseconds. -/
  duration : Nat
  latency? : Option Histogram

namespace Report

def ofMeasurements (phase : Phase) (store : String) (benchmark : Benchmark) (requested : Nat)
    (duration : Nat) (measurements : List Measurement) : Report :=
  let total := Measurement.total benchmark.latency measurements
  { phase, store, threads := benchmark.threads, requested
    executed := total.tallies.executed, ok := total.tallies.ok, tallies := total.tallies
    duration, latency? := total.latency? }

def tally (report : Report) (operation : Operation) : Tally := report.tallies.of operation

/-! ## Figures -/

def measure (number : Nat) : Float := (UInt64.ofNat number).toFloat

def seconds (report : Report) : Float :=
  measure (report.duration / 1000000000) + measure (report.duration % 1000000000) / 1000000000

/-- Thousands of executed operations in a second. -/
def throughput (report : Report) : Float :=
  if 0 < report.seconds then measure report.executed / report.seconds / 1000 else 0

/-! ## Lines -/

def named (name value : String) : String := name ++ " " ++ value

def latencyFigures (histogram : Histogram) : List String :=
  let micros (name : String) (nanos : Float) := named name (Decimal.twoPlaces (nanos / 1000))
  [micros "min_us" (measure histogram.least), micros "max_us" (measure histogram.greatest),
    micros "avg_us" histogram.mean, micros "p50_us" (measure (histogram.quantile 0.50)),
    micros "p95_us" (measure (histogram.quantile 0.95)),
    micros "p99_us" (measure (histogram.quantile 0.99)),
    micros "p999_us" (measure (histogram.quantile 0.999))]

def summary (report : Report) : String :=
  " ".intercalate (
    [named "phase" report.phase.name, named "store" report.store,
      named "threads" (toString report.threads),
      named "duration" (Decimal.twoPlaces report.seconds),
      named "total" (toString report.requested),
      named "executed" (toString report.executed), named "ok" (toString report.ok),
      named "ktps" (Decimal.twoPlaces report.throughput)] ++
    (report.latency?.map latencyFigures).getD [])

def breakdown (report : Report) : List String :=
  (Operation.all.filter fun operation => 0 < (report.tally operation).executed).map
    fun operation => " ".intercalate
      [named "phase" report.phase.name, named "op" operation.name,
        named "executed" (toString (report.tally operation).executed),
        named "ok" (toString (report.tally operation).ok)]

def lines (report : Report) : Verbosity → List String
  | .hidden => []
  | .finish => [report.summary]
  | .all => report.summary :: report.breakdown

end Report
end StoreBench
