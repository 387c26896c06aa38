/-
Counting requests.

The counters for requests, how long they took, and errors, with 64 bits each, and the text in which they are
exposed.
-/
import EntityHistory.Number.Decimal

namespace EntityHistory

/-- The counters. -/
structure Metrics where
  queries : UInt64 := 0
  /-- The sum of the durations in milliseconds. -/
  duration : UInt64 := 0
  limited : UInt64 := 0
  errors : UInt64 := 0
deriving DecidableEq, Repr, Inhabited

namespace Metrics

/-- Counts a request that was answered in so many milliseconds. -/
def recordQuery (duration : UInt64) (limited : Bool) (m : Metrics) : Metrics :=
  { m with
    queries := m.queries + 1
    duration := m.duration + duration
    limited := if limited then m.limited + 1 else m.limited }

/-- Counts an error. -/
def recordError (m : Metrics) : Metrics := { m with errors := m.errors + 1 }

/-- The lines for one measure. -/
def family (name help type : String) (values : List (String × String)) : List String :=
  ["# HELP " ++ name ++ " " ++ help, "# TYPE " ++ name ++ " " ++ type] ++
    values.map fun (suffix, value) => name ++ suffix ++ " " ++ value

/-- The sum of the durations in seconds. -/
def seconds (m : Metrics) : Double := (Double.ofInt m.duration.toNat).div (.ofInt 1000)

/-- The counters as they are exposed. -/
def text (m : Metrics) : String :=
  let count (n : UInt64) : String := toString n.toNat
  let lines :=
    family "temporal_queries_total" "Total temporal queries served" "counter" [("", count m.queries)] ++
    family "temporal_query_duration_seconds" "Temporal query duration in seconds" "summary"
      [("_sum", m.seconds.plainText), ("_count", count m.queries)] ++
    family "temporal_limited_responses_total" "Responses truncated by the instance governor" "counter"
      [("", count m.limited)] ++
    family "errors_total" "Total errors" "counter" [("", count m.errors)]
  String.join (lines.map (· ++ "\n"))

end Metrics

end EntityHistory
