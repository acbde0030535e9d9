import Worklog.Histogram
import Worklog.Number.Figure
import Worklog.Table
import Worklog.Text.Lowercase

/-!
# Search metrics

`Metrics` counts searches: how many there were, how many were answered from the cache, how many
were slow, how long they took and how often each query was asked. Times and result counts are kept
for a window of the latest searches, everything else for all of them.
-/

namespace Worklog

/-- What is known about the searches so far. Times are in seconds. -/
structure Metrics where
  slowSeconds : Amount
  searches : Nat
  hits : Nat
  slow : Nat
  meanSeconds : Quantity
  seconds : List Amount
  counts : List Amount
  queries : Tally Text
  histogram : Histogram

namespace Metrics

/-- The time from which a search counts as slow, unless set otherwise. -/
def defaultSlowSeconds : Amount := .ofRat 1

/-- The length of the windows. -/
def window : Nat := 1000

/-- The number of queries that survive compaction. -/
def maxQueries : Nat := 100

/-- No searches yet. -/
def start (slowSeconds : Amount) : Metrics :=
  ⟨slowSeconds, 0, 0, 0, .finite 0, [], [], [], .ofBounds Histogram.responseBounds⟩

/-! ## 1. Recording -/

/-- The form under which a query is counted, if it is not blank. -/
def queryKey? (q : Text) : Option Text :=
  let key := Text.lower (Text.strip q)
  if key.isEmpty then none else some key

/-- Counts a search. -/
def withSearch (m : Metrics) (hit : Bool) : Metrics :=
  { m with searches := m.searches + 1, hits := if hit then m.hits + 1 else m.hits }

/-- The mean time after the last counted search took some time. -/
def meanWith (p : Precision) (m : Metrics) (seconds : Amount) : Except Fault Quantity := do
  return p.plus m.meanSeconds (p.ratio (← seconds.minus p m.meanSeconds) (m.searches : Nat))

/-- Enters the number of results and the time of the last counted search into the windows. -/
def withSample (m : Metrics) (mean : Quantity) (count seconds : Amount) : Metrics :=
  { m with
    meanSeconds := mean
    seconds := pushLatest window m.seconds seconds
    counts := pushLatest window m.counts count }

/-- Enters the time and the query of the last counted search into the statistics. -/
def withQuery (m : Metrics) (histogram : Histogram) (query : Text) (seconds : Amount) : Metrics :=
  { m with
    histogram
    slow := if m.slowSeconds.lt seconds then m.slow + 1 else m.slow
    queries := match queryKey? query with
      | some key => m.queries.up key
      | none => m.queries }

/-- **Records a search**: its query, the number of its results, its time, and whether the cache
    answered it. A time that is too large for the mean or for the histogram is a fault, and is
    recorded as far as it comes. -/
def record (p : Precision) (m : Metrics) (query : Text) (count seconds : Amount) (hit : Bool) :
    Metrics × Option Fault :=
  let m := m.withSearch hit
  match m.meanWith p seconds with
  | .error f => (m, some f)
  | .ok mean =>
    let m := m.withSample mean count seconds
    match m.histogram.record p (seconds.scale p 1000) with
    | .error f => ({ m with histogram.total := m.histogram.total + 1 }, some f)
    | .ok histogram => (m.withQuery histogram query seconds, none)

/-- **Forgets all but the most frequent queries.** -/
def compact (m : Metrics) : Metrics :=
  if maxQueries < m.queries.length then
    { m with queries := m.queries.mostCommon maxQueries }
  else m

/-! ## 2. Reports -/

/-- A part of the searches, zero without searches. -/
def rate (p : Precision) (m : Metrics) (part : Nat) : Rat :=
  if m.searches = 0 then 0 else p.div (part : Nat) (m.searches : Nat)

/-- The part of the searches that the cache answered. -/
def hitRate (p : Precision) (m : Metrics) : Rat := m.rate p m.hits

/-- The part of the searches that were slow. -/
def slowRate (p : Precision) (m : Metrics) : Rat := m.rate p m.slow

/-- The middle one of some amounts in order, or the mean of the two middle ones. -/
def middle (p : Precision) (ordered : List Amount) : Except Fault Amount := do
  let mid := ordered.length / 2
  let upper := (ordered[mid]?).getD (.whole 0)
  if ordered.length % 2 = 1 then return upper
  return .real (← (← ((ordered[mid - 1]?).getD (.whole 0)).add p upper).ratio p 2)

/-- The median time in the window, zero without searches. -/
def medianSeconds (p : Precision) (m : Metrics) : Except Fault Amount :=
  if m.seconds.isEmpty then .ok (.ofRat 0) else middle p (m.seconds.mergeSort Amount.le)

/-- The mean number of results in the window, zero without searches. -/
def meanCount (p : Precision) (m : Metrics) : Except Fault Quantity := do
  if m.counts.isEmpty then return .finite 0
  (← Amount.sum p m.counts).ratio p m.counts.length

/-- The queries asked most often. -/
def topQueries (m : Metrics) (limit : Int) : List Text := (m.queries.mostCommon limit).map (·.1)

/-- A part as a percentage with one decimal place. -/
def percentText (p : Precision) (part : Rat) : Text := Figure.fixed 1 (p.mul part 100) ++ ['%']

/-- **The metrics in words**, one line each. -/
def report (p : Precision) (m : Metrics) : Except Fault Text := do
  let median ← m.medianSeconds p
  let count ← m.meanCount p
  return Text.joinWith ['\n']
    ["Search Performance Metrics:".toList,
     "- Total Searches: ".toList ++ Text.ofNat m.searches,
     "- Cache Hit Rate: ".toList ++ percentText p (m.hitRate p),
     "- Average Search Time: ".toList ++ Figure.fixedOf 3 m.meanSeconds ++ ['s'],
     "- Median Search Time: ".toList ++ Figure.fixedAmount 3 median ++ ['s'],
     "- Average Result Count: ".toList ++ Figure.fixedOf 1 count,
     "- Slow Search Rate: ".toList ++ percentText p (m.slowRate p)]

/-- **The document of the metrics**, with rates to three decimal places, times to four and the mean
    number of results to one. -/
def toJson (p : Precision) (m : Metrics) : Except Fault Json := do
  let median ← m.medianSeconds p
  let count ← m.meanCount p
  return .obj [("total_searches", .int m.searches), ("cache_hits", .int m.hits),
    ("cache_hit_rate", .real (.finite (p.roundTo 3 (m.hitRate p)))),
    ("average_search_time", .real (p.rounded 4 m.meanSeconds)),
    ("median_search_time", .ofAmount (median.rounded p 4)),
    ("slow_search_count", .int m.slow),
    ("slow_search_rate", .real (.finite (p.roundTo 3 (m.slowRate p)))),
    ("average_result_count", .real (p.rounded 1 count)),
    ("latency_ms", ← m.histogram.toJson p (Json.ofString "search.total"))]

end Metrics

end Worklog
