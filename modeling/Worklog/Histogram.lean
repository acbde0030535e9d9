import Worklog.Fault
import Worklog.Json.Basic
import Worklog.Number.Amount

/-!
# Histograms

A histogram counts numbers in buckets with upper bounds: a number belongs to the first bucket whose
bound it does not exceed, or to the last bucket if it exceeds all. From the counts it estimates
percentiles as bounds of buckets.
-/

namespace Worklog

/-- A bucket: its upper bound and how many numbers it holds. -/
structure Bucket where
  bound : Amount
  count : Nat
  deriving DecidableEq

/-- Counts of numbers by size. -/
structure Histogram where
  buckets : List Bucket
  total : Nat
  sum : Amount
  deriving DecidableEq

namespace Histogram

/-- A histogram with some bounds and nothing in it. -/
def ofBounds (bounds : List Amount) : Histogram := ⟨bounds.map (⟨·, 0⟩), 0, .whole 0⟩

/-- The bounds for response times in milliseconds. -/
def responseBounds : List Amount :=
  ([10, 25, 50, 100, 200, 300, 500, 1000, 2000, 5000] : List Int).map .whole

/-- The bound of the bucket that a number belongs to. -/
def boundFor? (h : Histogram) (x : Amount) : Option Amount :=
  match h.buckets.find? fun b => x.le b.bound with
  | some b => some b.bound
  | none => h.buckets.getLast?.map (·.bound)

/-- The buckets after one more number in the bucket with a bound. -/
def countAt (bound : Amount) (buckets : List Bucket) : List Bucket :=
  buckets.map fun b => if b.bound.same bound then { b with count := b.count + 1 } else b

/-- **Counts a number.** A histogram without buckets has no place for it. -/
def record (p : Precision) (h : Histogram) (x : Amount) : Except Fault Histogram := do
  let sum ← h.sum.add p x
  match h.boundFor? x with
  | some bound => return ⟨countAt bound h.buckets, h.total + 1, sum⟩
  | none => throw .noSuchPosition

/-- The first bound at which a running count reaches a target. -/
def reach (target : Quantity) : Nat → List Bucket → Option Amount
  | _, [] => none
  | running, b :: rest =>
    if target.le (.ofNat (running + b.count)) then some b.bound
    else reach target (running + b.count) rest

/-- **A percentile**: the least bound up to which at least that part of the numbers lies, the last
    bound if there is none such, and zero if there are no numbers. -/
def percentile (p : Precision) (h : Histogram) (percent : Amount) : Except Fault Amount := do
  if h.total = 0 then return .whole 0
  let target := p.times (.ofNat h.total) (← percent.ratio p 100)
  match reach target 0 h.buckets with
  | some bound => return bound
  | none => return (h.buckets.getLast?.map (·.bound)).getD (.whole 0)

/-- The mean of the numbers to one decimal place, zero without numbers. -/
def mean (p : Precision) (h : Histogram) : Except Fault Amount := do
  if h.total = 0 then return .whole 0
  return .real (p.rounded 1 (← h.sum.ratio p h.total))

/-- **The document of a histogram**: its name, how many numbers there are, their mean and three
    percentiles. -/
def toJson (p : Precision) (name : Json) (h : Histogram) : Except Fault Json := do
  return .obj [("name", name), ("count", .int h.total), ("mean", .ofAmount (← h.mean p)),
    ("p50", .ofAmount (← h.percentile p (.whole 50))),
    ("p95", .ofAmount (← h.percentile p (.whole 95))),
    ("p99", .ofAmount (← h.percentile p (.whole 99)))]

end Histogram

end Worklog
