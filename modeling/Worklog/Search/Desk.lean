import Worklog.Cache
import Worklog.ErrorLog
import Worklog.Metrics
import Worklog.Query.Verdict
import Worklog.Search.Basic

/-!
# The search desk

The desk answers queries. It holds the index, the result cache if there is one, the metrics and the
error log. `Desk.execute` answers one query:

* a query that is refused is answered with the reason;
* a query that comes to nothing, with a panel on which nothing is set, finds nothing;
* results that the cache still has are given from it;
* otherwise the search is planned and carried out, and its results are cached. A failing store is
  noted in the error log and answered with its words.

Every answered search but the first two kinds and failures enters the metrics. A panel without a
key cannot be looked up in the cache, and a time that the metrics cannot take is a fault.
-/

namespace Worklog

/-- What a search is surrounded by: the records, and the readings of three clocks -- the wall
    clock, the clock of the cache, and the time that the search takes. -/
structure Surroundings where
  store : Store
  now : Moment
  clock : Quantity
  elapsed : Amount

/-- The state of the desk. -/
structure Desk where
  index : Index
  cache : Option Cache
  metrics : Metrics
  errors : ErrorLog

namespace Desk

/-- What a search reads. -/
def sources (d : Desk) (s : Surroundings) : Search.Sources := ⟨s.store, d.index, s.now⟩

/-- What results are kept under, if there is a cache. -/
def key (d : Desk) (q : Text) (f : Panel) : Except Fault (Option CacheKey) :=
  if d.cache.isSome then do return some ⟨q, ← f.key⟩ else .ok none

/-- Looks results up in the cache. -/
def lookUp (p : Precision) (d : Desk) (s : Surroundings) (key : Option CacheKey) :
    Desk × Option Results :=
  match d.cache, key with
  | some c, some key =>
    let (c, found) := c.get p s.clock key
    ({ d with cache := some c }, found)
  | _, _ => (d, none)

/-- Enters an answered search into the metrics, and answers it. -/
def count (p : Precision) (d : Desk) (s : Surroundings) (q : Text) (r : Results) (hit : Bool) :
    Desk × Except Fault Results :=
  let (metrics, flaw) := d.metrics.record p q (.whole r.total) s.elapsed hit
  ({ d with metrics }, match flaw with
    | none => .ok r
    | some f => .error f)

/-- Keeps results in the cache. -/
def keep (p : Precision) (d : Desk) (s : Surroundings) (key : Option CacheKey) (r : Results) :
    Desk :=
  match key with
  | some key => { d with cache := d.cache.map (·.put p s.clock key r) }
  | none => d

/-- Notes a failed search and answers it. -/
def fail (d : Desk) (s : Surroundings) (asked : Json) (path : SearchPath) (c : Complexity)
    (f : Fault) : Desk × Results :=
  let mishap := Mishap.ofFault s.now "search" f .high
    [("query", asked), ("path", Json.ofString path.name)]
  ({ d with errors := d.errors.record mishap },
    { Results.failed ("Search failed: ".toList ++ f.message.getD []) with
      path := some path, complexity := some c })

/-- Plans and carries out a search in normal form; `asked` is the query as it was asked. -/
def search (p : Precision) (d : Desk) (s : Surroundings) (asked : Json) (q : Text) (f : Panel)
    (key : Option CacheKey) : Desk × Except Fault Results :=
  let path := Plan.path q f
  let c := Plan.complexity q f d.index.size.items
  match Search.run p (d.sources s) q f path with
  | .ok r =>
    let r := { r with path := some path, complexity := some c }
    (d.keep p s key r).count p s q r false
  | .error fault =>
    let (d, r) := d.fail s asked path c fault
    (d, .ok r)

/-- Answers a query that was accepted or is blank. -/
def answer (p : Precision) (d : Desk) (s : Surroundings) (asked : Json) (query : Text)
    (f : Panel) : Desk × Except Fault Results :=
  let q := Query.normalize query
  if q.isEmpty && !f.isActive then (d, .ok .empty)
  else
    match d.key q f with
    | .error fault => (d, .error fault)
    | .ok key =>
      match d.lookUp p s key with
      | (d, some r) =>
        let (d, answer) := d.count p s q r true
        (d, answer.map fun r => { r with fromCache := true })
      | (d, none) => d.search p s asked q f key

/-- The reason for which a query is refused; blank queries pass. -/
def refusal (p : Precision) (now : Moment) (query : Text) : Except Fault (Option Query.Refusal) :=
  if Text.isBlankText query then .ok none else Query.verdict p now query

/-- **Answers a query** under the settings of a panel. The query should be a text; what counts as
    not given is answered like the empty text. -/
def execute (p : Precision) (d : Desk) (s : Surroundings) (asked : Json) (f : Panel) :
    Desk × Except Fault Results :=
  match asked.searchable with
  | .error fault => (d, .error fault)
  | .ok query =>
    match refusal p s.now query with
    | .error fault => (d, .error fault)
    | .ok (some r) => (d, .ok (.failed r.message))
    | .ok none => d.answer p s asked query f

end Desk

end Worklog
