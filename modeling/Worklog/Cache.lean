import Worklog.Panel
import Worklog.Number.Precision
import Worklog.Results

/-!
# The result cache

The cache keeps results under a normalized query and the settings of the panel. It holds a bounded
number of entries, oldest first; an entry expires a fixed time after it was made. Time is given as
seconds of a clock that never goes back.

* `Cache.get` looks results up and drops them if they have expired;
* `Cache.put` keeps results; when there is no room, expired entries go first, then the oldest;
* `Cache.invalidate` forgets everything after a change of records.
-/

namespace Worklog

/-- What results are kept under. -/
structure CacheKey where
  query : Text
  panel : PanelKey
  deriving DecidableEq

/-- Kept results. -/
structure CacheEntry where
  key : CacheKey
  results : Results
  created : Quantity

/-- What changed underneath the cache. -/
inductive Disturbance where
  | records (kind : RecordKind)
  | index
  deriving DecidableEq, Repr

/-- The kept results, oldest first. -/
structure Cache where
  capacity : Int
  lifetime : Amount
  entries : List CacheEntry

namespace Cache

/-- The greatest number of entries, unless set otherwise. -/
def defaultCapacity : Int := 50

/-- The seconds after which entries expire, unless set otherwise. -/
def defaultLifetime : Amount := .whole 300

/-- An empty cache. -/
def empty (capacity : Int) (lifetime : Amount) : Cache := ⟨capacity, lifetime, []⟩

/-- The number of entries. -/
def size (c : Cache) : Nat := c.entries.length

/-- Whether an entry has expired. -/
def isExpired (p : Precision) (c : Cache) (clock : Quantity) (e : CacheEntry) : Bool :=
  c.lifetime.lt (.real (p.minus clock e.created))

/-- Takes out the entry with a key. -/
def drop (c : Cache) (key : CacheKey) : Cache :=
  { c with entries := c.entries.filter fun e => decide (e.key ≠ key) }

/-- The entry with a key. -/
def find? (c : Cache) (key : CacheKey) : Option CacheEntry :=
  c.entries.find? fun e => decide (e.key = key)

/-- **Looks results up.** Expired results are dropped and not given. -/
def get (p : Precision) (c : Cache) (clock : Quantity) (key : CacheKey) : Cache × Option Results :=
  match c.find? key with
  | some e => if c.isExpired p clock e then (c.drop key, none) else (c, some e.results)
  | none => (c, none)

/-- Drops the expired entries. -/
def cleanup (p : Precision) (c : Cache) (clock : Quantity) : Cache :=
  { c with entries := c.entries.filter fun e => !c.isExpired p clock e }

/-- Whether there is no room for one more entry. -/
def isFull (c : Cache) : Bool := decide (c.capacity ≤ (c.size : Int))

/-- Drops the oldest entries until there is room for one more. -/
def makeRoom (c : Cache) : Cache :=
  { c with entries := c.entries.drop (c.size + 1 - c.capacity.toNat) }

/-- **Keeps results** in place of earlier ones under the same key. -/
def put (p : Precision) (c : Cache) (clock : Quantity) (key : CacheKey) (results : Results) :
    Cache :=
  let c := c.drop key
  let c := if c.isFull then c.cleanup p clock else c
  let c := c.makeRoom
  if c.capacity ≤ 0 then c else { c with entries := c.entries ++ [⟨key, results, clock⟩] }

/-- Forgets all entries. -/
def clear (c : Cache) : Cache := { c with entries := [] }

/-- Forgets all entries after a change of records; a change of the index alone matters not. -/
def invalidate (c : Cache) : Disturbance → Cache
  | .records _ => c.clear
  | .index => c

end Cache

end Worklog
