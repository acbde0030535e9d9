import Worklog.Index.Suggest
import Worklog.Session.Basic

/-!
# Upkeep

The index follows the store: it is built anew from a full read, or takes one changed record at a
time. Every change that reaches the session empties the cache, also one that could not be read.

* `Session.rebuild` builds the index anew; if the store cannot be read, all stays as it is;
* `Session.follow` takes over one change;
* `Session.cleanup` drops what has expired.

Failures enter the error log.
-/

namespace Worklog.Session

/-! ## 1. The index -/

/-- All records of the store. -/
def snapshot (store : Store) : Except Fault (List Record) := do
  let as ← store.all .activity
  let es ← store.all .timeEntry
  let ps ← store.all .project
  return as ++ es ++ ps

/-- Notes a failure of the index. -/
def noteIndexFault (d : Desk) (now : Moment) (f : Fault) (severity : Severity)
    (context : List (String × Json)) : Desk :=
  { d with errors := d.errors.record (Mishap.ofFault now "index" f severity context) }

/-- A desk without kept results. -/
def forgetResults (d : Desk) : Desk := { d with cache := d.cache.map Cache.clear }

/-- **Builds the index anew**, and says whether the store could be read. The index stays as it is
    if it cannot be built of the records that were read. -/
def rebuild (s : Session) (env : Surroundings) : Reply Bool :=
  match snapshot env.store with
  | .ok records =>
    match Index.build s.settings.index.titleSample env.now records with
    | (index, none) =>
      ⟨{ s with desk := forgetResults { s.desk with index } }, [.indexRebuilt index.size],
        .ok true⟩
    | (_, some flaw) => ⟨s, [], .error flaw⟩
  | .error f =>
    let fault : Fault := .unreadableRecords (f.message.getD [])
    ⟨{ s with desk := noteIndexFault s.desk env.now fault .high [] }, [], .ok false⟩

/-! ## 2. Changes -/

/-- The index after a change, and why it could not take the change over, if it could not: the
    record is read anew, and taken out if it is no longer there. -/
def indexAfter (i : Index) (env : Surroundings) (c : Change) : Index × Option Fault :=
  match c.operation with
  | .delete => (i.remove env.now c.kind c.id, none)
  | _ =>
    match env.store.fetch c.kind c.id with
    | .ok (some r) => i.add env.now r
    | .ok none => (i.remove env.now c.kind c.id, none)
    | .error f => (i, some f)

/-- A desk whose kept results no longer hold after a change. -/
def disturb (d : Desk) (kind : RecordKind) : Desk :=
  { d with cache := d.cache.map (·.invalidate (.records kind)) }

/-- **Takes over a change**, and says whether that was possible. -/
def follow (s : Session) (env : Surroundings) (c : Change) : Reply Bool :=
  let (index, flaw) := indexAfter s.desk.index env c
  let desk := { s.desk with index }
  match flaw with
  | none => ⟨{ s with desk := disturb desk c.kind }, [.indexUpdated c], .ok true⟩
  | some f =>
    let desk := noteIndexFault desk env.now f .medium [("record_id", .str c.id)]
    ⟨{ s with desk := disturb desk c.kind }, [], .ok false⟩

/-! ## 3. Memory -/

/-- The number of kept results. -/
def cacheSize (s : Session) : Nat := (s.desk.cache.map Cache.size).getD 0

/-- **Drops expired results** and the counts of rare queries, and says how many results went. -/
def cleanup (p : Precision) (s : Session) (env : Surroundings) : Session × Nat :=
  let cache := s.desk.cache.map (·.cleanup p env.clock)
  let after := { s with desk := { s.desk with cache, metrics := s.desk.metrics.compact } }
  (after, s.cacheSize - after.cacheSize)

/-- The terms emitted most often, as many as the settings ask for. -/
def commonTerms (s : Session) : List Text :=
  s.desk.index.commonTerms s.settings.index.commonTerms

end Worklog.Session
