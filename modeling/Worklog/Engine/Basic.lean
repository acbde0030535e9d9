import Worklog.Bus.Delivery
import Worklog.Session.Schedule
import Worklog.Session.Upkeep

/-!
# The search engine

The engine puts a session, the record store and an event bus together. What the session and the
store publish goes to the bus; the bus hands it to the listeners:

* the change feed takes changes of records over into the index;
* two counters count searches, failed searches and updates of the index;
* an observer keeps what it receives.

`Engine.start` starts the bus, subscribes the change feed and the counters, and builds the index;
each start subscribes them once more. `Engine.stop` clears the search and stops the bus.
-/

namespace Worklog

/-- Who listens to the bus. -/
inductive Listener where
  | changeFeed
  | searchCounter
  | updateCounter
  | observer
  deriving DecidableEq, Repr

/-- What the counters counted. -/
structure EngineCounts where
  searches : Nat
  failures : Nat
  updates : Nat
  deriving DecidableEq, Repr

/-- What the listeners act on. -/
structure Site where
  session : Session
  env : Surroundings
  counts : EngineCounts
  /-- What the observer received. -/
  seen : List (Event Notice)

/-- The search engine. -/
structure Engine where
  site : Site
  bus : Bus Listener Notice
  /-- Whether the store publishes its changes. -/
  linked : Bool
  started : Moment

/-! ## 1. Listeners -/

namespace Site

/-- A listener that is done and published nothing. -/
def quiet (w : Site) : Reaction Site Notice := ⟨w, [], .done⟩

/-- The change feed takes changes of records over. What others publish among the changes of records
    is passed over if it is an object, and cannot be dealt with if it is not. -/
def feed (w : Site) (e : Event Notice) : Reaction Site Notice :=
  match e.data with
  | .recordChanged c =>
    let r := w.session.follow w.env c
    ⟨{ w with session := r.session }, r.notices.map Notice.event, .done⟩
  | .foreign _ (.obj _) => w.quiet
  | .foreign _ _ => ⟨w, [], .failed⟩
  | _ => w.quiet

/-- The first counter tells failed searches from all other news about searches. -/
def countSearch (w : Site) (e : Event Notice) : Reaction Site Notice :=
  let c := w.counts
  let c := if e.topic = some "search.failed".toList then { c with failures := c.failures + 1 }
    else { c with searches := c.searches + 1 }
  { w with counts := c }.quiet

/-- The second counter counts updates of the index. -/
def countUpdate (w : Site) : Reaction Site Notice :=
  { w with counts := { w.counts with updates := w.counts.updates + 1 } }.quiet

/-- The observer keeps what it receives. -/
def observe (w : Site) (e : Event Notice) : Reaction Site Notice :=
  { w with seen := w.seen ++ [e] }.quiet

/-- What a listener does with an event. -/
def receive (l : Listener) (e : Event Notice) (w : Site) : Reaction Site Notice :=
  match l with
  | .changeFeed => w.feed e
  | .searchCounter => w.countSearch e
  | .updateCounter => w.countUpdate
  | .observer => w.observe e

/-- The listeners as an audience: all of them stay and can be called, and none takes its time. -/
def audience : Audience Site Listener Notice :=
  ⟨fun _ _ => true, fun _ _ _ => false, fun _ _ => false, receive⟩

end Site

namespace Engine

/-! ## 2. Building blocks -/

/-- An engine around a session and a store: nothing was published, and nobody listens. -/
def around (session : Session) (env : Surroundings) : Engine :=
  ⟨⟨session, env, ⟨0, 0, 0⟩, []⟩, .idle Bus.defaultCapacity, false, env.now⟩

/-- The session of an engine. -/
def session (e : Engine) : Session := e.site.session

/-- What surrounds the searches of an engine. -/
def env (e : Engine) : Surroundings := e.site.env

/-- An engine with another session. -/
def withSession (e : Engine) (s : Session) : Engine :=
  { e with site := { e.site with session := s } }

/-- An engine with other surroundings. -/
def withEnv (e : Engine) (env : Surroundings) : Engine := { e with site := { e.site with env } }

/-- An engine with another store. -/
def withStore (e : Engine) (store : Store) : Engine := e.withEnv { e.env with store }

/-- Publishes notices. -/
def publish (e : Engine) (ns : List Notice) : Engine :=
  { e with bus := e.bus.emitAll (ns.map Notice.event) }

/-- A listener subscribes. -/
def subscribe (e : Engine) (pattern : String) (l : Listener) : Engine :=
  { e with bus := e.bus.subscribe pattern.toList l }

/-- **A call of the session**, whose notices are published. -/
def act {α : Type} (e : Engine) (call : Session → Surroundings → Reply α) :
    Engine × Except Fault α :=
  let r := call e.session e.env
  ((e.withSession r.session).publish r.notices, r.answer)

/-- Publishes a change of the store, if the store is linked to the bus. -/
def announce (e : Engine) (c : Change) : Engine :=
  if e.linked then e.publish [.recordChanged c] else e

/-! ## 3. The store -/

/-- **Writes a record.** -/
def upsert (e : Engine) (r : Record) : Engine × Change :=
  let (store, c) := e.env.store.upsert r
  ((e.withStore store).announce c, c)

/-- **Deletes a record**, if it is there. -/
def delete (e : Engine) (kind : RecordKind) (id : Text) : Engine × Option Change :=
  let (store, c?) := e.env.store.delete kind id
  let e := e.withStore store
  match c? with
  | some c => (e.announce c, some c)
  | none => (e, none)

/-! ## 4. Time -/

/-- **Lets some milliseconds pass** for the scheduled search. -/
def elapse (p : Precision) (e : Engine) (ms : Rat) : Engine :=
  let (s, ns) := e.session.elapse p e.env ms
  (e.withSession s).publish ns

/-- Waits until every published notice was handed out, `bound` steps at most, and says whether
    that came true. Scheduled searches whose time has come are carried out. -/
def join (p : Precision) (bound : Nat) (e : Engine) : Engine × Bool :=
  let ((site, bus), done) := Bus.join Site.audience bound (e.site, e.bus)
  ({ e with site, bus }.elapse p 0, done)

/-- **The search engine starts**; its index may come to a fault. -/
def start (e : Engine) : Engine × Except Fault Bool :=
  let e := { e with linked := true, bus := e.bus.start }
  let e := e.subscribe "record.*" .changeFeed
  let e := e.subscribe "search.*" .searchCounter
  let e := e.subscribe "index.updated" .updateCounter
  e.act Session.rebuild

/-- **The search engine stops.** A search that waited is given up, which it notices while the bus
    comes to rest. -/
def stop (e : Engine) : Engine :=
  let s := e.session.clear
  let e := e.withSession (if e.bus.running then s.settle else s)
  let (site, bus) := Bus.stop Site.audience (e.site, e.bus)
  { e with site, bus }

end Engine

end Worklog
