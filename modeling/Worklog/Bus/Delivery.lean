import Worklog.Bus.Basic

/-!
# Handing events out

The subscribers live in some world `ω`, which they change when they receive an event; they may
publish events in turn, and they may fail or give up. A subscriber may also be one that cannot be
called with an event at all. `Audience` says how.

* `Bus.calls` says who is called with an event, and whether everybody could be who should;
* `Bus.dispatch` hands one event to those who are called;
* `Bus.step` takes the next event from the queue and dispatches it;
* `Bus.join` takes as many steps as the queue needs, and `Bus.stop` finishes.

All subscribers are called before the first of them acts. When a call fails, those that were called
act all the same before the next event is taken, but nobody waits for them any more.
-/

namespace Worklog

/-- How a subscriber ends that has received an event. -/
inductive Upshot where
  | done
  | failed
  /-- It gave up, which is no failure. -/
  | cancelled
  deriving DecidableEq, Repr

/-- What happens when a subscriber receives an event. -/
structure Reaction (ω δ : Type) where
  world : ω
  /-- The events that the subscriber publishes in turn. -/
  emitted : List (Event δ)
  upshot : Upshot

/-- The subscribers of a bus: which of them are still there, which of them cannot be called with an
    event, which of them take their time and act after the others, and what they do. -/
structure Audience (ω η δ : Type) where
  isAlive : ω → η → Bool
  refuses : ω → Event δ → η → Bool
  isSlow : ω → η → Bool
  receive : η → Event δ → ω → Reaction ω δ

namespace Bus

variable {ω η δ : Type}

/-! ## 1. One event -/

/-- The subscribers of all patterns that match a topic, pattern by pattern. -/
def listeners (b : Bus η δ) (topic : Option Text) : List η :=
  (b.subscribers.filter fun e => Topic.isMatch e.1 topic).flatMap (·.2)

/-- Whether a topic cannot be compared with one of the patterns. -/
def clashes (b : Bus η δ) (topic : Option Text) : Bool :=
  b.subscribers.any fun e => Topic.isClash e.1 topic

/-- **Who is called with an event**, and whether that is everybody who should be: the live
    subscribers of matching patterns up to the first that cannot be called, and nobody if the topic
    cannot be compared with a pattern. -/
def calls (a : Audience ω η δ) (w : ω) (b : Bus η δ) (e : Event δ) : List η × Bool :=
  if b.clashes e.topic then ([], false)
  else
    let live := (b.listeners e.topic).filter (a.isAlive w)
    (live.takeWhile (!a.refuses w e ·), !live.any (a.refuses w e))

/-- Some subscribers in the order in which they act. -/
def inTurn (a : Audience ω η δ) (w : ω) (hs : List η) : List η :=
  hs.filter (!a.isSlow w ·) ++ hs.filter (a.isSlow w)

/-- A pattern with its subscribers, but for those that are gone if a topic matches it. -/
def clear (a : Audience ω η δ) (w : ω) (topic : Option Text) (s : Text × List η) : Text × List η :=
  if Topic.isMatch s.1 topic then (s.1, s.2.filter (a.isAlive w)) else s

/-- Forgets subscribers of matching patterns that are gone, up to a pattern with which the topic
    cannot be compared. -/
def forget (a : Audience ω η δ) (w : ω) (b : Bus η δ) (topic : Option Text) : Bus η δ :=
  let (before, behind) := b.subscribers.span fun s => !Topic.isClash s.1 topic
  { b with subscribers := before.map (clear a w topic) ++ behind }

/-- One subscriber acts on an event. -/
def hand (a : Audience ω η δ) (e : Event δ) (state : ω × Bus η δ) (h : η) : ω × Bus η δ :=
  let r := a.receive h e state.1
  (r.world, state.2.emitAll r.emitted)

/-- One subscriber acts on an event, and its failure is counted. -/
def give (a : Audience ω η δ) (e : Event δ) (state : ω × Bus η δ) (h : η) : ω × Bus η δ :=
  let (w, b) := hand a e state h
  let failed := (a.receive h e state.1).upshot = .failed
  (w, { b with counts := { b.counts with
    failures := b.counts.failures + if failed then 1 else 0 } })

/-- **Hands an event to every live subscriber whose pattern matches**, and says whether everybody
    could be called. If not, those that were called act without being waited for, and nobody counts
    their failures. -/
def dispatch (a : Audience ω η δ) (state : ω × Bus η δ) (e : Event δ) : (ω × Bus η δ) × Bool :=
  let (w, b) := state
  let (hs, whole) := calls a w b e
  ((inTurn a w hs).foldl (if whole then give a e else hand a e) (w, forget a w b e.topic), whole)

/-- Counts an event that was handed out, to everybody or not. -/
def conclude (b : Bus η δ) (whole : Bool) : Bus η δ :=
  { b with counts :=
    if whole then { b.counts with processed := b.counts.processed + 1 }
    else { b.counts with aborted := b.counts.aborted + 1 } }

/-- **Takes the next event from the queue** and dispatches it; with an empty queue nothing
    happens. -/
def step (a : Audience ω η δ) (state : ω × Bus η δ) : ω × Bus η δ :=
  let (w, b) := state
  match b.queue with
  | [] => (w, b)
  | e :: rest =>
    let ((w, b), whole) := dispatch a (w, { b with queue := rest }) e
    (w, b.conclude whole)

/-! ## 2. Runs -/

/-- Takes steps until the queue is empty, `bound` at most. -/
def drain (a : Audience ω η δ) : Nat → ω × Bus η δ → ω × Bus η δ
  | 0, state => state
  | bound + 1, state => if state.2.queue.isEmpty then state else drain a bound (step a state)

/-- A running processor waits for the next event once it had its turn. -/
def settle (b : Bus η δ) : Bus η δ := if b.running then { b with processor := .waiting } else b

/-- **Waits until every queued event was handed out**, and says whether that came true. A bus that
    does not run hands nothing out. -/
def join (a : Audience ω η δ) (bound : Nat) (state : ω × Bus η δ) : (ω × Bus η δ) × Bool :=
  if state.2.running then
    let (w, b) := drain a bound state
    ((w, b.settle), b.queue.isEmpty)
  else (state, state.2.queue.isEmpty)

/-- **Stops the bus.** A processor that waits for an event still hands one out if there is one. -/
def stop (a : Audience ω η δ) (state : ω × Bus η δ) : ω × Bus η δ :=
  let (w, b) := state
  let waited := b.processor
  let state := (w, { b with running := false, processor := .none })
  match waited with
  | .waiting => step a state
  | _ => state

end Bus

end Worklog
