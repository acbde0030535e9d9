import Worklog.Json.Basic
import Worklog.Table

/-!
# The event bus

Events travel from those who publish them to those who subscribed to their topic. The bus queues
events and hands them out one at a time, in the order in which they were published. The queue may be
bounded; an event that finds it full is dropped and counted.

A subscription is to a pattern: a topic, a topic with `.*` behind it for everything below it, or `*`
for everything. Subscribers are given by keys of some type `η`, and events carry data of some type
`δ`, so that the bus depends on neither. Whoever publishes may put something in the place of a topic
that is no text; it cannot be compared with every pattern.

This file fixes patterns, subscriptions, the queue and the counts; `Bus.Delivery` hands events out.
-/

namespace Worklog

/-- An event: its topic, what it carries, and who published it. There is no topic if something
    other than a text stands in its place. -/
structure Event (δ : Type) where
  topic : Option Text
  data : δ
  source : Option Text

namespace Topic

/-- Whether a pattern is for everything below a topic. -/
def isBranch (pattern : Text) : Bool := ".*".toList.isSuffixOf pattern

/-- **Whether a topic matches a pattern.** Only a text can be compared with a pattern for everything
    below a topic, so that there is no answer for anything else. -/
def isMatch? (pattern : Text) (topic : Option Text) : Option Bool :=
  if pattern = ['*'] then some true
  else if isBranch pattern then topic.map pattern.dropLast.isPrefixOf
  else some (topic == some pattern)

/-- Whether a topic is known to match a pattern. -/
def isMatch (pattern : Text) (topic : Option Text) : Bool := (isMatch? pattern topic).getD false

/-- Whether a topic cannot be compared with a pattern. -/
def isClash (pattern : Text) (topic : Option Text) : Bool := (isMatch? pattern topic).isNone

@[simp] theorem isMatch_star (topic : Option Text) : isMatch ['*'] topic = true := rfl

/-- **What cannot be compared**: no text, with a pattern for everything below a topic. -/
theorem isClash_eq (pattern : Text) (topic : Option Text) :
    isClash pattern topic = (topic.isNone && isBranch pattern) := by
  unfold isClash isMatch?
  split
  next hstar =>
    subst hstar
    exact (Bool.and_false _).symm
  next =>
    split
    next hbranch => rw [hbranch, Option.isNone_map, Bool.and_true]
    next hbranch => rw [Bool.eq_false_iff.mpr hbranch, Bool.and_false, Option.isNone_some]

end Topic

/-- How many events were accepted, refused and handed out, how often handing out broke off, and how
    often a subscriber failed. -/
structure BusCounts where
  emitted : Nat
  dropped : Nat
  processed : Nat
  aborted : Nat
  failures : Nat
  deriving DecidableEq, Repr

/-- No events yet. -/
def BusCounts.zero : BusCounts := ⟨0, 0, 0, 0, 0⟩

/-- The document of the counts; what was never counted is left out. -/
def BusCounts.toJson (c : BusCounts) : Json :=
  let counts := [("emitted", c.emitted), ("dropped", c.dropped), ("processed", c.processed),
    ("processing_errors", c.aborted), ("handler_errors", c.failures)]
  .obj ((counts.filter (·.2 != 0)).map fun e => (e.1, .int e.2))

/-- The state of the task that hands events out. -/
inductive Processor where
  /-- There is none. -/
  | none
  /-- It was started and has not run yet. -/
  | started
  /-- It waits for the next event. -/
  | waiting
  deriving DecidableEq, Repr

/-- The event bus. -/
structure Bus (η δ : Type) where
  /-- The greatest number of queued events; the queue is unbounded if it is not positive. -/
  capacity : Int
  /-- The subscribers of each pattern, in the order of their subscriptions. -/
  subscribers : Table Text (List η)
  queue : List (Event δ)
  running : Bool
  processor : Processor
  counts : BusCounts

namespace Bus

variable {η δ : Type}

/-- The bound of the queue, unless set otherwise. -/
def defaultCapacity : Int := 1000

/-- A bus without subscribers and events, not running. -/
def idle (capacity : Int) : Bus η δ := ⟨capacity, [], [], false, .none, .zero⟩

/-! ## 1. Subscriptions -/

/-- **Subscribes** to a pattern; a second subscription counts of its own. -/
def subscribe (b : Bus η δ) (pattern : Text) (h : η) : Bus η δ :=
  { b with subscribers := b.subscribers.put pattern (b.subscribers.getD pattern [] ++ [h]) }

/-- **Ends all subscriptions** of a subscriber to a pattern, and those of subscribers that are
    gone. -/
def unsubscribe [DecidableEq η] (b : Bus η δ) (isAlive : η → Bool) (pattern : Text) (h : η) :
    Bus η δ :=
  let left := (b.subscribers.getD pattern []).filter fun s => isAlive s && decide (s ≠ h)
  { b with subscribers := b.subscribers.put pattern left }

/-! ## 2. The queue -/

/-- Whether the queue has no room. -/
def isFull (b : Bus η δ) : Bool :=
  decide (0 < b.capacity) && decide (b.capacity ≤ (b.queue.length : Int))

/-- **Publishes an event**: it is queued, or dropped if the queue is full. -/
def emit (b : Bus η δ) (e : Event δ) : Bus η δ :=
  if b.isFull then { b with counts := { b.counts with dropped := b.counts.dropped + 1 } }
  else
    { b with
      queue := b.queue ++ [e]
      counts := { b.counts with emitted := b.counts.emitted + 1 } }

/-- Publishes events one after the other. -/
def emitAll (b : Bus η δ) (es : List (Event δ)) : Bus η δ := es.foldl emit b

/-- Sets the counts to zero. -/
def resetCounts (b : Bus η δ) : Bus η δ := { b with counts := .zero }

/-- An event that finds room is queued last. -/
theorem queue_emit (b : Bus η δ) (e : Event δ) :
    (b.emit e).queue = if b.isFull then b.queue else b.queue ++ [e] := by
  unfold emit
  split <;> rfl

/-! ## 3. Starting -/

/-- **Starts the bus.** A running bus stays as it is. -/
def start (b : Bus η δ) : Bus η δ :=
  if b.running then b else { b with running := true, processor := .started }

end Bus

end Worklog
