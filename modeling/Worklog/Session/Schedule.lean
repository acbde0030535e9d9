import Worklog.Session.Basic

/-!
# Delayed searches

While a query is typed, searches are scheduled rather than carried out: each takes the place of the
one before it, and only the one that no other followed in time is carried out.

* `Session.schedule` schedules a search for the present query;
* `Session.elapse` lets time pass, and carries out the search whose time has come.
-/

namespace Worklog.Session

/-- The milliseconds for which the search that waits still waits, if one does. -/
def due? (s : Session) : Option Rat := s.tickets.findSome? Ticket.left?

/-- The delay of a search, unless it is too long to be told in seconds. -/
def delay (p : Precision) (s : Session) : Except Fault Rat := do
  let ms := s.settings.search.debounceMs
  let _ ← (Amount.whole ms).ratio p 1000
  return ms

/-- **Schedules a search**, in place of one that waits, and says whether there was anything to
    search for. -/
def schedule (p : Precision) (s : Session) (query : Json) : Session × Except Fault Bool :=
  let s := s.aim query
  match s.hasCriteria with
  | .ok true =>
    match s.delay p with
    | .ok ms => ({ s with tickets := s.tickets ++ [.waiting ms] }, .ok true)
    | .error f => (s, .error f)
  | .ok false => (s.clearResults, .ok false)
  | .error f => (s, .error f)

/-- **Lets some milliseconds pass.** -/
def elapse (p : Precision) (s : Session) (env : Surroundings) (ms : Rat) :
    Session × List Notice :=
  let s := s.settle
  match s.due? with
  | none => (s, [])
  | some left =>
    if left ≤ ms then
      let r := { s with tickets := s.tickets.map Ticket.finish }.perform p env
      (r.session, r.notices)
    else ({ s with tickets := s.tickets.map (Ticket.wait ms) }, [])

end Worklog.Session
