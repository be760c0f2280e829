import Std.Data.HashMap

/-! # Budgets of clients

Each client may send a fixed number of requests — the **budget** — in a **window** of one
minute that starts with the first request of the client after its last window ended.  A
refused request changes nothing: it neither counts nor prolongs the window.

The table of windows grows with the clients, so a request that finds many of them first
drops every window that has ended.  Such a window would be started anew at the next
request of its client, so nobody can tell that it was dropped.

Times are milliseconds.  A window that seems to start later than now is as old as zero.
-/
namespace PairQuote

/-- A client's current window: when it started and how many requests it let pass. -/
structure Window where
  started : Nat
  requests : Nat
  deriving DecidableEq, Repr, Inhabited

namespace Window

/-- The length of a window. -/
def length : Nat := 60000

/-- Whether a window has not ended at a time. -/
def isLive (now : Nat) (w : Window) : Bool := now - w.started < length

/-- The window that starts now. -/
def start (now : Nat) : Window := ⟨now, 0⟩

end Window

/-- The budget and the windows of the clients. -/
structure Limiter where
  budget : Nat
  windows : Std.HashMap String Window := ∅

namespace Limiter

/-- From how many clients on ended windows are dropped. -/
def pruneThreshold : Nat := 10000

/-- A limiter that has seen nobody. -/
def new (budget : Nat) : Limiter := { budget := budget }

/-- How many clients have a window. -/
def tracked (l : Limiter) : Nat := l.windows.size

/-- Drops the windows that have ended, if there are many. -/
def prune (now : Nat) (l : Limiter) : Limiter :=
  if l.tracked < pruneThreshold then l
  else { l with windows := l.windows.filter fun _ w => w.isLive now }

/-- The window a request of a client falls into. -/
def windowFor (l : Limiter) (client : String) (now : Nat) : Window :=
  match l.windows[client]? with
  | some w => if w.isLive now then w else Window.start now
  | none => Window.start now

/-- Counts a request of a client, if its budget is not spent; says whether it passes. -/
def charge (l : Limiter) (client : String) (now : Nat) : Bool × Limiter :=
  let l := l.prune now
  let w := l.windowFor client now
  if w.requests < l.budget then
    (true, { l with windows := l.windows.insert client { w with requests := w.requests + 1 } })
  else
    (false, { l with windows := l.windows.insert client w })

/-- Looks at requests in turn, each a client and a time. -/
def run (l : Limiter) : List (String × Nat) → List Bool × Limiter
  | [] => ([], l)
  | (client, now) :: rest =>
    let (allowed, l) := l.charge client now
    let (answers, l) := l.run rest
    (allowed :: answers, l)

end Limiter

end PairQuote
