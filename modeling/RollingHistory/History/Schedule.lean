import RollingHistory.History.Interleaved

/-!
Running overlapping appends on one thread.

An append is polled: it runs until it has made a call or cannot go on, and only the next poll brings
the answer. `roundRobin` polls a list of appends in turn until all are over; `watch` polls a single
one and notes what a reader would see at each suspension, giving the append up at a chosen one.
-/

namespace RollingHistory

namespace Phase

/-- The append has made a call and waits for the answer. -/
def isAwaiting : Phase → Bool
  | .awaiting .. => true
  | _ => false

/-- The append will not go on. -/
def isOver : Phase → Bool
  | .finished _ | .cancelled => true
  | _ => false

/-- The outcome of an append that is finished. -/
def outcome? : Phase → Option Outcome
  | .finished outcome => some outcome
  | _ => none

end Phase

namespace Shared

variable (setup : Setup) (backend : Backend)

/-- Takes the answer of the call made before. -/
def answer (s : Shared) (ticket : Ticket) : Shared :=
  if (s.phases ticket).isAwaiting then s.step setup backend ticket else s

/-- A step that does not wait for an answer. -/
def advance (s : Shared) (ticket : Ticket) : Shared :=
  if (s.phases ticket).isAwaiting then s else s.step setup backend ticket

/-- Runs an append until it is suspended or over. It has at most three steps to make: taking the
gate, extending the contents, and a call or the commit. -/
def poll (s : Shared) (ticket : Ticket) : Shared :=
  (List.replicate 3 ticket).foldl (advance setup backend) (answer setup backend s ticket)

/-- Polls the appends in turn, as often as it takes but not more than `rounds` times. -/
def pollAll : Nat → List Ticket → Shared → Shared
  | 0, _, s => s
  | rounds + 1, tickets, s =>
    if tickets.all fun ticket => (s.phases ticket).isOver then s
    else pollAll rounds tickets (tickets.foldl (poll setup backend) s)

/-- Submits the batches in order and polls them in turn until all are over. An append is over after
three polls with the gate in hand, and the gate passes from each to the next. -/
def roundRobin (s : Shared) (batches : List (List Message)) : Shared :=
  let tickets := List.range batches.length
  let submitted := (tickets.zip batches).foldl (fun s (ticket, batch) => s.submit ticket batch) s
  pollAll setup backend (3 * batches.length) tickets submitted

/-- Polls one append until it is over, at most `polls` times, and collects the contents seen at its
suspensions. At the suspension with the number `cancelAt` it is given up. -/
def watch (ticket : Ticket) (cancelAt : Option Nat) :
    Nat → List Contents → Shared → Shared × List Contents
  | 0, seen, s => (s, seen)
  | polls + 1, seen, s =>
    let s := poll setup backend s ticket
    if (s.phases ticket).isAwaiting then
      let seen := seen ++ [s.contents]
      if cancelAt = some seen.length then (s.cancel ticket, seen)
      else watch ticket cancelAt polls seen s
    else (s, seen)

/-- One append by itself, watched. It makes at most two calls, so three polls see it through. -/
def observe (s : Shared) (batch : List Message) (cancelAt : Option Nat) : Shared × List Contents :=
  watch setup backend 0 cancelAt 3 [] (s.submit 0 batch)

end Shared

end RollingHistory
