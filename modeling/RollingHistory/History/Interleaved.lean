import RollingHistory.History.Append

/-!
Appends that overlap in time.

Every append has a ticket. It waits in a queue for the gate, and holds the gate from then until it
is over; while a capability works on its answer, others may read the contents but none may append.
`Shared.apply` is one atomic step of one append, or an append being submitted or given up, so a
list of events is an interleaving. A step that is not possible changes nothing.
-/

namespace RollingHistory

/-- The name of an append among others. -/
abbrev Ticket := Nat

/-- How far an append has come. After it has extended the contents, the segment to shed goes with
it until it is over. -/
inductive Phase where
  | idle
  | waiting (batch : List Message)
  | holding (batch : List Message)
  | working (segment : List Message) (round : Dialogue Call Reply Round)
  | awaiting (segment : List Message) (reply : Reply) (resume : Reply → Dialogue Call Reply Round)
  | finished (outcome : Outcome)
  | cancelled

/-- Contents that several appends work on: who holds the gate, who waits for it in which order, how
far each has come, who is finished in which order, and all calls and records so far. -/
structure Shared where
  contents : Contents
  holder : Option Ticket
  queue : List Ticket
  phases : Ticket → Phase
  completed : List Ticket
  calls : List Call
  records : List LogRecord

/-- What can happen: an append is submitted, makes its next step, or is given up. -/
inductive Event where
  | submit (ticket : Ticket) (batch : List Message)
  | step (ticket : Ticket)
  | cancel (ticket : Ticket)

namespace Shared

/-- Nobody is appending. The backend remembers the earlier calls. -/
def start (contents : Contents) (earlier : List Call) : Shared :=
  { contents, holder := none, queue := [], phases := fun _ => .idle, completed := []
    calls := earlier, records := [] }

/-- The append is in another phase. -/
def withPhase (s : Shared) (ticket : Ticket) (phase : Phase) : Shared :=
  { s with phases := fun t => if t = ticket then phase else s.phases t }

/-- The append takes the gate if it is free and nobody has waited longer. -/
def acquire (s : Shared) (ticket : Ticket) (batch : List Message) : Shared :=
  match s.holder, s.queue with
  | none, first :: others =>
    if first = ticket then
      { s with holder := some ticket, queue := others }.withPhase ticket (.holding batch)
    else s
  | _, _ => s

/-- The append is over and leaves the gate. -/
def finish (s : Shared) (ticket : Ticket) (outcome : Outcome) : Shared :=
  { s with holder := none, completed := s.completed ++ [ticket] }.withPhase ticket
    (.finished outcome)

/-- The batch joins the contents. If they are not too long, that was all. -/
def extend (setup : Setup) (s : Shared) (ticket : Ticket) (batch : List Message) : Shared :=
  let contents := s.contents.extend batch
  match setup.excess? contents with
  | none => { s with contents }.finish ticket .noop
  | some segment =>
    { s with contents, records := s.records ++ [setup.trigger contents segment.length] }.withPhase
      ticket (.working segment (setup.round contents segment))

/-- The call is made, and its answer, which depends on the calls made before, is on its way. -/
def ask (backend : Backend) (s : Shared) (ticket : Ticket) (segment : List Message) (call : Call)
    (resume : Reply → Dialogue Call Reply Round) : Shared :=
  { s with calls := s.calls ++ [call] }.withPhase ticket
    (.awaiting segment (backend s.calls call) resume)

/-- The answer is taken, and `rest` is what it leaves of the round. If it was a failure, that is
written down at once, and stays so if the append is given up later. -/
def hear (s : Shared) (ticket : Ticket) (segment : List Message)
    (rest : Dialogue Call Reply Round) : Shared :=
  { s with records := s.records ++ heard segment.length rest }.withPhase ticket
    (.working segment rest)

/-- The round takes effect on the contents, and what it came to is written down. -/
def commit (s : Shared) (ticket : Ticket) (segment : List Message) (round : Round) : Shared :=
  let contents := s.contents.commit segment.length round
  let verdict := round.verdict segment.length contents.tally.cuts.toNat
  { s with contents, records := s.records ++ [verdict] }.finish ticket
    (.ofRound segment.length round)

/-- The next step of an append. -/
def step (setup : Setup) (backend : Backend) (s : Shared) (ticket : Ticket) : Shared :=
  match s.phases ticket with
  | .waiting batch => s.acquire ticket batch
  | .holding batch => extend setup s ticket batch
  | .working segment (.ask call resume) => ask backend s ticket segment call resume
  | .awaiting segment reply resume => s.hear ticket segment (resume reply)
  | .working segment (.done round) => s.commit ticket segment round
  | .idle | .finished _ | .cancelled => s

/-- The append queues up for the gate. A ticket is good for one append. -/
def submit (s : Shared) (ticket : Ticket) (batch : List Message) : Shared :=
  match s.phases ticket with
  | .idle => { s with queue := s.queue ++ [ticket] }.withPhase ticket (.waiting batch)
  | _ => s

/-- The append is given up where it stands: it leaves the queue or the gate, and that is all. -/
def cancel (s : Shared) (ticket : Ticket) : Shared :=
  match s.phases ticket with
  | .waiting _ => { s with queue := s.queue.erase ticket }.withPhase ticket .cancelled
  | .holding _ | .working .. | .awaiting .. =>
    { s with holder := none }.withPhase ticket .cancelled
  | .idle | .finished _ | .cancelled => s

/-- One event. -/
def apply (setup : Setup) (backend : Backend) (s : Shared) : Event → Shared
  | .submit ticket batch => s.submit ticket batch
  | .step ticket => s.step setup backend ticket
  | .cancel ticket => s.cancel ticket

/-- The events one after the other. -/
def run (setup : Setup) (backend : Backend) (s : Shared) (events : List Event) : Shared :=
  events.foldl (apply setup backend) s

theorem run_append (setup : Setup) (backend : Backend) (s : Shared) (as bs : List Event) :
    s.run setup backend (as ++ bs) = (s.run setup backend as).run setup backend bs :=
  List.foldl_append ..

end Shared

end RollingHistory
