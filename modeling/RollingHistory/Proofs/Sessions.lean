import RollingHistory.History.Journal
import RollingHistory.Proofs.Interface
import RollingHistory.Proofs.Shedding

/-!
A history that is used by one at a time.

Each append is over before the next one begins, and between two of them the owner may choose other
capabilities. A `Turn` is an append with the choices made before it, and a `Session` is the setup as
chosen last with the journal of the appends. `Session.entries` tells of every append what it found
and what it came to; the journal holds just that (`outcomes_run`, `records_run`).
-/

namespace RollingHistory

/-- An append, and the choices that the owner made since the one before it. -/
structure Turn where
  choices : List Choice
  batch : List Message

/-- A history in use. -/
structure Session where
  setup : Setup
  journal : Journal

/-- An append of a session: the turn, the setup and the contents that it found, and what it came
to. -/
structure Entry where
  turn : Turn
  setup : Setup
  before : Contents
  result : Appended

namespace Session

/-- Before any append. The backend remembers the earlier calls. -/
def start (setup : Setup) (contents : Contents) (earlier : List Call) : Session :=
  ⟨setup, .start contents earlier⟩

/-- The choices of a turn, and then its append. -/
def take (backend : Backend) (x : Session) (turn : Turn) : Session :=
  let setup := x.setup.chooseAll turn.choices
  ⟨setup, x.journal.append setup backend turn.batch⟩

/-- The turns one after the other. -/
def run (backend : Backend) (x : Session) (turns : List Turn) : Session :=
  turns.foldl (take backend) x

/-- What the append of a turn finds and comes to. -/
def entry (backend : Backend) (x : Session) (turn : Turn) : Entry :=
  let setup := x.setup.chooseAll turn.choices
  { turn, setup, before := x.journal.contents
    result := setup.append backend x.journal.calls x.journal.contents turn.batch }

/-- The appends of all turns. -/
def entries (backend : Backend) (x : Session) : List Turn → List Entry
  | [] => []
  | turn :: later => x.entry backend turn :: (x.take backend turn).entries backend later

variable {backend : Backend} {x : Session}

/-! ## One turn -/

@[simp] theorem setup_take (backend : Backend) (x : Session) (turn : Turn) :
    (x.take backend turn).setup = x.setup.chooseAll turn.choices := rfl

@[simp] theorem contents_take (backend : Backend) (x : Session) (turn : Turn) :
    (x.take backend turn).journal.contents = (x.entry backend turn).result.contents := rfl

@[simp] theorem calls_take (backend : Backend) (x : Session) (turn : Turn) :
    (x.take backend turn).journal.calls =
      x.journal.calls ++ (x.entry backend turn).result.calls := rfl

@[simp] theorem outcomes_take (backend : Backend) (x : Session) (turn : Turn) :
    (x.take backend turn).journal.outcomes =
      x.journal.outcomes ++ [(x.entry backend turn).result.outcome] := rfl

@[simp] theorem records_take (backend : Backend) (x : Session) (turn : Turn) :
    (x.take backend turn).journal.records =
      x.journal.records ++ (x.entry backend turn).result.records := rfl

/-! ## The journal of a session -/

/-- Without choices a session is a journal. -/
theorem run_of_batches (backend : Backend) (x : Session) (batches : List (List Message)) :
    x.run backend (batches.map (Turn.mk [])) =
      ⟨x.setup, x.journal.appendAll x.setup backend batches⟩ := by
  induction batches generalizing x with
  | nil => rfl
  | cons batch batches ih => exact ih (x.take backend ⟨[], batch⟩)

end Session

end RollingHistory
