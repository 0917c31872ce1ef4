import RollingHistory.History.Append

/-!
Appends one after the other.

A `Journal` is a history's contents together with all that appending did so far: the outcomes, the
calls and the records, each in order. Every append tells the backend the calls of those before it.
`appendAll_append` splits a run at any point.
-/

namespace RollingHistory

/-- Contents, and what the appends that led to them did. -/
structure Journal where
  contents : Contents
  outcomes : List Outcome
  calls : List Call
  records : List LogRecord

namespace Journal

/-- Contents before any append. The backend remembers the earlier calls. -/
def start (contents : Contents) (earlier : List Call) : Journal := ⟨contents, [], earlier, []⟩

/-- One more append. -/
def append (setup : Setup) (backend : Backend) (j : Journal) (batch : List Message) : Journal :=
  let result := setup.append backend j.calls j.contents batch
  { contents := result.contents
    outcomes := j.outcomes ++ [result.outcome]
    calls := j.calls ++ result.calls
    records := j.records ++ result.records }

/-- The batches one after the other. -/
def appendAll (setup : Setup) (backend : Backend) (j : Journal) (batches : List (List Message)) :
    Journal :=
  batches.foldl (append setup backend) j

theorem appendAll_append (setup : Setup) (backend : Backend) (j : Journal)
    (as bs : List (List Message)) :
    j.appendAll setup backend (as ++ bs) =
      (j.appendAll setup backend as).appendAll setup backend bs :=
  List.foldl_append ..

end Journal

end RollingHistory
