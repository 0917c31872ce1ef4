import RollingHistory.History.Basic
import RollingHistory.Log

/-!
Appending to a history.

The messages join, and if there are then too many, one round sheds the excess. An append never
fails: whatever the capabilities say, it ends in an `Outcome`. `Appended` is the outcome together
with the new contents, the calls made and the records left.
-/

namespace RollingHistory

/-- What an append came to. -/
inductive Outcome where
  | noop
  | compacted (count : Nat) (kind : MergeKind)
  | truncated (count : Nat) (shortfall : Shortfall)
  deriving DecidableEq, Repr

namespace Outcome

/-- The outcome of a round that shed `count` messages. -/
def ofRound (count : Nat) : Round → Outcome
  | .summarized merged => .compacted count merged.kind
  | .truncated shortfall => .truncated count shortfall

/-- The number of messages that are gone. -/
def removed : Outcome → Nat
  | .noop => 0
  | .compacted count _ => count
  | .truncated count _ => count

/-- Nothing was shed. -/
def isNoop : Outcome → Bool
  | .noop => true
  | _ => false

@[simp] theorem removed_ofRound (count : Nat) (round : Round) :
    (ofRound count round).removed = count := by
  cases round <;> rfl

end Outcome

/-- The result of an append. -/
structure Appended where
  outcome : Outcome
  contents : Contents
  calls : List Call
  records : List LogRecord

namespace Setup

/-- The record of a cut about to be made. -/
def trigger (setup : Setup) (contents : Contents) (removed : Nat) : LogRecord :=
  .triggered contents.live.length setup.settings.limit.toNat removed

/-- Sheds the excess of contents that have just been extended. The backend is told the calls that
came before, from `earlier` on. -/
def shed (setup : Setup) (backend : Backend) (earlier : List Call) (contents : Contents) :
    Appended :=
  match setup.excess? contents with
  | none => ⟨.noop, contents, [], []⟩
  | some segment =>
    let (round, calls) := (setup.round contents segment).run backend earlier
    let after := contents.commit segment.length round
    ⟨.ofRound segment.length round, after, calls,
      setup.trigger contents segment.length
        :: round.records segment.length after.tally.cuts.toNat⟩

/-- Appends a batch of messages. -/
def append (setup : Setup) (backend : Backend) (earlier : List Call) (contents : Contents)
    (batch : List Message) : Appended :=
  setup.shed backend earlier (contents.extend batch)

theorem shed_of_excess_none {setup : Setup} {contents : Contents}
    (h : setup.excess? contents = none) (backend : Backend) (earlier : List Call) :
    setup.shed backend earlier contents = ⟨.noop, contents, [], []⟩ := by
  simp [shed, h]

/-- Appending two batches at once is extending by the first and appending the second. -/
theorem append_append (setup : Setup) (backend : Backend) (earlier : List Call)
    (contents : Contents) (as bs : List Message) :
    setup.append backend earlier contents (as ++ bs) =
      setup.append backend earlier (contents.extend as) bs := by
  rw [append, append, Contents.extend_append]

end Setup

end RollingHistory
