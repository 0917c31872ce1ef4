import RollingHistory.Capability.Basic
import RollingHistory.Wording

/-!
Making one summary of an older and a newer one.

Without an older summary the newer one stands. Without a capability the two are put one after the
other. Else the capability is asked once, and if it fails the older summary is given up. So there
is always a summary in the end.
-/

namespace RollingHistory

/-- How a summary came about. -/
inductive MergeKind where
  | first
  | concatenated
  | merged
  | replaced
  deriving DecidableEq, Repr

/-- The name of the kind in a record. -/
def MergeKind.name : MergeKind → String
  | .first => "First"
  | .concatenated => "Concatenated"
  | .merged => "Merged"
  | .replaced => "Replaced"

/-- A summary, by how it came about. A replacement tells what went wrong. -/
inductive Merged where
  | first (text : String)
  | concatenated (text : String)
  | merged (text : String)
  | replaced (text : String) (failure : Failure)
  deriving DecidableEq, Repr

namespace Merged

/-- The summary itself. -/
def text : Merged → String
  | first t | concatenated t | merged t | replaced t _ => t

/-- How it came about. -/
def kind : Merged → MergeKind
  | first _ => .first
  | concatenated _ => .concatenated
  | merged _ => .merged
  | replaced _ _ => .replaced

end Merged

/-- Who merges summaries, if anyone, and the hint for the length of the result. -/
structure Merger where
  capability : Option String
  maxTokens : UInt32
  deriving DecidableEq, Repr

namespace Merger

/-- The query for merging two summaries. -/
def query (merger : Merger) (older newer : String) : Query :=
  ⟨Wording.mergeRequest older newer, merger.maxTokens⟩

/-- The result of a merge, from the answer to its query. -/
def settle (newer : String) : Reply → Merged
  | .ok text => .merged text
  | .error failure => .replaced newer failure

/-- Merges a newer summary into an older one, with at most one call. -/
def merge (merger : Merger) (older : Option String) (newer : String) :
    Dialogue Call Reply Merged :=
  match older, merger.capability with
  | none, _ => .done (.first newer)
  | some older, none => .done (.concatenated (older ++ Wording.divider ++ newer))
  | some older, some capability => do
    return settle newer (← .query ⟨capability, merger.query older newer⟩)

@[simp] theorem merge_none (merger : Merger) (newer : String) :
    merger.merge none newer = .done (.first newer) := rfl

theorem merge_of_no_capability {merger : Merger} (h : merger.capability = none)
    (older newer : String) :
    merger.merge (some older) newer = .done (.concatenated (older ++ Wording.divider ++ newer)) := by
  simp [merge, h]

theorem merge_of_capability {merger : Merger} {name : String} (h : merger.capability = some name)
    (older newer : String) :
    merger.merge (some older) newer =
      .ask ⟨name, merger.query older newer⟩ fun reply => .done (settle newer reply) := by
  simp only [merge, h]
  rfl

end Merger

end RollingHistory
