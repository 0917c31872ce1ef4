import RollingHistory.Merge
import RollingHistory.Settings

/-!
One round: what a cut-off segment leaves behind.

The summarizer is asked for a summary of the segment. If it answers, the summary is merged into the
one there was; if there is no summarizer or it fails, the segment is dropped without one and the
round says so. An empty older summary counts as none. A round always ends, after at most two calls.
-/

namespace RollingHistory

/-- Why a segment was dropped without a summary. -/
inductive Shortfall where
  | noSummarizer
  | summarizerFailed (failure : Failure)
  deriving DecidableEq, Repr

/-- How a round ended. -/
inductive Round where
  | summarized (merged : Merged)
  | truncated (shortfall : Shortfall)
  deriving DecidableEq, Repr

/-- The summary that a round produced. -/
def Round.summary? : Round → Option String
  | .summarized merged => some merged.text
  | .truncated _ => none

/-- Who writes summaries, who merges them if that is settled, and the hints for their lengths. -/
structure Condenser where
  summarizer : Option String
  merger : Option Merger
  summaryTokens : UInt32
  mergeTokens : UInt32
  deriving DecidableEq, Repr

namespace Condenser

/-- The condenser of some settings, with no merger of its own. -/
def ofSettings (summarizer : Option String) (settings : Settings) : Condenser :=
  { summarizer, merger := none, summaryTokens := settings.summaryTokens
    mergeTokens := settings.mergeTokens }

/-- The query for a summary of a segment. -/
def query (c : Condenser) (segment : List Message) : Query :=
  ⟨Wording.summaryRequest segment, c.summaryTokens⟩

/-- The merger: the one that was settled, else the summarizer. -/
def effectiveMerger (c : Condenser) : Merger := c.merger.getD ⟨c.summarizer, c.mergeTokens⟩

/-- An older summary that has something in it. -/
def standing (previous : Option String) : Option String := previous.filter (· ≠ "")

/-- The rest of a round, from the summarizer's answer on. -/
def conclude (c : Condenser) (previous : Option String) : Reply → Dialogue Call Reply Round
  | .error failure => .done (.truncated (.summarizerFailed failure))
  | .ok fresh => .summarized <$> c.effectiveMerger.merge (standing previous) fresh

/-- One round over a segment. -/
def condense (c : Condenser) (segment : List Message) (previous : Option String) :
    Dialogue Call Reply Round :=
  match c.summarizer with
  | none => .done (.truncated .noSummarizer)
  | some summarizer => do c.conclude previous (← .query ⟨summarizer, c.query segment⟩)

theorem condense_of_no_summarizer {c : Condenser} (h : c.summarizer = none)
    (segment : List Message) (previous : Option String) :
    c.condense segment previous = .done (.truncated .noSummarizer) := by
  simp [condense, h]

theorem condense_of_summarizer {c : Condenser} {name : String} (h : c.summarizer = some name)
    (segment : List Message) (previous : Option String) :
    c.condense segment previous = .ask ⟨name, c.query segment⟩ (c.conclude previous) := by
  simp only [condense, h]
  rfl

@[simp] theorem standing_none : standing none = none := rfl

@[simp] theorem standing_empty : standing (some "") = none := rfl

theorem standing_of_ne {text : String} (h : text ≠ "") : standing (some text) = some text := by
  simp [standing, h]

end Condenser

end RollingHistory
