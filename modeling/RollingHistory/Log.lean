import RollingHistory.Round

/-!
What an append leaves in the log.

A record says what happened, with its numbers; its level and its text follow from that. The text
of a message never enters a record, but what a capability said about its failure does. A failure is
written down when it is heard, and what the round came to when that has taken effect.
-/

namespace RollingHistory

/-- How much a record matters. -/
inductive LogLevel where
  | debug
  | info
  | warn
  deriving DecidableEq, Repr

/-- The name of a level. -/
def LogLevel.name : LogLevel → String
  | .debug => "DEBUG"
  | .info => "INFO"
  | .warn => "WARN"

/-- Something that happened in an append. -/
inductive LogRecord where
  | triggered (live limit segment : Nat)
  | summarizerFailed (segment : Nat) (failure : Failure)
  | mergeFailed (failure : Failure)
  | compacted (removed : Nat) (kind : MergeKind) (summaryLength cuts : Nat)
  | truncated (removed : Nat)
  | truncatedAfterFailure (removed cuts : Nat) (failure : Failure)
  deriving DecidableEq, Repr

namespace LogRecord

/-- Losing messages unsummarized, or an older summary, is worth a warning; a cut that went well is
news; the rest is detail. -/
def level : LogRecord → LogLevel
  | .triggered .. | .summarizerFailed .. | .truncated .. => .debug
  | .compacted .. => .info
  | .mergeFailed .. | .truncatedAfterFailure .. => .warn

/-- The wording of a record. -/
def text : LogRecord → String
  | .triggered live limit segment =>
    "Compaction triggered (live_messages=" ++ live.repr ++ ", max_messages=" ++ limit.repr
      ++ ", segment=" ++ segment.repr ++ ")"
  | .summarizerFailed segment failure =>
    "Summarizer failed on " ++ segment.repr ++ " messages: " ++ failure.message
  | .mergeFailed failure =>
    "Summary merge failed, keeping only the new summary: " ++ failure.message
  | .compacted removed kind summaryLength cuts =>
    "Compacted " ++ removed.repr ++ " messages (merge=" ++ kind.name ++ ", summary_chars="
      ++ summaryLength.repr ++ ", compaction_count=" ++ cuts.repr ++ ")"
  | .truncated removed => "No summarizer configured, truncated " ++ removed.repr ++ " messages"
  | .truncatedAfterFailure removed cuts failure =>
    "Summarization failed, truncated " ++ removed.repr
      ++ " messages without summarizing them (compaction_count=" ++ cuts.repr ++ "): "
      ++ failure.message

/-- The record on one line, its level first. -/
def line (record : LogRecord) : String := record.level.name ++ " " ++ record.text

end LogRecord

namespace Round

/-- What went wrong in a round over `removed` messages. -/
def failures (removed : Nat) : Round → List LogRecord
  | .summarized (.replaced _ failure) => [.mergeFailed failure]
  | .truncated (.summarizerFailed failure) => [.summarizerFailed removed failure]
  | _ => []

/-- What a round over `removed` messages came to, as the `cuts`-th cut. -/
def verdict (removed cuts : Nat) : Round → LogRecord
  | .summarized merged => .compacted removed merged.kind merged.text.length cuts
  | .truncated .noSummarizer => .truncated removed
  | .truncated (.summarizerFailed failure) => .truncatedAfterFailure removed cuts failure

/-- What a round leaves in the log from its first call to its commit. -/
def records (removed cuts : Nat) (round : Round) : List LogRecord :=
  round.failures removed ++ [round.verdict removed cuts]

end Round

/-- What is written down when an answer comes, by what it leaves of the round. After a failure
nobody is asked any more, so what went wrong in a round is what its last answer said. -/
def heard (removed : Nat) : Dialogue Call Reply Round → List LogRecord
  | .done round => round.failures removed
  | .ask .. => []

end RollingHistory
