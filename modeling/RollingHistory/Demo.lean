import RollingHistory.Capability.Extractive
import RollingHistory.History.Journal
import RollingHistory.History.Snapshot

/-!
A demonstration: a long conversation under a small limit.

Twenty-five turns over six topics go into a history that keeps five messages of at most twenty. The
transcript tells each cut, the numbers at the end, and how the history reads after it was written
as JSON and read back.
-/

namespace RollingHistory

/-- The shortfall as the transcript shows it. -/
def Shortfall.shown : Shortfall → String
  | .noSummarizer => "NoSummarizer"
  | .summarizerFailed failure => "SummarizerFailed(" ++ Text.quoted failure.message ++ ")"

/-- The outcome as the transcript shows it. -/
def Outcome.shown : Outcome → String
  | .noop => "NoOp"
  | .compacted count kind =>
    "Compacted \x7b compacted: " ++ count.repr ++ ", merge: " ++ kind.name ++ " \x7d"
  | .truncated count shortfall =>
    "Truncated \x7b discarded: " ++ count.repr ++ ", reason: " ++ shortfall.shown ++ " \x7d"

namespace Demo

/-- Five messages kept of at most twenty. -/
def settings : Settings := { Settings.standard with limit := 20, keep := 5, summaryTokens := 800 }

/-- Summaries by extraction. -/
def setup : Setup := { settings, summarizer := some "local", valid := by decide }

/-- The one capability there is. -/
def backend : Backend :=
  .ofCapabilities fun _ => Extractive.model.capability summarizerPrompt

/-- What the user talks about, in turn. -/
def topics : List String := [
  "我叫张三，是一名软件工程师",
  "我正在学习AI和机器学习",
  "我最喜欢的编程语言是Rust",
  "我最近在做一个智能体项目",
  "这个项目需要处理长对话",
  "我需要实现上下文压缩功能"]

/-- The two messages of a turn. -/
def turn (n : Nat) : List Message :=
  let topic := topics.getD (n % topics.length) ""
  let mark := "[" ++ n.repr ++ "] "
  [.user (mark ++ topic), .assistant (mark ++ "收到：" ++ topic)]

/-- The whole conversation. -/
def conversation : Journal :=
  (Journal.start (.ofMessages []) []).appendAll setup backend ((List.range 25).map turn)

/-- The turns on which messages were shed. -/
def turnLines (outcomes : List Outcome) : List String :=
  outcomes.zipIdx.filterMap fun (outcome, n) =>
    if outcome.isNoop then none else some ("round " ++ n.repr ++ ": " ++ outcome.shown)

/-- The numbers at the end. -/
def summaryLines (report : Report) : List String := [
  "",
  "---",
  "current messages:          " ++ report.current.repr,
  "compactions:               " ++ report.tally.cuts.toNat.repr,
  "total compacted messages:  " ++ report.tally.removed.toNat.repr,
  "summary length (chars):    " ++ report.summaryLength.repr]

/-- How a history reads: its length, and its first message. -/
def readingLines (contents : Contents) : List String :=
  let history := contents.list
  ["", "restored history has " ++ history.length.repr ++ " messages"] ++
    match history with
    | [] => []
    | first :: _ => ["", first.text]

/-- The history after it was written and read back, or why it cannot be read. -/
def restored (contents : Contents) : List String :=
  match History.ofJson (History.toJson ⟨setup, contents⟩) settings with
  | .ok history => readingLines history.contents
  | .error error => [error.message]

/-- The transcript, each line with a line feed. -/
def transcript : String :=
  let lines := turnLines conversation.outcomes ++ summaryLines conversation.contents.report
    ++ restored conversation.contents
  String.join (lines.map (· ++ "\n"))

end Demo

end RollingHistory
