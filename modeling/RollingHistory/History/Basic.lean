import RollingHistory.Round
import RollingHistory.Tally

/-!
A rolling history.

The latest messages are kept as they are, and whatever was before them lives on in a summary.
`Contents` is what changes as messages come in; `Setup` is what the owner has chosen, valid
thresholds included. A history is listed with its summary, in its frame, as a system message in
front.
-/

namespace RollingHistory

/-- The live messages, the summary of what came before, and the tally of the cuts. -/
structure Contents where
  live : List Message
  summary : Option String
  tally : Tally
  deriving Inhabited, Repr

namespace Contents

/-- Messages and nothing before them. -/
def ofMessages (messages : List Message) : Contents := ⟨messages, none, .zero⟩

/-- The summary as the message that stands in front. An empty one is not shown. -/
def carrier (contents : Contents) : List Message :=
  match contents.summary with
  | none => []
  | some summary => if summary.isEmpty then [] else [.system (Wording.frame summary)]

/-- The messages to be read, oldest first. -/
def list (contents : Contents) : List Message := contents.carrier ++ contents.live

/-- The numbers of the history. -/
def report (contents : Contents) : Report :=
  { current := contents.live.length, tally := contents.tally
    hasSummary := contents.summary.isSome
    summaryLength := (contents.summary.map String.length).getD 0 }

/-- The messages join the live ones. -/
def extend (contents : Contents) (batch : List Message) : Contents :=
  { contents with live := contents.live ++ batch }

/-- As many messages in front are gone, and what their round produced is the summary. -/
def commit (contents : Contents) (removed : Nat) (round : Round) : Contents :=
  { live := contents.live.drop removed
    summary := round.summary?.or contents.summary
    tally := contents.tally.record removed }

@[simp] theorem live_extend (contents : Contents) (batch : List Message) :
    (contents.extend batch).live = contents.live ++ batch := rfl

theorem extend_append (contents : Contents) (as bs : List Message) :
    contents.extend (as ++ bs) = (contents.extend as).extend bs := by
  simp [extend]

end Contents

/-- What the owner of a history has chosen. Of a merger only the capability is a choice, and
`some none` is the choice of none; its hint comes from the settings. -/
structure Setup where
  settings : Settings
  summarizer : Option String := none
  merger : Option (Option String) := none
  valid : settings.Valid

namespace Setup

/-- The setup of some settings, if they are valid. -/
def ofSettings (settings : Settings) : Except ThresholdError Setup :=
  match h : settings.check with
  | .ok () => .ok { settings, valid := Thresholds.check_eq_ok_iff.mp h }
  | .error error => .error error

/-- Another summarizer, or none. A merger that was chosen stays. -/
def withSummarizer (setup : Setup) (summarizer : Option String) : Setup := { setup with summarizer }

/-- A merger apart from the summarizer; without a capability it puts summaries one after the
other. -/
def withMerger (setup : Setup) (capability : Option String) : Setup :=
  { setup with merger := some capability }

/-- The condenser of a setup. -/
def condenser (setup : Setup) : Condenser :=
  { Condenser.ofSettings setup.summarizer setup.settings with
    merger := setup.merger.map fun capability => ⟨capability, setup.settings.mergeTokens⟩ }

/-- The messages in front that a history of these contents has to shed. -/
def excess? (setup : Setup) (contents : Contents) : Option (List Message) :=
  (setup.settings.cut? contents.live.length).map contents.live.take

/-- The round that sheds them. -/
def round (setup : Setup) (contents : Contents) (segment : List Message) :
    Dialogue Call Reply Round :=
  setup.condenser.condense segment contents.summary

/-- Under a valid setup the messages kept are fewer than the limit. -/
theorem keep_lt_limit (setup : Setup) :
    setup.settings.keep.toNat < setup.settings.limit.toNat :=
  UInt64.lt_iff_toNat_lt.mp setup.valid

end Setup

/-- A history: its contents under a setup. -/
structure History where
  setup : Setup
  contents : Contents

namespace History

/-- A history that starts with some messages. Nothing is cut before the next append. -/
def ofMessages (settings : Settings) (messages : List Message) : Except ThresholdError History := do
  return ⟨← Setup.ofSettings settings, .ofMessages messages⟩

/-- A history that starts empty. -/
def empty (settings : Settings) : Except ThresholdError History := ofMessages settings []

end History

end RollingHistory
