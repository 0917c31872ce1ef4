import RollingHistory.Proofs.Accounting

/-!
The course of a round.

There are six ways for a round to go, by who is there to be asked, what they answer, and whether
an older summary stands. `Course` lists them with their calls, each answered after those before it,
and `run_condense_iff` says that every round goes in one of these ways and in no other. Nothing is
asked of the settings but the two hints.
-/

namespace RollingHistory

/-- The causes of a failure are read from the outermost in, a colon and a space before each. -/
theorem Failure.message_eq_foldl (failure : Failure) :
    failure.message =
      failure.causes.foldl (fun text cause => text ++ ": " ++ cause) failure.outermost := by
  obtain ⟨outermost, causes⟩ := failure
  unfold message
  induction causes generalizing outermost with
  | nil => exact String.intercalate_singleton
  | cons cause causes ih =>
    rw [List.foldl_cons, ← ih, String.intercalate_cons_cons, String.intercalate_cons_append]

/-- The request for a summary of a segment. -/
def Settings.summaryCall (settings : Settings) (name : String) (segment : List Message) : Call :=
  ⟨name, ⟨Wording.summaryRequest segment, settings.summaryTokens⟩⟩

/-- Who is asked, and with which hint, to make one summary of an older one and the summarizer's: the
merger that was chosen, or the summarizer itself with the sum of both allowances. -/
inductive MergesBy (settings : Settings) (summarizer : String) : Option Merger → String → UInt32 →
    Prop
  | chosen (name : String) (tokens : UInt32) :
    MergesBy settings summarizer (some ⟨some name, tokens⟩) name tokens
  | summarizer {tokens : UInt32}
    (sum : tokens.toNat =
      min (UInt32.size - 1) (settings.summaryTokens.toNat + settings.mergeExtra.toNat)) :
    MergesBy settings summarizer none summarizer tokens

namespace Condenser

/-- The condenser of any settings, with a summarizer or none and a merger of its own or none. -/
def assemble (settings : Settings) (summarizer : Option String) (merger : Option Merger) :
    Condenser :=
  { ofSettings summarizer settings with merger }

/-- How a round may go: how it ends, and the calls it makes in order. -/
inductive Course (settings : Settings) (summarizer : Option String) (merger : Option Merger)
    (segment : List Message) (previous : Option String) (backend : Backend) (earlier : List Call) :
    Round → List Call → Prop
  | unasked (nobody : summarizer = none) :
    Course settings summarizer merger segment previous backend earlier
      (.truncated .noSummarizer) []
  | failed {name : String} {failure : Failure} (given : summarizer = some name)
    (answer : backend earlier (settings.summaryCall name segment) = .error failure) :
    Course settings summarizer merger segment previous backend earlier
      (.truncated (.summarizerFailed failure)) [settings.summaryCall name segment]
  | first {name fresh : String} (given : summarizer = some name)
    (answer : backend earlier (settings.summaryCall name segment) = .ok fresh)
    (nothing : previous = none ∨ previous = some "") :
    Course settings summarizer merger segment previous backend earlier
      (.summarized (.first fresh)) [settings.summaryCall name segment]
  | concatenated {name fresh older : String} {tokens : UInt32} (given : summarizer = some name)
    (answer : backend earlier (settings.summaryCall name segment) = .ok fresh)
    (stands : previous = some older) (inhabited : older ≠ "")
    (nobody : merger = some ⟨none, tokens⟩) :
    Course settings summarizer merger segment previous backend earlier
      (.summarized (.concatenated (older ++ "\n\n---\n\n" ++ fresh)))
      [settings.summaryCall name segment]
  | merged {name fresh older other text : String} {tokens : UInt32} (given : summarizer = some name)
    (answer : backend earlier (settings.summaryCall name segment) = .ok fresh)
    (stands : previous = some older) (inhabited : older ≠ "")
    (target : MergesBy settings name merger other tokens)
    (reply : backend (earlier ++ [settings.summaryCall name segment])
      ⟨other, ⟨Wording.mergeRequest older fresh, tokens⟩⟩ = .ok text) :
    Course settings summarizer merger segment previous backend earlier
      (.summarized (.merged text))
      [settings.summaryCall name segment, ⟨other, ⟨Wording.mergeRequest older fresh, tokens⟩⟩]
  | replaced {name fresh older other : String} {failure : Failure} {tokens : UInt32}
    (given : summarizer = some name)
    (answer : backend earlier (settings.summaryCall name segment) = .ok fresh)
    (stands : previous = some older) (inhabited : older ≠ "")
    (target : MergesBy settings name merger other tokens)
    (reply : backend (earlier ++ [settings.summaryCall name segment])
      ⟨other, ⟨Wording.mergeRequest older fresh, tokens⟩⟩ = .error failure) :
    Course settings summarizer merger segment previous backend earlier
      (.summarized (.replaced fresh failure))
      [settings.summaryCall name segment, ⟨other, ⟨Wording.mergeRequest older fresh, tokens⟩⟩]

variable {settings : Settings} {summarizer : Option String} {merger : Option Merger}
  {segment : List Message} {previous : Option String} {backend : Backend} {earlier : List Call}

/-! ## One way or another -/

/-- Whoever merges by the settings is the merger in effect. -/
theorem effectiveMerger_of_mergesBy {name other : String} {tokens : UInt32}
    (target : MergesBy settings name merger other tokens) :
    (assemble settings (some name) merger).effectiveMerger = ⟨some other, tokens⟩ := by
  cases target with
  | chosen => rfl
  | summarizer sum =>
    rw [← Settings.toNat_mergeTokens] at sum
    rw [UInt32.toNat_inj.mp sum]
    rfl

/-- If it is not settled that summaries are put one after the other, someone merges them. -/
theorem exists_mergesBy (settings : Settings) (name : String) (merger : Option Merger) :
    (∃ tokens, merger = some ⟨none, tokens⟩) ∨
      ∃ other tokens, MergesBy settings name merger other tokens := by
  rcases merger with _ | ⟨_ | other, tokens⟩
  · exact .inr ⟨name, settings.mergeTokens, .summarizer settings.toNat_mergeTokens⟩
  · exact .inl ⟨tokens, rfl⟩
  · exact .inr ⟨other, tokens, .chosen other tokens⟩

theorem condense_assemble {name : String} (given : summarizer = some name) :
    (assemble settings summarizer merger).condense segment previous =
      .ask (settings.summaryCall name segment)
        ((assemble settings summarizer merger).conclude previous) :=
  condense_of_summarizer given segment previous

/-- After the summarizer's answer, the round is the merge. -/
theorem run_assemble_of_answer {name fresh : String} (given : summarizer = some name)
    (answer : backend earlier (settings.summaryCall name segment) = .ok fresh) :
    ((assemble settings summarizer merger).condense segment previous).run backend earlier =
      let merging := ((assemble settings summarizer merger).effectiveMerger.merge
        (standing previous) fresh).run backend (earlier ++ [settings.summaryCall name segment])
      (.summarized merging.1, settings.summaryCall name segment :: merging.2) := by
  rw [condense_assemble given, Dialogue.run_ask, answer, conclude, Dialogue.run_map]

/-- If someone merges, then by one more call, whose answer decides. -/
theorem run_assemble_of_mergesBy {name fresh older other : String} {tokens : UInt32}
    (given : summarizer = some name)
    (answer : backend earlier (settings.summaryCall name segment) = .ok fresh)
    (stands : previous = some older) (inhabited : older ≠ "")
    (target : MergesBy settings name merger other tokens) :
    let call := settings.summaryCall name segment
    let merging : Call := ⟨other, ⟨Wording.mergeRequest older fresh, tokens⟩⟩
    ((assemble settings summarizer merger).condense segment previous).run backend earlier =
      (.summarized (Merger.settle fresh (backend (earlier ++ [call]) merging)),
        [call, merging]) := by
  subst given
  rw [run_assemble_of_answer rfl answer, stands, standing_of_ne inhabited,
    effectiveMerger_of_mergesBy target, Merger.merge_of_capability rfl]
  rfl

/-- A round that may go in this way does. -/
theorem Course.run {round : Round} {calls : List Call}
    (course : Course settings summarizer merger segment previous backend earlier round calls) :
    ((assemble settings summarizer merger).condense segment previous).run backend earlier =
      (round, calls) := by
  cases course with
  | unasked nobody =>
    rw [condense_of_no_summarizer nobody]
    rfl
  | failed given answer =>
    rw [condense_assemble given, Dialogue.run_ask, answer]
    rfl
  | first given answer nothing =>
    have none : standing previous = none := by
      rcases nothing with rfl | rfl <;> rfl
    rw [run_assemble_of_answer given answer, none]
    rfl
  | concatenated given answer stands inhabited nobody =>
    subst nobody
    rw [run_assemble_of_answer given answer, stands, standing_of_ne inhabited]
    rfl
  | merged given answer stands inhabited target reply =>
    rw [run_assemble_of_mergesBy given answer stands inhabited target, reply]
    rfl
  | replaced given answer stands inhabited target reply =>
    rw [run_assemble_of_mergesBy given answer stands inhabited target, reply]
    rfl

/-- Every round goes in some way. -/
theorem exists_course (settings : Settings) (summarizer : Option String) (merger : Option Merger)
    (segment : List Message) (previous : Option String) (backend : Backend)
    (earlier : List Call) :
    ∃ round calls,
      Course settings summarizer merger segment previous backend earlier round calls := by
  cases given : summarizer with
  | none => exact ⟨_, _, .unasked rfl⟩
  | some name =>
    cases answer : backend earlier (settings.summaryCall name segment) with
    | error failure => exact ⟨_, _, .failed rfl answer⟩
    | ok fresh =>
      rcases previous with _ | older
      · exact ⟨_, _, .first rfl answer (.inl rfl)⟩
      by_cases empty : older = ""
      · exact ⟨_, _, .first rfl answer (.inr (congrArg some empty))⟩
      rcases exists_mergesBy settings name merger with ⟨tokens, nobody⟩ | ⟨other, tokens, target⟩
      · exact ⟨_, _, .concatenated rfl answer rfl empty nobody⟩
      cases reply : backend (earlier ++ [settings.summaryCall name segment])
        ⟨other, ⟨Wording.mergeRequest older fresh, tokens⟩⟩ with
      | ok text => exact ⟨_, _, .merged rfl answer rfl empty target reply⟩
      | error failure => exact ⟨_, _, .replaced rfl answer rfl empty target reply⟩

/-- Whatever the settings, whoever is there and whatever they answer, a round ends in one of these
ways, with just these calls, and a failure that it reports is read in full. -/
theorem run_condense_iff (settings : Settings) (summarizer : Option String)
    (merger : Option Merger) (segment : List Message) (previous : Option String)
    (backend : Backend) (earlier : List Call) (round : Round) (calls : List Call) :
    (((assemble settings summarizer merger).condense segment previous).run backend earlier =
        (round, calls) ↔
      Course settings summarizer merger segment previous backend earlier round calls) ∧
    ∀ failure, round = .truncated (.summarizerFailed failure) → failure.message =
      failure.causes.foldl (fun text cause => text ++ ": " ++ cause) failure.outermost := by
  refine ⟨⟨fun ran => ?_, Course.run⟩, fun failure _ => failure.message_eq_foldl⟩
  obtain ⟨round', calls', course⟩ :=
    exists_course settings summarizer merger segment previous backend earlier
  obtain ⟨rfl, rfl⟩ := Prod.mk.inj (course.run.symm.trans ran)
  exact course

end Condenser

end RollingHistory
