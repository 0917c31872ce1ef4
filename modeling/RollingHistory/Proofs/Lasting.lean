import RollingHistory.Capability.Chat
import RollingHistory.Capability.Scripted
import RollingHistory.Proofs.Binding
import RollingHistory.Proofs.Presence

/-!
Summaries that last.

A chat model without anything to say gives no answer (`ChatModel.read_ne_empty`). So if whoever
writes or merges summaries is a chat model, no round leaves an empty summary
(`Cut.Genuine.summary?_ne_empty`): either it leaves a text or all stays as it was. Then a summary is
never lost, and only the first round that leaves one in a history without a summary can be of the
first kind, for all others find one to merge with. `run_lasting` says so for whole lives.
-/

namespace RollingHistory

/-! ## Chat models -/

/-- A text that a chat model has given has something in it. -/
theorem ChatModel.read_ne_empty (m : ChatModel) (answer : Except Failure ChatAnswer) :
    m.read answer ≠ .ok "" := by
  intro given
  rcases answer with failure | ⟨parts⟩ | _ | _ | _
  case ok.success =>
    unfold read at given
    dsimp only at given
    split at given
    · cases given
    · rename_i inhabited
      exact inhabited (String.isEmpty_iff.mpr (Except.ok.inj given))
  all_goals cases given

/-- The capability of that name is a chat model. What it answers may depend on all earlier calls. -/
def Backend.Chats (backend : Backend) (name : String) : Prop :=
  ∃ (m : ChatModel) (system : String)
    (chat : List Call → ChatQuery → Except Failure ChatAnswer),
    ∀ earlier call, call.capability = name →
      backend earlier call = m.read (chat earlier (ChatModel.request system call.query))

theorem Backend.Chats.ne_empty {backend : Backend} {name : String} (h : backend.Chats name)
    (earlier : List Call) {call : Call} (own : call.capability = name) :
    backend earlier call ≠ .ok "" := by
  obtain ⟨m, system, chat, answers⟩ := h
  rw [answers earlier call own]
  exact m.read_ne_empty _

/-- A chat model in a directory is one, by itself or together with others. -/
theorem Backend.chats_ofCapabilities {directory : String → Capability} {name : String}
    {m : ChatModel} {system : String} (h : directory name = m.capability system) :
    (ofCapabilities directory).Chats name := by
  refine ⟨m, system, fun earlier =>
    m.chat ((Call.queriesTo name earlier).map (ChatModel.request system)), ?_⟩
  rintro earlier call rfl
  rw [ofCapabilities, h, ChatModel.capability_eq]

/-- Whoever is chosen, if anyone, is a chat model. -/
def Choice.Chats (backend : Backend) : Choice → Prop
  | summarizer capability | merger capability => ∀ name, capability = some name → backend.Chats name

/-- The summarizer, and the merger if one was chosen, are chat models. -/
structure Setup.Chats (backend : Backend) (setup : Setup) : Prop where
  summarizer : ∀ name, setup.summarizer = some name → backend.Chats name
  merger : ∀ name, setup.merger = some (some name) → backend.Chats name

namespace Setup

variable {backend : Backend} {setup : Setup}

theorem chats_bare (backend : Backend) (setup : Setup) : setup.bare.Chats backend where
  summarizer _ given := by cases given
  merger _ given := by cases given

theorem Chats.choose (h : setup.Chats backend) {choice : Choice} (c : choice.Chats backend) :
    (setup.choose choice).Chats backend := by
  cases choice with
  | summarizer capability => exact ⟨c, h.merger⟩
  | merger capability => exact ⟨h.summarizer, fun name given => c name (Option.some.inj given)⟩

theorem Chats.chooseAll (h : setup.Chats backend) {choices : List Choice}
    (all : ∀ choice ∈ choices, choice.Chats backend) :
    (setup.chooseAll choices).Chats backend := by
  induction choices generalizing setup with
  | nil => exact h
  | cons choice choices ih =>
    obtain ⟨head, tail⟩ := List.forall_mem_cons.mp all
    exact ih (h.choose head) tail

/-- So the merger of the moment is one too, if there is any. -/
theorem Chats.effectiveMerger (h : setup.Chats backend) {name : String}
    (given : setup.condenser.effectiveMerger.capability = some name) : backend.Chats name := by
  rw [effectiveMerger_condenser] at given
  cases chosen : setup.merger with
  | none =>
    rw [chosen] at given
    exact h.summarizer name given
  | some capability =>
    rw [chosen] at given
    exact h.merger name (chosen.trans (congrArg some given))

end Setup

/-! ## One round -/

theorem Condenser.standing_eq_self {previous : Option String} (h : previous ≠ some "") :
    standing previous = previous := by
  cases previous with
  | none => rfl
  | some text => exact standing_of_ne fun empty => h (congrArg some empty)

/-- How the summary came about, if the append left one. -/
def Outcome.kind? : Outcome → Option MergeKind
  | .compacted _ kind => some kind
  | .noop | .truncated _ _ => none

namespace Merger

/-- A merge is of the first kind exactly if there is nothing to merge with. -/
theorem kind_merge (merger : Merger) (backend : Backend) (earlier : List Call)
    (older : Option String) (newer : String) :
    ((merger.merge older newer).run backend earlier).1.kind = .first ↔ older = none := by
  cases older with
  | none => exact iff_of_true rfl rfl
  | some older =>
    refine iff_of_false ?_ (Option.some_ne_none older)
    cases h : merger.capability with
    | none =>
      rw [merge_of_no_capability h]
      exact MergeKind.noConfusion
    | some name =>
      rw [merge_of_capability h, Dialogue.run_ask]
      cases backend earlier ⟨name, merger.query older newer⟩ <;> exact MergeKind.noConfusion

/-- A merge asks nobody but the merger. -/
theorem capability_of_call {merger : Merger} {backend : Backend} {earlier : List Call}
    {older : Option String} {newer : String} {call : Call}
    (made : call ∈ ((merger.merge older newer).run backend earlier).2) :
    merger.capability = some call.capability := by
  cases older with
  | none => exact absurd made List.not_mem_nil
  | some older =>
    cases h : merger.capability with
    | none =>
      rw [merge_of_no_capability h] at made
      exact absurd made List.not_mem_nil
    | some name =>
      rw [merge_of_capability h, Dialogue.run_ask] at made
      rw [List.mem_singleton.mp made]

end Merger

namespace Cut

variable {backend : Backend} {cut : Cut} {cuts : List Cut} {summary : Option String}

/-- A round leaves a summary exactly if its append ends compacted. -/
theorem kind?_outcome_eq_none_iff : cut.outcome.kind? = none ↔ cut.round.summary? = none := by
  unfold outcome
  cases cut.round with
  | summarized merged => exact iff_of_false (Option.some_ne_none _) (Option.some_ne_none _)
  | truncated shortfall => exact iff_of_true rfl rfl

/-- It is the first summary exactly if the round found none. -/
theorem Genuine.kind_eq_first_iff (genuine : cut.Genuine backend) {kind : MergeKind}
    (own : cut.outcome.kind? = some kind) :
    kind = .first ↔ Condenser.standing cut.previous = none := by
  unfold outcome at own
  rcases genuine.round_cases with ⟨-, round, -⟩ | ⟨name, failure, -, -, round, -⟩ |
    ⟨name, fresh, -, -, round, -⟩
  · rw [round] at own
    cases own
  · rw [round] at own
    cases own
  · rw [round] at own
    rw [← Option.some.inj own]
    exact Merger.kind_merge ..

/-- Only the summarizer and the merger of the moment are asked. -/
theorem Genuine.chats_of_call (genuine : cut.Genuine backend) (chats : cut.setup.Chats backend)
    {call : Call} (made : call ∈ cut.calls) : backend.Chats call.capability := by
  rcases genuine.round_cases with ⟨-, -, calls⟩ | ⟨name, failure, given, -, -, calls⟩ |
    ⟨name, fresh, given, -, -, calls⟩
  · rw [calls] at made
    exact absurd made List.not_mem_nil
  · rw [calls] at made
    rw [List.mem_singleton.mp made]
    exact chats.summarizer name given
  · rw [calls] at made
    rcases List.mem_cons.mp made with rfl | made
    · exact chats.summarizer name given
    · exact chats.effectiveMerger (Merger.capability_of_call made)

/-- Chat models leave no empty summary. -/
theorem Genuine.summary?_ne_empty (genuine : cut.Genuine backend)
    (chats : cut.setup.Chats backend) : cut.round.summary? ≠ some "" := by
  intro empty
  obtain ⟨front, call, ⟨back, split⟩, answer⟩ := genuine.exists_answer_empty empty
  have made : call ∈ cut.calls := by
    rw [← split]
    simp
  exact (genuine.chats_of_call chats made).ne_empty _ rfl answer

/-- There is no summary exactly if there was none and no cut has left one. -/
theorem summaryAfter_eq_none_iff :
    summaryAfter summary cuts = none ↔
      summary = none ∧ ∀ cut ∈ cuts, cut.outcome.kind? = none := by
  induction cuts using List.reverseRecOn with
  | nil => exact ⟨fun h => ⟨h, fun _ member => absurd member List.not_mem_nil⟩, And.left⟩
  | append_singleton cuts last ih =>
    rw [summaryAfter_append_singleton, Option.or_eq_none_iff, ih, ← kind?_outcome_eq_none_iff,
      List.forall_mem_append, List.forall_mem_singleton]
    exact ⟨fun ⟨own, first, others⟩ => ⟨first, others, own⟩,
      fun ⟨first, others, own⟩ => ⟨own, first, others⟩⟩

theorem summaryAfter_ne_empty (first : summary ≠ some "")
    (none : ∀ cut ∈ cuts, cut.round.summary? ≠ some "") : summaryAfter summary cuts ≠ some "" := by
  intro empty
  rcases empty_of_summaryAfter empty with old | ⟨cut, member, own⟩
  · exact first old
  · exact none cut member own

end Cut

/-! ## Whole lives -/

namespace Lifetime

open Shared

variable {backend : Backend} {first : Lifetime} {past : List Occurrence} {cuts : List Cut}
  {base : List Call}

theorem chosen_append (backend : Backend) (x : Lifetime) (past more : List Occurrence) :
    x.chosen backend (past ++ more) =
      x.chosen backend past ++ (x.run backend past).chosen backend more := by
  induction past generalizing x with
  | nil => rfl
  | cons occurrence past ih =>
    rw [List.cons_append, chosen, ih, chosen, List.append_assoc]
    rfl

/-- Where only chat models were chosen there are no others. -/
theorem chats_run (chats : first.setup.Chats backend)
    (attached : ∀ choice ∈ first.chosen backend past, choice.Chats backend)
    {before : List Occurrence} (part : before <+: past) :
    (first.run backend before).setup.Chats backend := by
  obtain ⟨after, rfl⟩ := part
  rw [chosen_append] at attached
  rw [setup_run]
  exact chats.chooseAll (List.forall_mem_append.mp attached).1

theorem Ledger.chats (l : Ledger backend first past cuts base)
    (chats : first.setup.Chats backend)
    (attached : ∀ choice ∈ first.chosen backend past, choice.Chats backend) :
    ∀ cut ∈ cuts, cut.setup.Chats backend := by
  intro cut member
  obtain ⟨before, occurrence, after, rfl, -, setup, -⟩ := l.made cut member
  rw [setup]
  exact chats_run chats attached (List.prefix_append ..)

/-- There is one cut for each append that is finished and not a noop, and none for any other. -/
theorem Ledger.once {setup : Setup} {contents : Contents} {earlier : List Call}
    (l : Ledger backend (Lifetime.start setup contents earlier) past cuts base) (ticket : Ticket) :
    (cuts.countP fun cut => cut.ticket = ticket) =
      (((Lifetime.start setup contents earlier).run backend past).shared.phases ticket).cuts := by
  rw [← cuts_run, l.sheds, List.countP_map]
  rfl

/-- The summary changes only by the commit of an append that ends compacted. -/
theorem Passage.compacted_of_summary_ne {x y : Lifetime} {occurrence : Occurrence}
    {deed : Option Deed} (h : Passage backend x occurrence deed y)
    (g : Guarded x.setup x.shared) (p : Standing x.setup backend base x.shared)
    (changed : y.shared.contents.summary ≠ x.shared.contents.summary) :
    ∃ ticket segment kind, deed = some (.shed ticket segment) ∧
      y.shared.phases ticket = .finished (.compacted segment.length kind) := by
  rcases h.uncut_or_committed g p with ⟨-, uncut⟩ | ⟨cut, shed, committed, -⟩
  · exact absurd uncut.summary changed
  · have finished := committed.finished
    unfold Cut.outcome at finished
    cases round : cut.round with
    | truncated shortfall =>
      have summary := committed.summary
      rw [round] at summary
      exact absurd summary changed
    | summarized merged =>
      rw [round] at finished
      exact ⟨cut.ticket, cut.segment, merged.kind, Deed.eq_of_shed?_eq_some shed, finished⟩

/-- A summary is never lost, whoever writes it. -/
theorem summary_ne_none_of_prefix (backend : Backend) (setup : Setup) (contents : Contents)
    (earlier : List Call) {before past : List Occurrence} (part : before <+: past) :
    let first := start setup contents earlier
    (first.run backend before).shared.contents.summary ≠ none →
      (first.run backend past).shared.contents.summary ≠ none := by
  intro first present
  obtain ⟨after, rfl⟩ := part
  obtain ⟨old, base, l⟩ := ledger_run backend setup contents earlier before
  obtain ⟨new, base, more⟩ := l.extend (.start setup contents earlier) after
  rw [l.summary, ne_eq, Cut.summaryAfter_eq_none_iff] at present
  rw [more.summary, ne_eq, Cut.summaryAfter_eq_none_iff]
  rintro ⟨plain, unsummed⟩
  exact present ⟨plain, fun cut member => unsummed cut (List.mem_append_left _ member)⟩

/-- `cuts` are the cuts of a life whose summary is never empty, never lost, and never begun anew. -/
structure Lasting (backend : Backend) (first : Lifetime) (past : List Occurrence)
    (cuts : List Cut) : Prop where
  inhabited : ∀ before, before <+: past →
    (first.run backend before).shared.contents.summary ≠ some ""
  /-- Once there is a summary there always is. -/
  stays : ∀ before, before <+: past → (first.run backend before).shared.contents.summary ≠ none →
    (first.run backend past).shared.contents.summary ≠ none
  /-- It changes only by the commit of an append that ends compacted. -/
  changes : ∀ before occurrence after, past = before ++ occurrence :: after →
    (first.run backend (before ++ [occurrence])).shared.contents.summary ≠
      (first.run backend before).shared.contents.summary →
    ∃ ticket segment kind,
      (first.run backend before).deed? occurrence = some (.shed ticket segment) ∧
      (first.run backend (before ++ [occurrence])).shared.phases ticket =
        .finished (.compacted segment.length kind)
  /-- There is one for each commit, and so one for each append that is finished and not a noop. -/
  commits : first.sheds backend past = cuts.map fun cut => (cut.ticket, cut.segment)
  once : ∀ ticket, (cuts.countP fun cut => cut.ticket = ticket) =
    ((first.run backend past).shared.phases ticket).cuts
  finished : ∀ cut ∈ cuts, (first.run backend past).shared.phases cut.ticket = .finished cut.outcome
  /-- Of those that end compacted the first, if there was no summary, is of the first kind, and
  every other of another. -/
  kinds : ∀ front cut back, cuts = front ++ cut :: back → ∀ kind, cut.outcome.kind? = some kind →
    (kind = .first ↔ first.shared.contents.summary = none ∧
      ∀ other ∈ front, other.outcome.kind? = none)

namespace Lasting

/-- The cut of a finished append that is not a noop. -/
theorem exists_cut (l : Lasting backend first past cuts) {ticket : Ticket} {outcome : Outcome}
    (finished : (first.run backend past).shared.phases ticket = .finished outcome)
    (cut : outcome ≠ .noop) : ∃ cut ∈ cuts, cut.ticket = ticket ∧ cut.outcome = outcome := by
  have once := l.once ticket
  rw [finished, Phase.cuts, if_neg cut] at once
  obtain ⟨cut, member, own⟩ := List.countP_pos_iff.mp (once ▸ Nat.one_pos)
  obtain rfl : cut.ticket = ticket := of_decide_eq_true own
  refine ⟨cut, member, rfl, ?_⟩
  have same := l.finished cut member
  rw [finished] at same
  exact (Phase.finished.inj same).symm

/-- At most one append reports a first summary, and none if there was a summary before. -/
theorem first_unique (l : Lasting backend first past cuts) {ticket ticket' : Ticket}
    {count count' : Nat}
    (one : (first.run backend past).shared.phases ticket = .finished (.compacted count .first))
    (other : (first.run backend past).shared.phases ticket' =
      .finished (.compacted count' .first)) :
    first.shared.contents.summary = none ∧ ticket = ticket' := by
  obtain ⟨cut, member, rfl, own⟩ := l.exists_cut one Outcome.noConfusion
  obtain ⟨cut', member', rfl, own'⟩ := l.exists_cut other Outcome.noConfusion
  have kind : cut.outcome.kind? = some .first := by rw [own]; rfl
  have kind' : cut'.outcome.kind? = some .first := by rw [own']; rfl
  obtain ⟨front, back, split⟩ := List.append_of_mem member
  obtain ⟨plain, before⟩ := (l.kinds front cut back split _ kind).mp rfl
  refine ⟨plain, ?_⟩
  rw [split] at member'
  rcases List.mem_append.mp member' with earlier | same | ⟨_, later⟩
  · rw [before cut' earlier] at kind'
    cases kind'
  · rfl
  · -- then the one is before the other
    obtain ⟨between, rest, rfl⟩ := List.append_of_mem later
    have after := (l.kinds (front ++ cut :: between) cut' rest (by simp [split]) _ kind').mp rfl
    rw [after.2 cut (by simp)] at kind
    cases kind

end Lasting

theorem Ledger.lasting (l : Ledger backend first past cuts base)
    (inhabited : first.shared.contents.summary ≠ some "")
    (chats : ∀ cut ∈ cuts, cut.setup.Chats backend) :
    (first.run backend past).shared.contents.summary ≠ some "" ∧
      ∀ front cut back, cuts = front ++ cut :: back → ∀ kind, cut.outcome.kind? = some kind →
        (kind = .first ↔ first.shared.contents.summary = none ∧
          ∀ other ∈ front, other.outcome.kind? = none) := by
  have answered (cut : Cut) (member : cut ∈ cuts) : cut.round.summary? ≠ some "" :=
    (l.genuine cut member).summary?_ne_empty (chats cut member)
  refine ⟨?_, fun front cut back split kind own => ?_⟩
  · rw [l.summary]
    exact Cut.summaryAfter_ne_empty inhabited answered
  · -- what the round found is the summary after those before it, and that one stands
    have found := l.previous front cut back split
    have present : Cut.summaryAfter first.shared.contents.summary front ≠ some "" :=
      Cut.summaryAfter_ne_empty inhabited fun other member =>
        answered other (by simp [split, member])
    rw [← found] at present
    rw [(l.genuine cut (by simp [split])).kind_eq_first_iff own,
      Condenser.standing_eq_self present, found, Cut.summaryAfter_eq_none_iff]

/-- If all summarizers and mergers that are ever chosen are chat models, a summary lasts, whatever
the models answer, and however choices and appends follow each other, overlap or are given up: if it
is not empty at first it never is, it is never lost, it changes only as appends end compacted, and
of these only the first, if there was no summary, reports a first one. -/
theorem run_lasting (backend : Backend) (setup : Setup) {contents : Contents}
    (inhabited : contents.summary ≠ some "") (earlier : List Call) (past : List Occurrence)
    (attached : ∀ choice ∈ (start setup.bare contents earlier).chosen backend past,
      choice.Chats backend) :
    ∃ cuts, Lasting backend (start setup.bare contents earlier) past cuts ∧
      ∀ ticket ticket' count count',
        ((start setup.bare contents earlier).run backend past).shared.phases ticket =
          .finished (.compacted count .first) →
        ((start setup.bare contents earlier).run backend past).shared.phases ticket' =
          .finished (.compacted count' .first) →
        contents.summary = none ∧ ticket = ticket' := by
  have bare := setup.chats_bare backend
  obtain ⟨cuts, base, l⟩ := ledger_run backend setup.bare contents earlier past
  have lasting : Lasting backend (start setup.bare contents earlier) past cuts := by
    refine ⟨fun before part => ?_, fun _ => summary_ne_none_of_prefix _ _ _ _, ?_, l.sheds,
      l.once, l.finished, (l.lasting inhabited (l.chats bare attached)).2⟩
    · obtain ⟨cuts, base, l⟩ := ledger_run backend setup.bare contents earlier before
      refine (l.lasting inhabited (l.chats bare fun choice member => attached choice ?_)).1
      obtain ⟨after, rfl⟩ := part
      rw [chosen_append]
      exact List.mem_append_left _ member
    · rintro before occurrence after rfl changed
      obtain ⟨cuts, base, l⟩ := ledger_run backend setup.bare contents earlier before
      have g := guarded_run (x := start setup.bare contents earlier)
        (.start setup.bare contents earlier) backend before
      rw [run_append_singleton] at changed ⊢
      exact (passage_apply ..).compacted_of_summary_ne g l.standing changed
  exact ⟨cuts, lasting, fun ticket ticket' count count' => lasting.first_unique⟩

/-- Cannot be reached, then has nothing to say, then gives two texts, is asked too often, and goes
on with a third text. -/
def hesitant : ChatModel where
  provider := "local"
  model := "hesitant"
  chat := Script.answer ⟨[.error (.of "offline"), .ok (.success []), .ok (.success [.text "A"]),
    .ok (.success [.text "B"]), .ok .rateLimited], fun _ => .ok (.success [.text "C"])⟩

/-- An append by itself, with enough steps for two questions. -/
def appending (ticket : Ticket) : List Event :=
  .submit ticket [.user "a", .user "b"] :: List.replicate 7 (.step ticket)

/-- A chat model is chosen, and of five appends the first is given up while it is asked. -/
def persevering : List Occurrence :=
  .choice (.summarizer (some "writer")) ::
    ((appending 0).take 4 ++ .cancel 0 :: [1, 2, 3, 4].flatMap appending).map .event

theorem run_lasting_hesitant :
    let first := start Setup.narrow.bare (.ofMessages [.user "c"]) []
    let backend := Backend.ofCapabilities fun _ => hesitant.capability summarizerPrompt
    ∃ cuts, Lasting backend first persevering cuts ∧
      (first.run backend persevering).shared.contents.summary = some "C" ∧
      [2, 3, 4].map (fun ticket =>
          ((first.run backend persevering).shared.phases ticket).outcome?) =
        [MergeKind.first, .replaced, .merged].map fun kind => some (.compacted 2 kind) := by
  intro first backend
  have attached : ∀ choice ∈ first.chosen backend persevering, choice.Chats backend := by
    intro choice member
    obtain rfl : choice = .summarizer (some "writer") := List.mem_singleton.mp member
    exact fun name _ => Backend.chats_ofCapabilities rfl
  obtain ⟨cuts, lasting, -⟩ := run_lasting backend .narrow (by decide) [] persevering attached
  exact ⟨cuts, lasting, by decide +kernel, by decide +kernel⟩

end Lifetime

end RollingHistory
