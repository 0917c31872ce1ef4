import RollingHistory.Proofs.Cuts
import RollingHistory.Proofs.Joining

/-!
Every message that went is accounted for once.

A summary is asked for once for each segment that goes, if there is a summarizer, and the rest of
the calls ask for merges (`Cut.told_of_genuine`). Since the segments stand one behind the other
and before the live messages, no message is in two of them, none is in none, and none that stays is
in what the summarizer is asked about (`run_reconciled`). The owner may choose other capabilities
on the way.
-/

namespace RollingHistory

/-! ## What is asked -/

theorem Dialogue.run_map {Q R α β : Type} (answerer : List Q → Q → R) (earlier : List Q) (f : α → β)
    (d : Dialogue Q R α) :
    (f <$> d).run answerer earlier =
      (f (d.run answerer earlier).1, (d.run answerer earlier).2) := by
  induction d generalizing earlier with
  | done result => rfl
  | ask question resume ih =>
    rw [show f <$> Dialogue.ask question resume = .ask question fun answer => f <$> resume answer
      from rfl, run_ask, run_ask, ih]

namespace Wording

/-- A merge is not asked for in the words of a summary: the first lines differ. -/
theorem mergeRequest_ne_summaryRequest (older newer : String) (messages : List Message) :
    mergeRequest older newer ≠ summaryRequest messages := by
  intro same
  have merge : "请合并以下两段对话摘要，生成一个连贯统一的总结。".toList <+:
      (mergeRequest older newer).toList := Text.prefix_intercalate ..
  have summary : "请总结以下对话的关键信息。你的摘要应该：".toList <+:
      (summaryRequest messages).toList := Text.prefix_intercalate ..
  rw [same] at merge
  rcases List.prefix_or_prefix_of_prefix merge summary with h | h
  · exact absurd h (by decide)
  · exact absurd h (by decide)

end Wording

/-- The call asks for a summary of messages. -/
def Call.AsksForSummary (call : Call) : Prop :=
  ∃ messages, call.query.prompt = Wording.summaryRequest messages

/-- The call that asks for a summary of a segment. -/
def Setup.summaryCall (setup : Setup) (name : String) (segment : List Message) : Call :=
  ⟨name, ⟨Wording.summaryRequest segment, setup.settings.summaryTokens⟩⟩

/-- A merger does not ask for a summary of messages. -/
theorem Merger.calls_merge (merger : Merger) (backend : Backend) (earlier : List Call)
    (older : Option String) (newer : String) :
    ∀ call ∈ ((merger.merge older newer).run backend earlier).2, ¬ call.AsksForSummary := by
  cases older with
  | none => exact fun _ h => absurd h List.not_mem_nil
  | some older =>
    cases h : merger.capability with
    | none =>
      rw [merge_of_no_capability h]
      exact fun _ h => absurd h List.not_mem_nil
    | some name =>
      rw [merge_of_capability h, Dialogue.run_ask]
      rintro call member ⟨messages, same⟩
      obtain rfl := List.mem_singleton.mp member
      exact Wording.mergeRequest_ne_summaryRequest older newer messages same

namespace Setup

variable {setup : Setup} {name : String}

/-- Without a summarizer nobody is asked for anything. -/
theorem run_condense_of_no_summarizer (h : setup.summarizer = none) (segment : List Message)
    (previous : Option String) (backend : Backend) (earlier : List Call) :
    (setup.condenser.condense segment previous).run backend earlier =
      (.truncated .noSummarizer, []) := by
  rw [Condenser.condense_of_no_summarizer h]
  rfl

theorem condense_eq_ask (h : setup.summarizer = some name) (segment : List Message)
    (previous : Option String) :
    setup.condenser.condense segment previous =
      .ask (setup.summaryCall name segment) (setup.condenser.conclude previous) :=
  Condenser.condense_of_summarizer h segment previous

/-- A summary that the summarizer gives is merged with the one that stands, by further calls if the
merger makes any. -/
theorem run_condense_of_answer (h : setup.summarizer = some name) {segment : List Message}
    {backend : Backend} {earlier : List Call} {fresh : String}
    (answer : backend earlier (setup.summaryCall name segment) = .ok fresh)
    (previous : Option String) :
    let call := setup.summaryCall name segment
    let merging := (setup.condenser.effectiveMerger.merge (Condenser.standing previous) fresh).run
      backend (earlier ++ [call])
    (setup.condenser.condense segment previous).run backend earlier =
      (.summarized merging.1, call :: merging.2) := by
  rw [condense_eq_ask h, Dialogue.run_ask, answer, Condenser.conclude, Dialogue.run_map]

/-- After a summarizer that fails nobody else is asked. -/
theorem run_condense_of_failure (h : setup.summarizer = some name) {segment : List Message}
    {backend : Backend} {earlier : List Call} {failure : Failure}
    (answer : backend earlier (setup.summaryCall name segment) = .error failure)
    (previous : Option String) :
    (setup.condenser.condense segment previous).run backend earlier =
      (.truncated (.summarizerFailed failure), [setup.summaryCall name segment]) := by
  rw [condense_eq_ask h, Dialogue.run_ask, answer, Condenser.conclude, Dialogue.run_done]

/-- A summarizer is asked first and decides by its answer how the round ends; after that there are
only calls to merge. -/
theorem run_condense_of_summarizer (h : setup.summarizer = some name) (segment : List Message)
    (previous : Option String) (backend : Backend) (earlier : List Call) :
    ∃ round merging,
      (setup.condenser.condense segment previous).run backend earlier =
        (round, setup.summaryCall name segment :: merging) ∧
      (∀ call ∈ merging, ¬ call.AsksForSummary) ∧
      match backend earlier (setup.summaryCall name segment) with
      | .ok _ => ∃ merged, round = .summarized merged
      | .error failure => round = .truncated (.summarizerFailed failure) := by
  cases answer : backend earlier (setup.summaryCall name segment) with
  | error failure =>
    have ran := run_condense_of_failure h answer previous
    exact ⟨_, [], ran, fun _ member => absurd member List.not_mem_nil, rfl⟩
  | ok fresh =>
    have ran := run_condense_of_answer h answer previous
    exact ⟨_, _, ran, Merger.calls_merge _ _ _ _ _, _, rfl⟩

end Setup

/-! ## Cuts -/

namespace Cut

/-- What the summarizer was told of the segment of a cut, and what came of it. -/
structure Told (backend : Backend) (cut : Cut) : Prop where
  removed : cut.outcome.removed = cut.segment.length
  /-- Without a summarizer nobody is asked. -/
  unasked : cut.setup.summarizer = none →
    cut.calls = [] ∧ cut.outcome = .truncated cut.segment.length .noSummarizer
  /-- A summarizer is asked for a summary once, and about this segment. -/
  asked : ∀ name, cut.setup.summarizer = some name →
    ∃ merging, cut.calls = cut.setup.summaryCall name cut.segment :: merging ∧
      ∀ call ∈ merging, ¬ call.AsksForSummary
  compacted_iff : (∃ count kind, cut.outcome = .compacted count kind) ↔
    ∃ name text, cut.setup.summarizer = some name ∧
      backend cut.earlier (cut.setup.summaryCall name cut.segment) = .ok text
  failed : ∀ name failure, cut.setup.summarizer = some name →
    backend cut.earlier (cut.setup.summaryCall name cut.segment) = .error failure →
      cut.outcome = .truncated cut.segment.length (.summarizerFailed failure)

namespace Genuine

variable {backend : Backend} {cut : Cut} {name : String}

theorem unasked (genuine : cut.Genuine backend) (h : cut.setup.summarizer = none) :
    cut.calls = [] ∧ cut.outcome = .truncated cut.segment.length .noSummarizer := by
  unfold Genuine at genuine
  rw [Setup.run_condense_of_no_summarizer h] at genuine
  obtain ⟨round, calls⟩ := Prod.mk.inj genuine
  refine ⟨calls.symm, ?_⟩
  rw [outcome, ← round]
  rfl

theorem asked (genuine : cut.Genuine backend) (h : cut.setup.summarizer = some name) :
    ∃ merging, cut.calls = cut.setup.summaryCall name cut.segment :: merging ∧
      ∀ call ∈ merging, ¬ call.AsksForSummary := by
  obtain ⟨round, merging, ran, merges, -⟩ := Setup.run_condense_of_summarizer h cut.segment
    cut.previous backend cut.earlier
  obtain ⟨-, calls⟩ := Prod.mk.inj (ran.symm.trans genuine)
  exact ⟨merging, calls.symm, merges⟩

/-- A round ends without a summarizer, or with one that fails, or by merging what it gives. -/
theorem round_cases (genuine : cut.Genuine backend) :
    (cut.setup.summarizer = none ∧ cut.round = .truncated .noSummarizer ∧ cut.calls = []) ∨
    (∃ name failure, cut.setup.summarizer = some name ∧
      backend cut.earlier (cut.setup.summaryCall name cut.segment) = .error failure ∧
      cut.round = .truncated (.summarizerFailed failure) ∧
      cut.calls = [cut.setup.summaryCall name cut.segment]) ∨
    ∃ name fresh, cut.setup.summarizer = some name ∧
      backend cut.earlier (cut.setup.summaryCall name cut.segment) = .ok fresh ∧
      let merging := (cut.setup.condenser.effectiveMerger.merge
        (Condenser.standing cut.previous) fresh).run backend
        (cut.earlier ++ [cut.setup.summaryCall name cut.segment])
      cut.round = .summarized merging.1 ∧
        cut.calls = cut.setup.summaryCall name cut.segment :: merging.2 := by
  unfold Genuine at genuine
  cases given : cut.setup.summarizer with
  | none =>
    rw [Setup.run_condense_of_no_summarizer given] at genuine
    obtain ⟨round, calls⟩ := Prod.mk.inj genuine
    exact .inl ⟨rfl, round.symm, calls.symm⟩
  | some name =>
    cases answer : backend cut.earlier (cut.setup.summaryCall name cut.segment) with
    | error failure =>
      rw [Setup.run_condense_of_failure given answer] at genuine
      obtain ⟨round, calls⟩ := Prod.mk.inj genuine
      exact .inr (.inl ⟨name, failure, rfl, answer, round.symm, calls.symm⟩)
    | ok fresh =>
      rw [Setup.run_condense_of_answer given answer] at genuine
      obtain ⟨round, calls⟩ := Prod.mk.inj genuine
      exact .inr (.inr ⟨name, fresh, rfl, answer, round.symm, calls.symm⟩)

/-- The answer to the request for a summary decides what the append comes to. -/
theorem outcome_of_answer (genuine : cut.Genuine backend)
    (h : cut.setup.summarizer = some name) :
    match backend cut.earlier (cut.setup.summaryCall name cut.segment) with
    | .ok _ => ∃ kind, cut.outcome = .compacted cut.segment.length kind
    | .error failure =>
      cut.outcome = .truncated cut.segment.length (.summarizerFailed failure) := by
  obtain ⟨round, merging, ran, -, ended⟩ := Setup.run_condense_of_summarizer h cut.segment
    cut.previous backend cut.earlier
  obtain ⟨rfl, -⟩ := Prod.mk.inj (ran.symm.trans genuine)
  cases answer : backend cut.earlier (cut.setup.summaryCall name cut.segment) with
  | ok text =>
    rw [answer] at ended
    obtain ⟨merged, ended⟩ := ended
    refine ⟨merged.kind, ?_⟩
    rw [outcome, ended]
    rfl
  | error failure =>
    rw [answer] at ended
    dsimp only at ended ⊢
    rw [outcome, ended]
    rfl

end Genuine

theorem told_of_genuine {backend : Backend} {cut : Cut} (genuine : cut.Genuine backend) :
    cut.Told backend where
  removed := Outcome.removed_ofRound ..
  unasked := genuine.unasked
  asked _ := genuine.asked
  compacted_iff := by
    constructor
    · rintro ⟨count, kind, compacted⟩
      cases h : cut.setup.summarizer with
      | none =>
        rw [(genuine.unasked h).2] at compacted
        cases compacted
      | some name =>
        have decided := genuine.outcome_of_answer h
        cases answer : backend cut.earlier (cut.setup.summaryCall name cut.segment) with
        | ok text => exact ⟨name, text, rfl, answer⟩
        | error failure =>
          rw [answer] at decided
          rw [decided] at compacted
          cases compacted
    · rintro ⟨name, text, h, answer⟩
      have decided := genuine.outcome_of_answer h
      rw [answer] at decided
      exact ⟨cut.segment.length, decided⟩
  failed name failure h answer := by
    have decided := genuine.outcome_of_answer h
    rw [answer] at decided
    exact decided

end Cut

namespace Lifetime

open Shared

variable {backend : Backend} {base : List Call}

/-- The calls made so far for the round under way, of which a summary of its segment is the only one
asked for. Nothing of that segment is gone yet. -/
inductive Pending (x : Lifetime) : List Call → Prop
  | nothing : Pending x []
  | asked {ticket : Ticket} {segment : List Message} {name : String} {merging : List Call}
    (own : (x.shared.phases ticket).segment? = some segment)
    (front : segment <+: x.shared.contents.live) (given : x.setup.summarizer = some name)
    (merges : ∀ call ∈ merging, ¬ call.AsksForSummary) :
    Pending x (x.setup.summaryCall name segment :: merging)

theorem pending_of_remaining {x : Lifetime} (g : Guarded x.setup x.shared) {j : Journal}
    {batch segment : List Message} {told : List LogRecord} {rest : Dialogue Call Reply Round}
    {ticket : Ticket} (own : (x.shared.phases ticket).segment? = some segment)
    (r : Remaining x.setup backend j batch x.shared segment told rest) {pending : List Call}
    (calls : x.shared.calls = j.calls ++ pending) : Pending x pending := by
  have made := r.calls
  rw [calls, List.append_assoc, List.append_cancel_left_eq] at made
  have within : pending <+:
      ((x.setup.round x.shared.contents segment).run backend j.calls).2 := ⟨_, made⟩
  unfold Setup.round at within
  cases given : x.setup.summarizer with
  | none =>
    rw [Setup.run_condense_of_no_summarizer given] at within
    rw [List.prefix_nil.mp within]
    exact .nothing
  | some name =>
    obtain ⟨round, merging, ran, merges, -⟩ := Setup.run_condense_of_summarizer given segment
      x.shared.contents.summary backend j.calls
    rw [ran] at within
    rcases List.prefix_cons_iff.mp within with rfl | ⟨some, rfl, part⟩
    · exact .nothing
    · refine .asked own ?_ given fun call member => merges call (part.subset member)
      exact ⟨_, Setup.excess_append_drop (g.excess ticket segment own)⟩

theorem exists_pending {x : Lifetime} (g : Guarded x.setup x.shared)
    (p : Standing x.setup backend base x.shared) :
    ∃ pending, x.shared.calls = base ++ pending ∧ Pending x pending ∧
      (x.shared.holder = none → pending = []) := by
  cases p with
  | free holder calls => exact ⟨[], by rw [List.append_nil, calls], .nothing, fun _ => rfl⟩
  | @busy j ticket batch calls begun underway =>
    subst calls
    obtain ⟨pending, split⟩ := begun
    refine ⟨pending, split.symm, ?_, fun free => absurd free (underway.holder_ne_none g)⟩
    generalize own : x.shared.phases ticket = phase at underway
    cases underway with
    | holding m =>
      have nothing : pending = [] := List.append_right_eq_self.mp (split.trans m.calls)
      rw [nothing]
      exact .nothing
    | working r | awaiting r => exact pending_of_remaining g (by rw [own]; rfl) r split.symm

/-! ## The account of a life -/

/-- `cuts` account for the messages and the calls of a life. -/
structure Reconciled (backend : Backend) (first : Lifetime) (past : List Occurrence)
    (cuts : List Cut) : Prop where
  /-- The first messages and those that joined are the segments in order, then the live ones. -/
  messages : first.shared.contents.live ++ (first.joined backend past).flatten =
    (cuts.map Cut.segment).flatten ++ (first.run backend past).shared.contents.live
  /-- The segments went in this order. -/
  commits : first.sheds backend past = cuts.map fun cut => (cut.ticket, cut.segment)
  /-- There is one for each append that is finished and not a noop, and none for any other. -/
  once : ∀ ticket, (cuts.countP fun cut => cut.ticket = ticket) =
    ((first.run backend past).shared.phases ticket).cuts
  finished : ∀ cut ∈ cuts, (first.run backend past).shared.phases cut.ticket = .finished cut.outcome
  /-- What is live after a commit has no part in its segment. -/
  made : ∀ cut ∈ cuts, MadeIn backend first past cut
  told : ∀ cut ∈ cuts, cut.Told backend
  /-- Each was asked after the calls of those before it. -/
  earlier : ∀ front cut back, cuts = front ++ cut :: back →
    cut.earlier = Cut.callsAfter first.shared.calls front
  /-- There are no other calls, but for a round under way. -/
  calls : ∃ pending, (first.run backend past).shared.calls =
      Cut.callsAfter first.shared.calls cuts ++ pending ∧
    Pending (first.run backend past) pending ∧
      ((first.run backend past).shared.holder = none → pending = [])

/-- As long as no append is given up, all messages that went and all calls are accounted for by the
commits, whatever the owner chooses between appends and whatever the backend answers. -/
theorem run_reconciled (backend : Backend) (setup : Setup) (contents : Contents)
    (earlier : List Call) (past : List Occurrence)
    (kept : ∀ occurrence ∈ past, occurrence.isCancel = false) :
    ∃ cuts, Reconciled backend (start setup contents earlier) past cuts := by
  obtain ⟨cuts, base, l⟩ := ledger_run backend setup contents earlier past
  have g := guarded_run (x := start setup contents earlier) (.start setup contents earlier)
    backend past
  have a := accounted_run (x := start setup contents earlier) (.start setup contents earlier)
    backend past
  obtain ⟨rfl, chained⟩ := l.kept kept
  refine ⟨cuts, ?_, l.sheds, ?_, l.finished, l.made,
    fun cut member => Cut.told_of_genuine (l.genuine cut member), chained,
    exists_pending g l.standing⟩
  · have messages := a.messages
    rw [l.sheds, List.map_map] at messages
    exact messages
  · intro ticket
    rw [← cuts_run, l.sheds, List.countP_map]
    rfl

/-- An append whose summary is merged with an older one, then no summarizer any more, and two
appends of which the second waits for the first and sheds nothing. -/
def changing : List Occurrence :=
  (Event.submit 0 [.user "b", .user "c"] :: List.replicate 7 (.step 0)).map .event ++
    .choice (.summarizer none) ::
    [Event.submit 1 [.user "d", .user "e"], .step 1, .submit 2 [.user "f"], .step 2, .step 1,
      .step 1, .step 2, .step 2].map .event

theorem run_reconciled_changing :
    ∃ cuts, Reconciled .numbered (start .narrow ⟨[.user "a"], some "s", ⟨3, 7⟩⟩ []) changing cuts ∧
      cuts.map (fun cut => (cut.ticket, cut.segment)) =
        [(0, [.user "a", .user "b"]), (1, [.user "c", .user "d"])] := by
  obtain ⟨cuts, r⟩ := run_reconciled .numbered .narrow ⟨[.user "a"], some "s", ⟨3, 7⟩⟩ [] changing
    (by decide)
  exact ⟨cuts, r, r.commits.symm.trans rfl⟩

end Lifetime

end RollingHistory
