import Mathlib.Data.List.Forall2
import RollingHistory.Proofs.Accounting

/-!
What a history does is not up to the messages.

Take two histories that differ in their messages alone, as many here as there, and capabilities
that do not look at what they are asked (`Backend.Blind`). Whatever happens to both, with batches
of the same lengths, they stay `Twin`: both cut at the same points, ask the same capabilities, and
come to the same outcomes. So nobody can tell them apart but by the messages themselves, and by the
requests for a summary of them (`run_noninterfering`). The relation is carried through every
operation of an append, one lemma for each.
-/

namespace RollingHistory

/-! ## Capabilities that do not look at the prompt -/

namespace Call

/-- Who is asked, and the hint for the length of the answer. -/
def target (call : Call) : String × UInt32 := (call.capability, call.query.maxTokens)

/-- The calls are the same, or they ask the same capability for summaries of as many messages. -/
inductive Twin : Call → Call → Prop
  | same (call : Call) : Twin call call
  | summary (name : String) (maxTokens : UInt32) {segment segment' : List Message}
    (length : segment'.length = segment.length) :
    Twin ⟨name, ⟨Wording.summaryRequest segment, maxTokens⟩⟩
      ⟨name, ⟨Wording.summaryRequest segment', maxTokens⟩⟩

variable {call call' : Call} {calls calls' : List Call}

theorem Twin.target (h : Twin call call') : call'.target = call.target := by
  cases h with
  | same => rfl
  | summary name maxTokens =>
    show (name, maxTokens) = (name, maxTokens)
    rfl

/-- Only requests for a summary differ. -/
theorem Twin.eq_of_not_asksForSummary (h : Twin call call') (merge : ¬ call.AsksForSummary) :
    call' = call := by
  cases h with
  | same => rfl
  | summary => exact absurd ⟨_, rfl⟩ merge

theorem map_target_of_twin (h : List.Forall₂ Twin calls calls') :
    calls'.map Call.target = calls.map Call.target := by
  induction h with
  | nil => rfl
  | cons one _ ih => rw [List.map_cons, List.map_cons, one.target, ih]

theorem map_maxTokens_queriesTo (capability : String) (calls : List Call) :
    (queriesTo capability calls).map Query.maxTokens =
      ((calls.map Call.target).filter (·.1 = capability)).map Prod.snd := by
  rw [queriesTo, List.filter_map, List.map_map, List.map_map]
  rfl

end Call

/-- What a capability answers depends on the hints that it was given, and so on how often it was
asked, but not on any prompt. -/
def Capability.Blind (capability : Capability) : Prop :=
  ∀ ⦃earlier earlier' : List Query⦄ ⦃query query' : Query⦄,
    earlier'.map Query.maxTokens = earlier.map Query.maxTokens →
      query'.maxTokens = query.maxTokens → capability earlier' query' = capability earlier query

/-- What a backend answers depends on who was asked and with which hints, but not on any prompt. -/
def Backend.Blind (backend : Backend) : Prop :=
  ∀ ⦃earlier earlier' : List Call⦄ ⦃call call' : Call⦄,
    earlier'.map Call.target = earlier.map Call.target → call'.target = call.target →
      backend earlier' call' = backend earlier call

/-- The answers off a list are given whatever is asked. -/
theorem Script.blind_answer (script : Script Reply) : Capability.Blind script.answer := by
  intro earlier earlier' query query' same _
  have length := congrArg List.length same
  rw [List.length_map, List.length_map] at length
  simp only [answer, length]

theorem Backend.blind_ofCapabilities {directory : String → Capability}
    (blind : ∀ name, (directory name).Blind) : (ofCapabilities directory).Blind := by
  intro earlier earlier' call call' same target
  obtain ⟨capability, maxTokens⟩ := Prod.mk.inj target
  unfold ofCapabilities
  rw [capability]
  refine blind call.capability ?_ maxTokens
  rw [Call.map_maxTokens_queriesTo, Call.map_maxTokens_queriesTo, same]

/-! ## Twins -/

/-- Dialogues that go on in the same way after the same answers, with questions that are related. -/
inductive Dialogue.Twin {Q R α : Type} (related : Q → Q → Prop) :
    Dialogue Q R α → Dialogue Q R α → Prop
  | done (result : α) : Twin related (.done result) (.done result)
  | ask {question question' : Q} {resume resume' : R → Dialogue Q R α}
    (asked : related question question')
    (next : ∀ answer, Twin related (resume answer) (resume' answer)) :
    Twin related (.ask question resume) (.ask question' resume')

theorem Dialogue.Twin.refl {Q R α : Type} {related : Q → Q → Prop}
    (same : ∀ question, related question question) (d : Dialogue Q R α) : Twin related d d := by
  induction d with
  | done result => exact .done result
  | ask question resume ih => exact .ask (same question) ih

theorem Dialogue.Twin.heard {related : Call → Call → Prop} {d d' : Dialogue Call Reply Round}
    (h : Twin related d d') (removed : Nat) :
    RollingHistory.heard removed d' = RollingHistory.heard removed d := by
  cases h <;> rfl

/-- Contents with as many messages, and otherwise the same. -/
structure Contents.Twin (contents contents' : Contents) : Prop where
  length : contents'.live.length = contents.live.length
  summary : contents'.summary = contents.summary
  tally : contents'.tally = contents.tally

/-- Appends that have come equally far with as many messages. -/
inductive Phase.Twin : Phase → Phase → Prop
  | idle : Twin .idle .idle
  | waiting {batch batch' : List Message} (length : batch'.length = batch.length) :
    Twin (.waiting batch) (.waiting batch')
  | holding {batch batch' : List Message} (length : batch'.length = batch.length) :
    Twin (.holding batch) (.holding batch')
  | working {segment segment' : List Message} {rest rest' : Dialogue Call Reply Round}
    (length : segment'.length = segment.length) (onwards : Dialogue.Twin Call.Twin rest rest') :
    Twin (.working segment rest) (.working segment' rest')
  | awaiting {segment segment' : List Message} (reply : Reply)
    {resume resume' : Reply → Dialogue Call Reply Round}
    (length : segment'.length = segment.length)
    (onwards : ∀ reply, Dialogue.Twin Call.Twin (resume reply) (resume' reply)) :
    Twin (.awaiting segment reply resume) (.awaiting segment' reply resume')
  | finished (outcome : Outcome) : Twin (.finished outcome) (.finished outcome)
  | cancelled : Twin .cancelled .cancelled

theorem Phase.Twin.outcome? {phase phase' : Phase} (h : Twin phase phase') :
    phase'.outcome? = phase.outcome? := by
  cases h <;> rfl

/-- The same event, but for the messages of a batch. -/
inductive Event.Twin : Event → Event → Prop
  | submit (ticket : Ticket) {batch batch' : List Message} (length : batch'.length = batch.length) :
    Twin (.submit ticket batch) (.submit ticket batch')
  | step (ticket : Ticket) : Twin (.step ticket) (.step ticket)
  | cancel (ticket : Ticket) : Twin (.cancel ticket) (.cancel ticket)

/-- The same choice, or the same event but for the messages. -/
inductive Occurrence.Twin : Occurrence → Occurrence → Prop
  | choice (choice : Choice) : Twin (.choice choice) (.choice choice)
  | event {event event' : Event} (same : Event.Twin event event') :
    Twin (.event event) (.event event')

theorem Event.Twin.refl (event : Event) : Twin event event := by
  cases event with
  | submit ticket batch => exact .submit ticket rfl
  | step ticket => exact .step ticket
  | cancel ticket => exact .cancel ticket

theorem Occurrence.Twin.refl (occurrence : Occurrence) : Twin occurrence occurrence := by
  cases occurrence with
  | choice choice => exact .choice choice
  | event event => exact .event (.refl event)

/-! ## Cuts -/

namespace Contents.Twin

variable {contents contents' : Contents}

theorem extend (h : Twin contents contents') {batch batch' : List Message}
    (length : batch'.length = batch.length) :
    Twin (contents.extend batch) (contents'.extend batch') where
  length := by
    rw [live_extend, live_extend, List.length_append, List.length_append, h.length, length]
  summary := h.summary
  tally := h.tally

theorem commit (h : Twin contents contents') (removed : Nat) (round : Round) :
    Twin (contents.commit removed round) (contents'.commit removed round) where
  length := by rw [live_commit, live_commit, List.length_drop, List.length_drop, h.length]
  summary := congrArg round.summary?.or h.summary
  tally := by rw [tally_commit, tally_commit, h.tally]

theorem report (h : Twin contents contents') : contents'.report = contents.report := by
  unfold Contents.report
  rw [h.length, h.summary, h.tally]

theorem carrier (h : Twin contents contents') : contents'.carrier = contents.carrier := by
  unfold Contents.carrier
  rw [h.summary]

/-- Both are to shed as many messages. -/
theorem excess? (h : Twin contents contents') (setup : Setup) :
    (setup.excess? contents = none ∧ setup.excess? contents' = none) ∨
      ∃ segment segment', setup.excess? contents = some segment ∧
        setup.excess? contents' = some segment' ∧ segment'.length = segment.length := by
  unfold Setup.excess?
  rw [h.length]
  cases setup.settings.cut? contents.live.length with
  | none => exact .inl ⟨rfl, rfl⟩
  | some n =>
    refine .inr ⟨_, _, rfl, rfl, ?_⟩
    rw [List.length_take, List.length_take, h.length]

/-- The rounds over segments of the same length differ in the request for a summary only. -/
theorem round (h : Twin contents contents') (setup : Setup) {segment segment' : List Message}
    (length : segment'.length = segment.length) :
    Dialogue.Twin Call.Twin (setup.round contents segment) (setup.round contents' segment') := by
  unfold Setup.round
  rw [h.summary]
  cases given : setup.condenser.summarizer with
  | none =>
    rw [Condenser.condense_of_no_summarizer given, Condenser.condense_of_no_summarizer given]
    exact .done _
  | some name =>
    rw [Condenser.condense_of_summarizer given, Condenser.condense_of_summarizer given]
    exact .ask (.summary name _ length) fun _ => .refl Call.Twin.same _

end Contents.Twin

/-! ## One operation -/

namespace Shared

/-- The states differ in messages and in requests for summaries of them. -/
structure Twin (s s' : Shared) : Prop where
  contents : Contents.Twin s.contents s'.contents
  holder : s'.holder = s.holder
  queue : s'.queue = s.queue
  phases : ∀ ticket, Phase.Twin (s.phases ticket) (s'.phases ticket)
  completed : s'.completed = s.completed
  calls : List.Forall₂ Call.Twin s.calls s'.calls
  records : s'.records = s.records

namespace Twin

variable {s s' : Shared}

theorem withPhase (h : Twin s s') (ticket : Ticket) {phase phase' : Phase}
    (own : Phase.Twin phase phase') :
    Twin (s.withPhase ticket phase) (s'.withPhase ticket phase') := by
  refine ⟨h.contents, h.holder, h.queue, fun other => ?_, h.completed, h.calls, h.records⟩
  by_cases same : other = ticket
  · rw [same, phases_withPhase_self, phases_withPhase_self]
    exact own
  · rw [phases_withPhase_of_ne same, phases_withPhase_of_ne same]
    exact h.phases other

theorem finish (h : Twin s s') (ticket : Ticket) (outcome : Outcome) :
    Twin (s.finish ticket outcome) (s'.finish ticket outcome) := by
  unfold Shared.finish
  refine withPhase ?_ ticket (.finished outcome)
  have completed : s'.completed ++ [ticket] = s.completed ++ [ticket] := by rw [h.completed]
  exact ⟨h.contents, rfl, h.queue, h.phases, completed, h.calls, h.records⟩

/-- Both may have new contents and record the same. -/
theorem record (h : Twin s s') {contents contents' : Contents}
    (twin : Contents.Twin contents contents') (more : List LogRecord) :
    Twin { s with contents, records := s.records ++ more }
      { s' with contents := contents', records := s'.records ++ more } := by
  have records : s'.records ++ more = s.records ++ more := by rw [h.records]
  exact ⟨twin, h.holder, h.queue, h.phases, h.completed, h.calls, records⟩

theorem submit (h : Twin s s') (ticket : Ticket) {batch batch' : List Message}
    (length : batch'.length = batch.length) :
    Twin (s.submit ticket batch) (s'.submit ticket batch') := by
  have phase := h.phases ticket
  unfold Shared.submit
  generalize s.phases ticket = p, s'.phases ticket = p' at phase
  cases phase with
  | idle =>
    refine withPhase ?_ ticket (.waiting length)
    have queue : s'.queue ++ [ticket] = s.queue ++ [ticket] := by rw [h.queue]
    exact ⟨h.contents, h.holder, queue, h.phases, h.completed, h.calls, h.records⟩
  | _ => exact h

theorem cancel (h : Twin s s') (ticket : Ticket) : Twin (s.cancel ticket) (s'.cancel ticket) := by
  have phase := h.phases ticket
  have dropped : Twin ({ s with holder := none }.withPhase ticket .cancelled)
      ({ s' with holder := none }.withPhase ticket .cancelled) := by
    refine withPhase ?_ ticket .cancelled
    exact ⟨h.contents, rfl, h.queue, h.phases, h.completed, h.calls, h.records⟩
  unfold Shared.cancel
  generalize s.phases ticket = p, s'.phases ticket = p' at phase
  cases phase with
  | waiting =>
    refine withPhase ?_ ticket .cancelled
    have queue : s'.queue.erase ticket = s.queue.erase ticket := by rw [h.queue]
    exact ⟨h.contents, h.holder, queue, h.phases, h.completed, h.calls, h.records⟩
  | holding | working | awaiting => exact dropped
  | idle | finished | cancelled => exact h

theorem acquire (h : Twin s s') (ticket : Ticket) {batch batch' : List Message}
    (length : batch'.length = batch.length) :
    Twin (s.acquire ticket batch) (s'.acquire ticket batch') := by
  unfold Shared.acquire
  rw [h.holder, h.queue]
  split
  · split
    · refine withPhase ?_ ticket (.holding length)
      exact ⟨h.contents, rfl, rfl, h.phases, h.completed, h.calls, h.records⟩
    · exact h
  · exact h

/-- Both fit, or both begin a round over as many messages. -/
theorem extend (h : Twin s s') (setup : Setup) (ticket : Ticket) {batch batch' : List Message}
    (length : batch'.length = batch.length) :
    Twin (Shared.extend setup s ticket batch) (Shared.extend setup s' ticket batch') := by
  have joined := h.contents.extend length
  unfold Shared.extend
  dsimp only
  rcases joined.excess? setup with ⟨fits, fits'⟩ | ⟨segment, segment', excess, excess', same⟩
  · rw [fits, fits']
    refine finish ?_ ticket .noop
    exact ⟨joined, h.holder, h.queue, h.phases, h.completed, h.calls, h.records⟩
  · have trigger : setup.trigger (s'.contents.extend batch') segment'.length =
        setup.trigger (s.contents.extend batch) segment.length := by
      unfold Setup.trigger
      rw [joined.length, same]
    rw [excess, excess']
    dsimp only
    rw [trigger]
    exact withPhase (h.record joined _) ticket (.working same (joined.round setup same))

/-- Both make a call, of which the backend cannot tell one from the other. -/
theorem ask (h : Twin s s') {backend : Backend} (blind : backend.Blind) (ticket : Ticket)
    {segment segment' : List Message} (length : segment'.length = segment.length)
    {call call' : Call} (asked : Call.Twin call call')
    {resume resume' : Reply → Dialogue Call Reply Round}
    (onwards : ∀ reply, Dialogue.Twin Call.Twin (resume reply) (resume' reply)) :
    Twin (Shared.ask backend s ticket segment call resume)
      (Shared.ask backend s' ticket segment' call' resume') := by
  have answer : backend s'.calls call' = backend s.calls call :=
    blind (Call.map_target_of_twin h.calls) asked.target
  have calls : List.Forall₂ Call.Twin (s.calls ++ [call]) (s'.calls ++ [call']) :=
    List.rel_append h.calls (.cons asked .nil)
  unfold Shared.ask
  rw [answer]
  refine withPhase ?_ ticket (.awaiting _ length onwards)
  exact ⟨h.contents, h.holder, h.queue, h.phases, h.completed, calls, h.records⟩

/-- Both take the same answer, and what goes wrong with it is the same. -/
theorem hear (h : Twin s s') (ticket : Ticket) {segment segment' : List Message}
    (length : segment'.length = segment.length) {rest rest' : Dialogue Call Reply Round}
    (onwards : Dialogue.Twin Call.Twin rest rest') :
    Twin (s.hear ticket segment rest) (s'.hear ticket segment' rest') := by
  unfold Shared.hear
  rw [length, onwards.heard]
  exact withPhase (h.record h.contents _) ticket (.working length onwards)

theorem commit (h : Twin s s') (ticket : Ticket) {segment segment' : List Message}
    (length : segment'.length = segment.length) (round : Round) :
    Twin (s.commit ticket segment round) (s'.commit ticket segment' round) := by
  have shed := h.contents.commit segment.length round
  unfold Shared.commit
  rw [length]
  dsimp only
  rw [shed.tally]
  exact finish (h.record shed _) ticket _

theorem step (h : Twin s s') (setup : Setup) {backend : Backend} (blind : backend.Blind)
    (ticket : Ticket) :
    Twin (s.step setup backend ticket) (s'.step setup backend ticket) := by
  have phase := h.phases ticket
  unfold Shared.step
  generalize s.phases ticket = p, s'.phases ticket = p' at phase
  cases phase with
  | waiting length => exact h.acquire ticket length
  | holding length => exact h.extend setup ticket length
  | working length onwards =>
    cases onwards with
    | done round => exact h.commit ticket length round
    | ask asked next => exact h.ask blind ticket length asked next
  | awaiting reply length onwards => exact h.hear ticket length (onwards reply)
  | idle | finished | cancelled => exact h

theorem apply (h : Twin s s') (setup : Setup) {backend : Backend} (blind : backend.Blind)
    {event event' : Event} (same : Event.Twin event event') :
    Twin (s.apply setup backend event) (s'.apply setup backend event') := by
  cases same with
  | submit ticket length => exact h.submit ticket length
  | step ticket => exact h.step setup blind ticket
  | cancel ticket => exact h.cancel ticket

end Twin

end Shared

/-! ## Whole lives -/

namespace Lifetime

/-- The lives have the same setup, and differ in messages and requests for summaries of them. -/
structure Twin (x x' : Lifetime) : Prop where
  setup : x'.setup = x.setup
  shared : Shared.Twin x.shared x'.shared

/-- Whoever is told outcomes or reads anything but messages, answers calls, or keeps records finds
no difference between two lives but in the requests for summaries. -/
structure SameButMessages (x x' : Lifetime) : Prop where
  setup : x'.setup = x.setup
  outcomes : ∀ ticket, (x'.shared.phases ticket).outcome? = (x.shared.phases ticket).outcome?
  completed : x'.shared.completed = x.shared.completed
  report : x'.shared.contents.report = x.shared.contents.report
  summary : x'.shared.contents.summary = x.shared.contents.summary
  /-- The lists start with the same message if there is a summary, and are equally long. -/
  carrier : x'.shared.contents.carrier = x.shared.contents.carrier
  length : x'.shared.contents.list.length = x.shared.contents.list.length
  /-- With the messages of the one, the other has the same snapshot. -/
  snapshot : History.snapshot ⟨x'.setup,
      ⟨x.shared.contents.live, x'.shared.contents.summary, x'.shared.contents.tally⟩⟩ =
    History.snapshot ⟨x.setup, x.shared.contents⟩
  records : x'.shared.records = x.shared.records
  targets : x'.shared.calls.map Call.target = x.shared.calls.map Call.target
  calls : List.Forall₂ Call.Twin x.shared.calls x'.shared.calls
  /-- What is not a request for a summary is the same in both. -/
  merges : List.Forall₂ (fun call call' => ¬ call.AsksForSummary → call' = call)
    x.shared.calls x'.shared.calls

variable {backend : Backend} {x x' : Lifetime}

theorem Twin.apply (h : Twin x x') (blind : backend.Blind) {occurrence occurrence' : Occurrence}
    (same : Occurrence.Twin occurrence occurrence') :
    Twin (x.apply backend occurrence) (x'.apply backend occurrence') := by
  cases same with
  | choice choice =>
    have quiet : x'.isQuiet = x.isQuiet := by
      unfold isQuiet
      rw [h.shared.holder, h.shared.queue]
    unfold Lifetime.apply
    dsimp only
    rw [quiet]
    split
    · exact ⟨congrArg (Setup.choose · choice) h.setup, h.shared⟩
    · exact h
  | event same =>
    refine ⟨h.setup, ?_⟩
    show Shared.Twin _ (x'.shared.apply x'.setup backend _)
    rw [h.setup]
    exact h.shared.apply x.setup blind same

theorem Twin.run (h : Twin x x') (blind : backend.Blind)
    {occurrences occurrences' : List Occurrence}
    (same : List.Forall₂ Occurrence.Twin occurrences occurrences') :
    Twin (x.run backend occurrences) (x'.run backend occurrences') := by
  induction same generalizing x x' with
  | nil => exact h
  | cons one _ ih => exact ih (h.apply blind one)

theorem Twin.sameButMessages (h : Twin x x') : SameButMessages x x' where
  setup := h.setup
  outcomes ticket := (h.shared.phases ticket).outcome?
  completed := h.shared.completed
  report := h.shared.contents.report
  summary := h.shared.contents.summary
  carrier := h.shared.contents.carrier
  length := by
    unfold Contents.list
    rw [List.length_append, List.length_append, h.shared.contents.carrier,
      h.shared.contents.length]
  snapshot := by
    rw [h.setup, h.shared.contents.summary, h.shared.contents.tally]
  records := h.shared.records
  targets := Call.map_target_of_twin h.shared.calls
  calls := h.shared.calls
  merges := h.shared.calls.imp fun _ _ twin => twin.eq_of_not_asksForSummary

/-- Two histories under the same setup with as many messages and otherwise the same contents, which
live through the same but for the messages, and whose capabilities do not look at what they are
asked, are the same but for the messages after every occurrence. -/
theorem run_noninterfering (blind : backend.Blind) (setup : Setup) {contents contents' : Contents}
    (first : Contents.Twin contents contents') {earlier earlier' : List Call}
    (before : List.Forall₂ Call.Twin earlier earlier') {past past' : List Occurrence}
    (same : List.Forall₂ Occurrence.Twin past past') (n : Nat) :
    SameButMessages ((start setup contents earlier).run backend (past.take n))
      ((start setup contents' earlier').run backend (past'.take n)) := by
  have start : Twin (start setup contents earlier) (start setup contents' earlier') :=
    ⟨rfl, first, rfl, rfl, fun _ => .idle, rfl, before, rfl⟩
  exact (start.run blind (List.forall₂_take n same)).sameButMessages

/-- A writer that never fails, and an editor that does so at first. -/
def newsroom : String → Capability := fun name =>
  Script.answer ⟨if name = "editor" then [.error (.of "busy")] else [], Script.numbered⟩

/-- One message, a summary, and one earlier call. -/
def begun (text : String) : Lifetime :=
  start (Setup.narrow.withMerger (some "editor")) ⟨[.user text], some "s", ⟨3, 7⟩⟩
    [Setup.narrow.summaryCall "writer" [.user text]]

/-- Two messages more, of which one is shed with the one before. The older summary is lost. -/
def telling (text : String) : List Occurrence :=
  .event (.submit 0 [.user text, .user "b"]) :: List.replicate 7 (.event (.step 0))

theorem run_noninterfering_telling :
    SameButMessages ((begun "a").run (.ofCapabilities newsroom) (telling "public"))
        ((begun "A").run (.ofCapabilities newsroom) (telling "secret")) ∧
      (((begun "a").run (.ofCapabilities newsroom) (telling "public")).shared.phases 0).outcome? =
        some (.compacted 2 .replaced) := by
  have blind : (Backend.ofCapabilities newsroom).Blind :=
    Backend.blind_ofCapabilities fun name => Script.blind_answer _
  have first : Contents.Twin ⟨[.user "a"], some "s", ⟨3, 7⟩⟩ ⟨[.user "A"], some "s", ⟨3, 7⟩⟩ :=
    ⟨rfl, rfl, rfl⟩
  have before : List.Forall₂ Call.Twin [Setup.narrow.summaryCall "writer" [.user "a"]]
      [Setup.narrow.summaryCall "writer" [.user "A"]] := .cons (.summary "writer" _ rfl) .nil
  have same : List.Forall₂ Occurrence.Twin (telling "public") (telling "secret") :=
    .cons (.event (.submit 0 rfl)) (List.forall₂_same.mpr fun occurrence _ => .refl occurrence)
  have alike := run_noninterfering blind (Setup.narrow.withMerger (some "editor")) first before
    same 8
  have whole (text : String) : (telling text).take 8 = telling text := rfl
  rw [whole, whole] at alike
  exact ⟨alike, rfl⟩

end Lifetime

end RollingHistory
