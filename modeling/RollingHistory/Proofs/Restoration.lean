import RollingHistory.Proofs.Gate
import RollingHistory.Proofs.Interface

/-!
A restored history goes on as the original would.

A history written as JSON is read back under any settings that agree with its own on the hints and
on whether it may be cut (`ofJson_toJson`); the thresholds of the reader do not matter. Once it has
the same capabilities, nobody can tell it from the original (`restored_indistinguishable`). An
append that was under way is not in a snapshot, so the original is taken as if it were given up,
and those that wait for the gate are submitted anew. `Alike` is the simulation: the two states
differ only in what is over, and in the calls and records of before.
-/

namespace RollingHistory

/-! ## Reading back what was written -/

/-- The names of the roles that have one. -/
def Role.names : List String := ["user", "assistant", "system", "tool"]

theorem Role.known?_eq_none {name : String} (h : name ∉ names) : known? name = none := by
  have unnamed : ∀ known ∈ names, name ≠ known := by
    rintro known member rfl
    exact h member
  unfold known?
  rw [if_neg (unnamed "user" (by decide)), if_neg (unnamed "assistant" (by decide)),
    if_neg (unnamed "system" (by decide)), if_neg (unnamed "tool" (by decide))]

theorem Role.normalize_eq_self {role : Role} (h : ∀ name ∈ names, role ≠ .other name) :
    role.normalize = role := by
  cases role with
  | user | assistant | system | tool => rfl
  | other name =>
    have unnamed : name ∉ names := fun member => h name member rfl
    unfold normalize ofName
    rw [Role.name, known?_eq_none unnamed]
    rfl

theorem Message.map_normalize_eq_self {messages : List Message}
    (h : ∀ message ∈ messages, ∀ name ∈ Role.names, message.role ≠ .other name) :
    messages.map normalize = messages := by
  refine (List.map_congr_left fun message member => ?_).trans (List.map_id _)
  unfold normalize
  rw [Role.normalize_eq_self (h message member)]
  rfl

theorem Snapshot.normalize_eq_self {s : Snapshot}
    (h : ∀ message ∈ s.contents.live, ∀ name ∈ Role.names, message.role ≠ .other name) :
    s.normalize = s := by
  unfold normalize
  rw [Message.map_normalize_eq_self h]

/-- The settings that a history's snapshot leads to are its own if the rest of the reader's settings
is. -/
theorem History.settings_snapshot (h : History) {own : Settings}
    (summaryTokens : own.summaryTokens = h.setup.settings.summaryTokens)
    (mergeExtra : own.mergeExtra = h.setup.settings.mergeExtra)
    (enabled : own.enabled = h.setup.settings.enabled) :
    h.snapshot.settings own = h.setup.settings := by
  obtain ⟨⟨limit, keep, _⟩, _, _⟩ := own
  cases summaryTokens
  cases mergeExtra
  cases enabled
  rfl

/-- A history is read back as it was, but for its capabilities. -/
theorem History.ofJson_toJson (h : History) {own : Settings}
    (summaryTokens : own.summaryTokens = h.setup.settings.summaryTokens)
    (mergeExtra : own.mergeExtra = h.setup.settings.mergeExtra)
    (enabled : own.enabled = h.setup.settings.enabled)
    (roles : ∀ message ∈ h.contents.live, ∀ name ∈ Role.names, message.role ≠ .other name) :
    History.ofJson h.toJson own = .ok ⟨h.setup.bare, h.contents⟩ := by
  have loaded : Snapshot.load h.toJson = .ok h.snapshot := by
    unfold Snapshot.load toJson
    rw [Snapshot.decode_encode, Snapshot.normalize_eq_self roles]
    rfl
  have made : Setup.ofSettings (h.snapshot.settings own) = .ok h.setup.bare := by
    rw [h.settings_snapshot summaryTokens mergeExtra enabled]
    exact Setup.ofSettings_of_valid h.setup.valid
  unfold ofJson
  rw [loaded]
  show restore h.snapshot own = _
  unfold restore
  rw [made]
  rfl

namespace Shared

variable {setup : Setup} {backend : Backend} {s t : Shared}

/-! ## What a snapshot does not hold -/

/-- The append that has the gate, if there is one, is given up. -/
def giveUp (s : Shared) : Shared :=
  match s.holder with
  | none => s
  | some ticket => s.cancel ticket

/-- An append that waits for the gate, submitted anew. -/
def resubmit? (s : Shared) (ticket : Ticket) : Option Event :=
  match s.phases ticket with
  | .waiting batch => some (.submit ticket batch)
  | _ => none

/-- Those that wait for the gate, submitted anew in order. -/
def pending (s : Shared) : List Event := s.queue.filterMap s.resubmit?

/-- Giving up is something that can happen in a run. -/
theorem giveUp_spec (setup : Setup) (backend : Backend) (g : Guarded setup s) :
    Guarded setup s.giveUp ∧ s.giveUp.holder = none ∧ s.giveUp.contents = s.contents ∧
      s.giveUp.calls = s.calls := by
  cases hold : s.holder with
  | none =>
    rw [giveUp, hold]
    exact ⟨g, hold, rfl, rfl⟩
  | some ticket =>
    have inside := (g.inside_iff ticket).mpr hold
    have h := transition_apply setup backend s (.cancel ticket)
    have next := g.transition h
    have given : s.giveUp = s.cancel ticket := by rw [giveUp, hold]
    rw [given]
    refine ⟨next, ?_⟩
    unfold cancel
    cases hp : s.phases ticket with
    | holding batch | working segment rest | awaiting segment reply resume =>
      exact ⟨rfl, rfl, rfl⟩
    | idle | waiting batch | finished outcome | cancelled =>
      rw [hp] at inside
      cases inside

/-- `z` differs from `first` by the appends `tickets`, which wait as they do in `s`. -/
structure Requeued (s first : Shared) (tickets : List Ticket) (z : Shared) : Prop where
  contents : z.contents = first.contents
  holder : z.holder = first.holder
  queue : z.queue = first.queue ++ tickets
  calls : z.calls = first.calls
  records : z.records = first.records
  waiting : ∀ ticket ∈ tickets, z.phases ticket = s.phases ticket
  others : ∀ ticket, ticket ∉ tickets → z.phases ticket = first.phases ticket

theorem Requeued.submit {first z : Shared} {tickets : List Ticket}
    (r : Requeued s first tickets z) {ticket : Ticket} {batch : List Message}
    (new : ticket ∉ tickets)
    (idle : first.phases ticket = .idle) (h : s.phases ticket = .waiting batch) :
    Requeued s first (tickets ++ [ticket]) (z.submit ticket batch) := by
  have submitted : z.submit ticket batch =
      { z with queue := z.queue ++ [ticket] }.withPhase ticket (.waiting batch) := by
    simp only [Shared.submit, r.others ticket new, idle]
  rw [submitted]
  refine ⟨r.contents, r.holder, ?_, r.calls, r.records, ?_, ?_⟩
  · rw [queue_withPhase, r.queue, List.append_assoc]
  · intro t member
    by_cases same : t = ticket
    · rw [same, phases_withPhase_self, h]
    · rw [phases_withPhase_of_ne same]
      rcases List.mem_append.mp member with old | last
      · exact r.waiting t old
      · exact absurd (List.mem_singleton.mp last) same
  · intro t absent
    rw [List.mem_append, List.mem_singleton, not_or] at absent
    rw [phases_withPhase_of_ne absent.2]
    exact r.others t absent.1

/-- Submitting anew what waits in `s` makes it wait again in the same order. -/
theorem Requeued.run {first z : Shared} {past rest : List Ticket} (r : Requeued s first past z)
    (distinct : (past ++ rest).Nodup) (idle : ∀ ticket, first.phases ticket = .idle)
    (waiting : ∀ ticket ∈ rest, (s.phases ticket).isWaiting = true) :
    Requeued s first (past ++ rest) (z.run setup backend (rest.filterMap s.resubmit?)) := by
  induction rest generalizing past z with
  | nil =>
    rw [List.append_nil]
    exact r
  | cons ticket rest ih =>
    have own := waiting ticket List.mem_cons_self
    cases h : s.phases ticket with
    | waiting batch =>
      have new : ticket ∉ past := fun member =>
        (List.nodup_append.mp distinct).2.2 ticket member ticket List.mem_cons_self rfl
      have event : s.resubmit? ticket = some (.submit ticket batch) := by rw [resubmit?, h]
      rw [List.append_cons] at distinct ⊢
      rw [List.filterMap_cons_some event, run_cons]
      exact ih (r.submit new (idle ticket) h) distinct
        fun t member => waiting t (List.mem_cons_of_mem _ member)
    | _ =>
      rw [h] at own
      cases own

/-! ## The simulation -/

/-- Since `o` and `o'`, the same has happened in `s` and in `t`: they agree on everything but the
appends that are not `known`. -/
structure Alike (known : Ticket → Prop) (o o' s t : Shared) : Prop where
  contents : t.contents = s.contents
  holder : t.holder = s.holder
  queue : t.queue = s.queue
  phases : ∀ ticket, known ticket → t.phases ticket = s.phases ticket
  calls : ∃ new, s.calls = o.calls ++ new ∧ t.calls = o'.calls ++ new
  records : ∃ new, s.records = o.records ++ new ∧ t.records = o'.records ++ new

namespace Alike

variable {known : Ticket → Prop} {o o' : Shared}

theorem withPhase (a : Alike known o o' s t) (ticket : Ticket) (phase : Phase) :
    Alike known o o' (s.withPhase ticket phase) (t.withPhase ticket phase) where
  contents := a.contents
  holder := a.holder
  queue := a.queue
  phases other h := by
    by_cases same : other = ticket
    · rw [same, phases_withPhase_self, phases_withPhase_self]
    · rw [phases_withPhase_of_ne same, phases_withPhase_of_ne same]
      exact a.phases other h
  calls := a.calls
  records := a.records

theorem finish (a : Alike known o o' s t) (ticket : Ticket) (outcome : Outcome) :
    Alike known o o' (s.finish ticket outcome) (t.finish ticket outcome) := by
  unfold Shared.finish
  refine withPhase ?_ ticket _
  exact ⟨a.contents, rfl, a.queue, a.phases, a.calls, a.records⟩

/-- Both may record the same. -/
theorem record (a : Alike known o o' s t) (contents : Contents) (more : List LogRecord) :
    Alike known o o' { s with contents, records := s.records ++ more }
      { t with contents, records := t.records ++ more } where
  contents := rfl
  holder := a.holder
  queue := a.queue
  phases := a.phases
  calls := a.calls
  records := by
    obtain ⟨new, hs, ht⟩ := a.records
    exact ⟨new ++ more, by rw [hs, List.append_assoc], by rw [ht, List.append_assoc]⟩

theorem acquire (a : Alike known o o' s t) (ticket : Ticket) (batch : List Message) :
    Alike known o o' (s.acquire ticket batch) (t.acquire ticket batch) := by
  unfold Shared.acquire
  rw [a.holder, a.queue]
  split
  · split
    · refine withPhase ?_ ticket _
      exact ⟨a.contents, rfl, rfl, a.phases, a.calls, a.records⟩
    · exact a
  · exact a

theorem extend (a : Alike known o o' s t) (setup : Setup) (ticket : Ticket)
    (batch : List Message) :
    Alike known o o' (Shared.extend setup s ticket batch) (Shared.extend setup t ticket batch) := by
  unfold Shared.extend
  rw [a.contents]
  dsimp only
  split
  · refine finish ?_ ticket _
    exact ⟨rfl, a.holder, a.queue, a.phases, a.calls, a.records⟩
  · exact withPhase (a.record _ _) ticket _

/-- Both make the same call and get the same answer. -/
theorem ask (a : Alike known o o' s t) {backend' : Backend}
    (same : ∀ new call, backend' (o'.calls ++ new) call = backend (o.calls ++ new) call)
    (ticket : Ticket) (segment : List Message) (call : Call)
    (resume : Reply → Dialogue Call Reply Round) :
    Alike known o o' (Shared.ask backend s ticket segment call resume)
      (Shared.ask backend' t ticket segment call resume) := by
  obtain ⟨new, hs, ht⟩ := a.calls
  unfold Shared.ask
  rw [hs, ht, same new call]
  refine withPhase ?_ ticket _
  refine ⟨a.contents, a.holder, a.queue, a.phases, ⟨new ++ [call], ?_, ?_⟩, a.records⟩
  · exact List.append_assoc ..
  · exact List.append_assoc ..

/-- Both take the same answer, and record the same of it. -/
theorem hear (a : Alike known o o' s t) (ticket : Ticket) (segment : List Message)
    (rest : Dialogue Call Reply Round) :
    Alike known o o' (s.hear ticket segment rest) (t.hear ticket segment rest) := by
  obtain ⟨new, hs, ht⟩ := a.records
  unfold Shared.hear
  rw [hs, ht, List.append_assoc, List.append_assoc]
  refine withPhase ?_ ticket _
  exact ⟨a.contents, a.holder, a.queue, a.phases, a.calls, new ++ _, rfl, rfl⟩

theorem commit (a : Alike known o o' s t) (ticket : Ticket) (segment : List Message)
    (round : Round) :
    Alike known o o' (s.commit ticket segment round) (t.commit ticket segment round) := by
  unfold Shared.commit
  rw [a.contents]
  exact finish (a.record _ _) ticket _

theorem submit (a : Alike known o o' s t) {ticket : Ticket} (h : known ticket)
    (batch : List Message) :
    Alike known o o' (s.submit ticket batch) (t.submit ticket batch) := by
  unfold Shared.submit
  rw [a.phases ticket h, a.queue]
  split
  · refine withPhase ?_ ticket _
    exact ⟨a.contents, a.holder, rfl, a.phases, a.calls, a.records⟩
  · exact a

theorem cancel (a : Alike known o o' s t) {ticket : Ticket} (h : known ticket) :
    Alike known o o' (s.cancel ticket) (t.cancel ticket) := by
  have dropped : Alike known o o' ({ s with holder := none }.withPhase ticket .cancelled)
      ({ t with holder := none }.withPhase ticket .cancelled) := by
    refine withPhase ?_ ticket _
    exact ⟨a.contents, rfl, a.queue, a.phases, a.calls, a.records⟩
  unfold Shared.cancel
  rw [a.phases ticket h]
  split
  · rw [a.queue]
    refine withPhase ?_ ticket _
    exact ⟨a.contents, a.holder, rfl, a.phases, a.calls, a.records⟩
  · exact dropped
  · exact dropped
  · exact dropped
  · exact a
  · exact a
  · exact a

theorem step (a : Alike known o o' s t) {backend' : Backend}
    (same : ∀ new call, backend' (o'.calls ++ new) call = backend (o.calls ++ new) call)
    (setup : Setup) {ticket : Ticket} (h : known ticket) :
    Alike known o o' (s.step setup backend ticket) (t.step setup backend' ticket) := by
  unfold Shared.step
  rw [a.phases ticket h]
  split
  · exact a.acquire ticket _
  · exact a.extend setup ticket _
  · exact a.ask same ticket _ _ _
  · exact a.hear ticket _ _
  · exact a.commit ticket _ _
  · exact a
  · exact a
  · exact a

/-- Any event makes the same difference to both. -/
theorem apply (a : Alike known o o' s t) {backend' : Backend}
    (same : ∀ new call, backend' (o'.calls ++ new) call = backend (o.calls ++ new) call)
    (setup : Setup) {event : Event} (h : known event.ticket) :
    Alike known o o' (s.apply setup backend event) (t.apply setup backend' event) := by
  cases event with
  | submit ticket batch => exact a.submit h batch
  | step ticket => exact a.step same setup h
  | cancel ticket => exact a.cancel h

theorem run (a : Alike known o o' s t) {backend' : Backend}
    (same : ∀ new call, backend' (o'.calls ++ new) call = backend (o.calls ++ new) call)
    (setup : Setup) {events : List Event} (h : ∀ event ∈ events, known event.ticket) :
    Alike known o o' (s.run setup backend events) (t.run setup backend' events) := by
  induction events generalizing s t with
  | nil => exact a
  | cons event later ih =>
    have next := a.apply same setup (h event List.mem_cons_self)
    exact ih next fun event member => h event (List.mem_cons_of_mem _ member)

end Alike

/-! ## From a snapshot on -/

/-- A state in which nobody has the gate, and contents alone in which those that wait in it have
queued up again. -/
theorem Alike.start (g : Guarded setup s) (free : s.holder = none) (setup' : Setup)
    (backend' : Backend) (earlier' : List Call) :
    Alike (fun ticket => (s.phases ticket).isOver = false) s (Shared.start s.contents earlier') s
      ((Shared.start s.contents earlier').run setup' backend' s.pending) := by
  have r : Requeued s (Shared.start s.contents earlier') ([] ++ s.queue)
      ((Shared.start s.contents earlier').run setup' backend' s.pending) :=
    Requeued.run ⟨rfl, rfl, rfl, rfl, rfl, nofun, fun _ _ => rfl⟩ g.nodup (fun _ => rfl)
      fun ticket member => (g.waiting_iff ticket).mpr member
  refine ⟨r.contents, r.holder.trans free.symm, r.queue, ?_, ⟨[], ?_, ?_⟩, ⟨[], ?_, ?_⟩⟩
  · intro ticket going
    by_cases queued : ticket ∈ s.queue
    · exact r.waiting ticket queued
    · rw [r.others ticket queued]
      -- whoever is neither queued nor inside nor done has not begun
      cases h : s.phases ticket with
      | idle => rfl
      | waiting batch => exact absurd ((g.waiting_iff ticket).mp (by rw [h]; rfl)) queued
      | holding batch | working segment rest | awaiting segment reply resume =>
        have out := g.outside_of_free free ticket
        rw [h] at out
        cases out
      | finished outcome | cancelled =>
        rw [h] at going
        cases going
  · rw [List.append_nil]
  · rw [r.calls, List.append_nil]
  · rw [List.append_nil]
  · rw [r.records, List.append_nil]

/-- Whoever reads, or waits for an outcome, or answers calls, or keeps records, finds no difference
between `s` under `setup`, from `o` on, and `t` under `setup'`, from `o'` on. -/
structure Indistinguishable (setup setup' : Setup) (o o' s t : Shared) : Prop where
  views : ∀ reading, setup'.look t.contents reading = setup.look s.contents reading
  json : History.toJson ⟨setup', t.contents⟩ = History.toJson ⟨setup, s.contents⟩
  outcomes : ∀ ticket, (o.phases ticket).isOver = false →
    (t.phases ticket).outcome? = (s.phases ticket).outcome?
  calls : ∃ new, s.calls = o.calls ++ new ∧ t.calls = o'.calls ++ new
  records : ∃ new, s.records = o.records ++ new ∧ t.records = o'.records ++ new

/-- From every state of every run, a snapshot is read back under any settings that agree on the
hints and on whether the history may be cut. It is written as the same snapshot again, and with the
same capabilities chosen, answered alike, it does whatever the original does once the append under
way is given up: those that wait are submitted anew, and later ones have tickets of their own. -/
theorem restored_indistinguishable (setup : Setup) (backend : Backend) (contents : Contents)
    (earlier : List Call) (events : List Event) {own : Settings}
    (summaryTokens : own.summaryTokens = setup.settings.summaryTokens)
    (mergeExtra : own.mergeExtra = setup.settings.mergeExtra)
    (enabled : own.enabled = setup.settings.enabled)
    (roles : ∀ message ∈ ((start contents earlier).run setup backend events).contents.live,
      ∀ name ∈ Role.names, message.role ≠ .other name) :
    let s := (start contents earlier).run setup backend events
    ∃ restored, History.ofJson (History.toJson ⟨setup, s.contents⟩) own = .ok restored ∧
      restored.toJson = History.toJson ⟨setup, s.contents⟩ ∧
      ∀ (backend' : Backend) (earlier' : List Call),
        (∀ new call, backend' (earlier' ++ new) call = backend (s.calls ++ new) call) →
        ∀ later : List Event, (∀ event ∈ later, (s.giveUp.phases event.ticket).isOver = false) →
          let setup' := restored.setup.chooseAll setup.choices
          let fresh := start restored.contents earlier'
          Indistinguishable setup setup' s.giveUp fresh (s.giveUp.run setup backend later)
            (fresh.run setup' backend' (s.giveUp.pending ++ later)) := by
  intro s
  refine ⟨⟨setup.bare, s.contents⟩,
    History.ofJson_toJson ⟨setup, s.contents⟩ summaryTokens mergeExtra enabled roles, rfl, ?_⟩
  intro backend' earlier' same later known setup' fresh
  have chosen : setup' = setup := setup.chooseAll_choices
  obtain ⟨g, free, unchanged, calls⟩ :=
    giveUp_spec setup backend (guarded_run setup backend contents earlier events)
  have first : Alike (fun ticket => (s.giveUp.phases ticket).isOver = false) s.giveUp fresh s.giveUp
      (fresh.run setup' backend' s.giveUp.pending) := by
    have a := Alike.start g free setup' backend' earlier'
    rw [unchanged] at a
    exact a
  have answers : ∀ new call, backend' (fresh.calls ++ new) call =
      backend (s.giveUp.calls ++ new) call := by
    rw [calls]
    exact same
  have a := first.run answers setup known
  rw [run_append]
  rw [chosen] at a ⊢
  refine ⟨?_, ?_, ?_, a.calls, a.records⟩
  · intro reading
    rw [a.contents]
  · rw [a.contents]
  · intro ticket going
    rw [a.phases ticket going]

/-- One append that waits for an answer, and another that waits for the gate. -/
def interrupted : Shared :=
  (start (.ofMessages []) []).run .narrow .numbered
    [.submit 0 [.user "a", .user "b", .user "c"], .step 0, .step 0, .step 0, .submit 1 [.user "d"]]

theorem restored_indistinguishable_interrupted :
    ∃ restored, History.ofJson (History.toJson ⟨.narrow, interrupted.contents⟩) .unusable =
        .ok restored ∧
      Indistinguishable .narrow (restored.setup.chooseAll Setup.narrow.choices) interrupted.giveUp
        (start restored.contents [])
        (interrupted.giveUp.run .narrow .numbered [.step 1, .step 1, .submit 2 [], .step 1])
        ((start restored.contents []).run (restored.setup.chooseAll Setup.narrow.choices)
          (fun earlier call => Backend.numbered (interrupted.calls ++ earlier) call)
          [.submit 1 [.user "d"], .step 1, .step 1, .submit 2 [], .step 1]) := by
  obtain ⟨restored, read, -, onwards⟩ := restored_indistinguishable .narrow .numbered
    (.ofMessages []) []
    [.submit 0 [.user "a", .user "b", .user "c"], .step 0, .step 0, .step 0, .submit 1 [.user "d"]]
    (show Settings.unusable.summaryTokens = Setup.narrow.settings.summaryTokens from rfl) rfl rfl
    (by decide)
  exact ⟨restored, read, onwards _ [] (fun _ _ => rfl) [.step 1, .step 1, .submit 2 [], .step 1]
    (by decide)⟩

end Shared

end RollingHistory
