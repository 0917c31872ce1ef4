import RollingHistory.History.Schedule

/-!
The gate of overlapping appends.

`Transition` lists what an event can do to shared contents, each case under its condition, and
`transition_apply` says that no event does anything else. Every invariant of a run is proved case
by case from it. The first one is `Guarded`: the holder of the gate and nobody else has work under
way, those in the queue and nobody else wait, and a segment under way is what the contents still
have to shed (`guarded_run`). `deeds` is the history of a run: who took the gate, which batches
joined, which segments went.
-/

namespace RollingHistory

namespace Phase

/-- The append has the gate. -/
def isInside : Phase → Bool
  | .holding _ | .working .. | .awaiting .. => true
  | _ => false

/-- The append waits for the gate. -/
def isWaiting : Phase → Bool
  | .waiting _ => true
  | _ => false

/-- The segment that the append is about to shed. -/
def segment? : Phase → Option (List Message)
  | .working segment _ | .awaiting segment .. => some segment
  | _ => none

theorem isInside_of_segment? {phase : Phase} {segment : List Message}
    (h : phase.segment? = some segment) : phase.isInside = true := by
  cases phase <;> simp_all [segment?, isInside]

theorem isOver_of_isInside {phase : Phase} (h : phase.isInside = true) : phase.isOver = false := by
  cases phase with
  | holding batch | working segment round | awaiting segment reply resume => rfl
  | _ => exact absurd h (by simp [isInside])

theorem isWaiting_of_isInside {phase : Phase} (h : phase.isInside = true) :
    phase.isWaiting = false := by
  cases phase with
  | holding batch | working segment round | awaiting segment reply resume => rfl
  | _ => exact absurd h (by simp [isInside])

end Phase

/-- The append that an event is about. -/
def Event.ticket : Event → Ticket
  | .submit ticket _ | .step ticket | .cancel ticket => ticket

/-- The event gives an append up. -/
def Event.isCancel : Event → Bool
  | .cancel _ => true
  | _ => false

/-- What the history of a run remembers. -/
inductive Deed where
  | entered (ticket : Ticket) (batch : List Message)
  | joined (ticket : Ticket) (batch : List Message)
  | shed (ticket : Ticket) (segment : List Message)

namespace Deed

/-- The append that took the gate, with its batch. -/
def entry? : Deed → Option (Ticket × List Message)
  | entered ticket batch => some (ticket, batch)
  | _ => none

/-- The batch that joined the contents. -/
def batch? : Deed → Option (List Message)
  | joined _ batch => some batch
  | _ => none

/-- The segment that the contents lost. -/
def segment? : Deed → Option (List Message)
  | shed _ segment => some segment
  | _ => none

end Deed

namespace Shared

/-- What the history remembers of an event. -/
def deed? (s : Shared) : Event → Option Deed
  | .step ticket =>
    match s.phases ticket with
    | .waiting batch =>
      if s.holder = none ∧ s.queue.head? = some ticket then some (.entered ticket batch) else none
    | .holding batch => some (.joined ticket batch)
    | .working segment (.done _) => some (.shed ticket segment)
    | _ => none
  | _ => none

/-- The history of a run. -/
def deeds (setup : Setup) (backend : Backend) (s : Shared) : List Event → List Deed
  | [] => []
  | event :: later =>
    (s.deed? event).toList ++ (s.apply setup backend event).deeds setup backend later

/-- The appends that took the gate in a run, in order, each with its batch. -/
def entries (setup : Setup) (backend : Backend) (s : Shared) (events : List Event) :
    List (Ticket × List Message) :=
  (s.deeds setup backend events).filterMap Deed.entry?

/-- The batches that joined the contents in a run, in order. -/
def joined (setup : Setup) (backend : Backend) (s : Shared) (events : List Event) :
    List (List Message) :=
  (s.deeds setup backend events).filterMap Deed.batch?

/-- The segments that the contents lost in a run, in order. -/
def segments (setup : Setup) (backend : Backend) (s : Shared) (events : List Event) :
    List (List Message) :=
  (s.deeds setup backend events).filterMap Deed.segment?

variable {setup : Setup} {backend : Backend} {s s' : Shared} {event : Event} {deed : Option Deed}

theorem run_cons (setup : Setup) (backend : Backend) (s : Shared) (event : Event)
    (later : List Event) :
    s.run setup backend (event :: later) = (s.apply setup backend event).run setup backend later :=
  rfl

theorem run_append_singleton (setup : Setup) (backend : Backend) (s : Shared)
    (events : List Event) (event : Event) :
    s.run setup backend (events ++ [event]) =
      (s.run setup backend events).apply setup backend event :=
  s.run_append setup backend events [event]

theorem deeds_append (setup : Setup) (backend : Backend) (s : Shared) (as bs : List Event) :
    s.deeds setup backend (as ++ bs) =
      s.deeds setup backend as ++ (s.run setup backend as).deeds setup backend bs := by
  induction as generalizing s with
  | nil => rfl
  | cons event as ih =>
    rw [List.cons_append, deeds, ih, deeds, List.append_assoc, run_cons]

/-! ## Phases -/

@[simp] theorem phases_withPhase_self (s : Shared) (ticket : Ticket) (phase : Phase) :
    (s.withPhase ticket phase).phases ticket = phase := if_pos rfl

theorem phases_withPhase_of_ne {t ticket : Ticket} (h : t ≠ ticket) (s : Shared) (phase : Phase) :
    (s.withPhase ticket phase).phases t = s.phases t := if_neg h

@[simp] theorem contents_withPhase (s : Shared) (ticket : Ticket) (phase : Phase) :
    (s.withPhase ticket phase).contents = s.contents := rfl

@[simp] theorem holder_withPhase (s : Shared) (ticket : Ticket) (phase : Phase) :
    (s.withPhase ticket phase).holder = s.holder := rfl

@[simp] theorem queue_withPhase (s : Shared) (ticket : Ticket) (phase : Phase) :
    (s.withPhase ticket phase).queue = s.queue := rfl

/-! ## What an event can do -/

/-- An event in a state, what the history remembers of it, and the state it leads to. -/
inductive Transition (setup : Setup) (backend : Backend) (s : Shared) :
    Event → Option Deed → Shared → Prop
  | nothing (event : Event) : Transition setup backend s event none s
  | queued {ticket : Ticket} (batch : List Message) (h : s.phases ticket = .idle) :
    Transition setup backend s (.submit ticket batch) none
      ({ s with queue := s.queue ++ [ticket] }.withPhase ticket (.waiting batch))
  | entered {ticket : Ticket} {batch : List Message} {others : List Ticket}
    (h : s.phases ticket = .waiting batch) (free : s.holder = none)
    (first : s.queue = ticket :: others) :
    Transition setup backend s (.step ticket) (some (.entered ticket batch))
      ({ s with holder := some ticket, queue := others }.withPhase ticket (.holding batch))
  | passed {ticket : Ticket} {batch : List Message} (h : s.phases ticket = .holding batch)
    (fits : setup.excess? (s.contents.extend batch) = none) :
    Transition setup backend s (.step ticket) (some (.joined ticket batch))
      ({ s with contents := s.contents.extend batch }.finish ticket .noop)
  | joined {ticket : Ticket} {batch segment : List Message} (h : s.phases ticket = .holding batch)
    (excess : setup.excess? (s.contents.extend batch) = some segment) :
    Transition setup backend s (.step ticket) (some (.joined ticket batch))
      ({ s with
        contents := s.contents.extend batch
        records := s.records ++ [setup.trigger (s.contents.extend batch) segment.length]
        }.withPhase ticket (.working segment (setup.round (s.contents.extend batch) segment)))
  | asked {ticket : Ticket} {segment : List Message} {call : Call}
    {resume : Reply → Dialogue Call Reply Round}
    (h : s.phases ticket = .working segment (.ask call resume)) :
    Transition setup backend s (.step ticket) none
      (ask backend s ticket segment call resume)
  | answered {ticket : Ticket} {segment : List Message} {reply : Reply}
    {resume : Reply → Dialogue Call Reply Round}
    (h : s.phases ticket = .awaiting segment reply resume) :
    Transition setup backend s (.step ticket) none
      (s.hear ticket segment (resume reply))
  | committed {ticket : Ticket} {segment : List Message} {round : Round}
    (h : s.phases ticket = .working segment (.done round)) :
    Transition setup backend s (.step ticket) (some (.shed ticket segment))
      (s.commit ticket segment round)
  | unqueued {ticket : Ticket} {batch : List Message} (h : s.phases ticket = .waiting batch) :
    Transition setup backend s (.cancel ticket) none
      ({ s with queue := s.queue.erase ticket }.withPhase ticket .cancelled)
  | dropped {ticket : Ticket} (h : (s.phases ticket).isInside = true) :
    Transition setup backend s (.cancel ticket) none
      ({ s with holder := none }.withPhase ticket .cancelled)

theorem transition_acquire {ticket : Ticket} {batch : List Message}
    (h : s.phases ticket = .waiting batch) :
    Transition setup backend s (.step ticket) (s.deed? (.step ticket))
      (s.acquire ticket batch) := by
  unfold acquire
  simp only [deed?, h]
  cases hh : s.holder with
  | some other => exact .nothing _
  | none =>
    cases hq : s.queue with
    | nil => exact .nothing _
    | cons first others =>
      by_cases same : first = ticket
      · subst same
        rw [if_pos ⟨rfl, rfl⟩]
        simp only [if_true]
        exact .entered h hh hq
      · rw [if_neg fun hc => same (Option.some.inj hc.2)]
        simp only [if_neg same]
        exact .nothing _

theorem transition_extend {ticket : Ticket} {batch : List Message}
    (h : s.phases ticket = .holding batch) :
    Transition setup backend s (.step ticket) (some (.joined ticket batch))
      (extend setup s ticket batch) := by
  unfold extend
  dsimp only
  split
  · exact .passed h ‹_›
  · exact .joined h ‹_›

theorem transition_step (setup : Setup) (backend : Backend) (s : Shared) (ticket : Ticket) :
    Transition setup backend s (.step ticket) (s.deed? (.step ticket))
      (s.step setup backend ticket) := by
  cases h : s.phases ticket with
  | waiting batch =>
    rw [show s.step setup backend ticket = s.acquire ticket batch by simp only [step, h]]
    exact transition_acquire h
  | holding batch =>
    simp only [step, deed?, h]
    exact transition_extend h
  | working segment round =>
    cases round with
    | ask call resume =>
      simp only [step, deed?, h]
      exact .asked h
    | done round =>
      simp only [step, deed?, h]
      exact .committed h
  | awaiting segment reply resume =>
    simp only [step, deed?, h]
    exact .answered h
  | idle | finished outcome | cancelled =>
    simp only [step, deed?, h]
    exact .nothing _

/-- No event does anything but a transition. -/
theorem transition_apply (setup : Setup) (backend : Backend) (s : Shared) (event : Event) :
    Transition setup backend s event (s.deed? event) (s.apply setup backend event) := by
  cases event with
  | step ticket => exact transition_step setup backend s ticket
  | submit ticket batch =>
    cases h : s.phases ticket with
    | idle =>
      simp only [apply, submit, deed?, h]
      exact .queued batch h
    | _ =>
      simp only [apply, submit, deed?, h]
      exact .nothing _
  | cancel ticket =>
    cases h : s.phases ticket with
    | waiting batch =>
      simp only [apply, cancel, deed?, h]
      exact .unqueued h
    | holding batch | working segment round | awaiting segment reply resume =>
      simp only [apply, cancel, deed?, h]
      exact .dropped (by rw [h]; rfl)
    | idle | finished outcome | cancelled =>
      simp only [apply, cancel, deed?, h]
      exact .nothing _

/-- An event is about its own append only. -/
theorem Transition.phases_of_ne (h : Transition setup backend s event deed s') {t : Ticket}
    (ht : t ≠ event.ticket) : s'.phases t = s.phases t := by
  cases h with
  | nothing => rfl
  | _ => exact if_neg ht

/-- An append that is over stays as it is. -/
theorem Transition.phases_of_isOver (h : Transition setup backend s event deed s') {t : Ticket}
    (ht : (s.phases t).isOver = true) : s'.phases t = s.phases t := by
  by_cases same : t = event.ticket
  · subst same
    cases h with
    | nothing => rfl
    | queued _ h | entered h | passed h | joined h | asked h | answered h | committed h
    | unqueued h =>
      simp [Event.ticket, h, Phase.isOver] at ht
    | dropped h =>
      rw [Event.ticket, Phase.isOver_of_isInside h] at ht
      exact absurd ht (by decide)
  · exact h.phases_of_ne same

/-! ## Runs -/

/-- What holds before a run and is kept by every transition holds after the run; it may speak about
the history of the run. -/
theorem run_induction (P : List Deed → Shared → Prop) (s : Shared) (first : P [] s)
    {events : List Event}
    (next : ∀ {past : List Deed} {s s' : Shared} {event : Event} {deed : Option Deed},
      event ∈ events → P past s → Transition setup backend s event deed s' →
        P (past ++ deed.toList) s') :
    P (s.deeds setup backend events) (s.run setup backend events) := by
  suffices h : ∀ past s, P past s →
      P (past ++ s.deeds setup backend events) (s.run setup backend events) from h [] s first
  clear first
  induction events with
  | nil =>
    intro past s h
    rw [deeds, List.append_nil]
    exact h
  | cons event later ih =>
    intro past s h
    rw [deeds, ← List.append_assoc]
    refine ih (fun member => next (List.mem_cons_of_mem _ member)) _ _ ?_
    exact next List.mem_cons_self h (transition_apply setup backend s event)

/-- An append that is over stays as it is in any run. -/
theorem phases_run_of_isOver {ticket : Ticket} (left : (s.phases ticket).isOver = true)
    (events : List Event) : (s.run setup backend events).phases ticket = s.phases ticket := by
  refine run_induction (fun _ s' => s'.phases ticket = s.phases ticket) s rfl ?_
  intro past s' s'' event deed _ same h
  rw [← same]
  refine h.phases_of_isOver ?_
  rw [same]
  exact left

theorem filterMap_append_deed {α : Type} (f : Deed → Option α) (past : List Deed)
    (deed : Option Deed) :
    (past ++ deed.toList).filterMap f = past.filterMap f ++ (deed.bind f).toList := by
  rw [List.filterMap_append]
  cases deed with
  | none => rfl
  | some deed => cases h : f deed <;> simp [h]

/-! ## The invariant of the gate -/

/-- The holder and nobody else has the gate, those in the queue and nobody else wait for it, and
a segment under way is what the contents have to shed. -/
structure Guarded (setup : Setup) (s : Shared) : Prop where
  inside_iff : ∀ t, (s.phases t).isInside = true ↔ s.holder = some t
  waiting_iff : ∀ t, (s.phases t).isWaiting = true ↔ t ∈ s.queue
  nodup : s.queue.Nodup
  excess : ∀ t segment, (s.phases t).segment? = some segment →
    setup.excess? s.contents = some segment

namespace Guarded

theorem holder_eq (g : Guarded setup s) {t : Ticket} (h : (s.phases t).isInside = true) :
    s.holder = some t :=
  (g.inside_iff t).mp h

/-- As long as the gate is free, nobody is inside. -/
theorem outside_of_free (g : Guarded setup s) (free : s.holder = none) (t : Ticket) :
    (s.phases t).isInside = false := by
  refine Bool.eq_false_iff.mpr fun inside => ?_
  rw [g.holder_eq inside] at free
  cases free

/-- As long as somebody is inside, nobody else is. -/
theorem outside_of_ne (g : Guarded setup s) {ticket t : Ticket}
    (inside : (s.phases ticket).isInside = true) (ne : t ≠ ticket) :
    (s.phases t).isInside = false := by
  refine Bool.eq_false_iff.mpr fun also => ne ?_
  have hold := g.holder_eq also
  rw [g.holder_eq inside] at hold
  exact (Option.some.inj hold).symm

theorem start (setup : Setup) (contents : Contents) (earlier : List Call) :
    Guarded setup (Shared.start contents earlier) where
  inside_iff t := by simp [Shared.start, Phase.isInside]
  waiting_iff t := by simp [Shared.start, Phase.isWaiting]
  nodup := List.nodup_nil
  excess t segment h := by simp [Shared.start, Phase.segment?] at h

/-- A change of one append's phase keeps the invariant if the gate, the queue and the contents
change with it. -/
theorem update (g : Guarded setup s) (ticket : Ticket)
    (others : ∀ t, t ≠ ticket → s'.phases t = s.phases t)
    (holder : ∀ t, t ≠ ticket → (s'.holder = some t ↔ s.holder = some t))
    (queue : ∀ t, t ≠ ticket → (t ∈ s'.queue ↔ t ∈ s.queue))
    (nodup : s'.queue.Nodup)
    (contents : s'.contents = s.contents ∨ s.holder = some ticket)
    (inside : (s'.phases ticket).isInside = true ↔ s'.holder = some ticket)
    (waiting : (s'.phases ticket).isWaiting = true ↔ ticket ∈ s'.queue)
    (excess : ∀ segment, (s'.phases ticket).segment? = some segment →
      setup.excess? s'.contents = some segment) : Guarded setup s' where
  inside_iff t := by
    by_cases same : t = ticket
    · rw [same]; exact inside
    · rw [others t same, holder t same]; exact g.inside_iff t
  waiting_iff t := by
    by_cases same : t = ticket
    · rw [same]; exact waiting
    · rw [others t same, queue t same]; exact g.waiting_iff t
  nodup := nodup
  excess t segment h := by
    by_cases same : t = ticket
    · rw [same] at h; exact excess segment h
    · rw [others t same] at h
      rcases contents with unchanged | held
      · rw [unchanged]; exact g.excess t segment h
      · -- nobody but the holder has a segment
        have ht := g.holder_eq (Phase.isInside_of_segment? h)
        rw [held] at ht
        exact absurd (Option.some.inj ht).symm same

theorem not_mem_queue (g : Guarded setup s) {ticket : Ticket} (hold : s.holder = some ticket) :
    ticket ∉ s.queue := by
  rw [← g.waiting_iff, Phase.isWaiting_of_isInside ((g.inside_iff ticket).mpr hold)]
  decide

/-- The holder goes on with a segment. -/
theorem stay (g : Guarded setup s) (ticket : Ticket) (hold : s.holder = some ticket)
    (others : ∀ t, t ≠ ticket → s'.phases t = s.phases t) (holder : s'.holder = s.holder)
    (queue : s'.queue = s.queue) {segment : List Message}
    (own : (s'.phases ticket).segment? = some segment)
    (excess : setup.excess? s'.contents = some segment) : Guarded setup s' := by
  have inside := Phase.isInside_of_segment? own
  refine g.update ticket others (fun t _ => by rw [holder]) (fun t _ => by rw [queue])
    (by rw [queue]; exact g.nodup) (.inr hold) ?_ ?_ ?_
  · rw [holder, hold]
    exact iff_of_true inside rfl
  · rw [queue, Phase.isWaiting_of_isInside inside]
    exact iff_of_false (by decide) (g.not_mem_queue hold)
  · intro other ho
    rw [own] at ho
    rw [← Option.some.inj ho]
    exact excess

/-- The holder leaves the gate. -/
theorem leave (g : Guarded setup s) (ticket : Ticket) (hold : s.holder = some ticket)
    (others : ∀ t, t ≠ ticket → s'.phases t = s.phases t) (holder : s'.holder = none)
    (queue : s'.queue = s.queue) (left : (s'.phases ticket).isOver = true) : Guarded setup s' := by
  refine g.update ticket others ?_ (fun t _ => by rw [queue]) (by rw [queue]; exact g.nodup)
    (.inr hold) ?_ ?_ ?_
  · intro t ht
    rw [holder, hold]
    exact iff_of_false nofun fun h => ht (Option.some.inj h).symm
  · rw [holder]
    refine iff_of_false (fun h => ?_) nofun
    rw [Phase.isOver_of_isInside h] at left
    exact absurd left (by decide)
  · rw [queue]
    refine iff_of_false ?_ (g.not_mem_queue hold)
    cases hp : s'.phases ticket <;> simp_all [Phase.isWaiting, Phase.isOver]
  · intro segment h
    rw [Phase.isOver_of_isInside (Phase.isInside_of_segment? h)] at left
    exact absurd left (by decide)

/-- Every transition keeps the invariant. -/
theorem transition (g : Guarded setup s) (h : Transition setup backend s event deed s') :
    Guarded setup s' := by
  have others : ∀ t, t ≠ event.ticket → s'.phases t = s.phases t := fun t => h.phases_of_ne
  cases h with
  | nothing => exact g
  | @queued ticket batch h =>
    have out : ticket ∉ s.queue := by
      rw [← g.waiting_iff, h]
      simp [Phase.isWaiting]
    have free : ¬ s.holder = some ticket := by
      rw [← g.inside_iff, h]
      simp [Phase.isInside]
    refine g.update ticket others (fun t _ => Iff.rfl) ?_ ?_ (.inl rfl) ?_ ?_ ?_
    · intro t ht
      simp [show t ≠ ticket from ht]
    · refine List.nodup_append.mpr ⟨g.nodup, List.pairwise_singleton _ _, ?_⟩
      intro t ht u hu same
      rw [List.mem_singleton.mp hu] at same
      exact out (same ▸ ht)
    · simpa [Phase.isInside] using free
    · simp [Phase.isWaiting]
    · simp [Phase.segment?]
  | @entered ticket batch behind h free first =>
    have nodup := g.nodup
    rw [first, List.nodup_cons] at nodup
    refine g.update ticket others ?_ ?_ nodup.2 (.inl rfl) ?_ ?_ ?_
    · intro t ht
      rw [free]
      exact iff_of_false (fun h => ht (Option.some.inj h).symm) (by simp)
    · intro t ht
      simp [first, show t ≠ ticket from ht]
    · simp [Phase.isInside]
    · simpa [Phase.isWaiting] using nodup.1
    · simp [Phase.segment?]
  | @passed ticket batch h fits =>
    have hold := g.holder_eq (t := ticket) (by rw [h]; rfl)
    exact g.leave ticket hold others rfl rfl (by rw [finish, phases_withPhase_self]; rfl)
  | @joined ticket batch segment h excess =>
    have hold := g.holder_eq (t := ticket) (by rw [h]; rfl)
    exact g.stay ticket hold others rfl rfl (by rw [phases_withPhase_self]; rfl) excess
  | @asked ticket segment call resume h =>
    have hold := g.holder_eq (t := ticket) (by rw [h]; rfl)
    have excess := g.excess ticket segment (by rw [h]; rfl)
    exact g.stay ticket hold others rfl rfl (by rw [ask, phases_withPhase_self]; rfl) excess
  | @answered ticket segment reply resume h =>
    have hold := g.holder_eq (t := ticket) (by rw [h]; rfl)
    have excess := g.excess ticket segment (by rw [h]; rfl)
    exact g.stay ticket hold others rfl rfl (by rw [hear, phases_withPhase_self]; rfl) excess
  | @committed ticket segment round h =>
    have hold := g.holder_eq (t := ticket) (by rw [h]; rfl)
    exact g.leave ticket hold others rfl rfl (by rw [commit, finish, phases_withPhase_self]; rfl)
  | @unqueued ticket batch h =>
    have free : ¬ s.holder = some ticket := by
      rw [← g.inside_iff, h]
      simp [Phase.isInside]
    refine g.update ticket others (fun t _ => Iff.rfl) ?_ (g.nodup.erase ticket) (.inl rfl) ?_ ?_ ?_
    · intro t ht
      exact List.mem_erase_of_ne ht
    · simpa [Phase.isInside] using free
    · simpa [Phase.isWaiting] using g.nodup.not_mem_erase
    · simp [Phase.segment?]
  | @dropped ticket h =>
    exact g.leave ticket (g.holder_eq h) others rfl rfl (by rw [phases_withPhase_self]; rfl)

theorem run (g : Guarded setup s) (backend : Backend) (events : List Event) :
    Guarded setup (s.run setup backend events) :=
  run_induction (fun _ => Guarded setup) s g fun _ g h => g.transition h

end Guarded

/-- As long as somebody has the gate, nobody takes it. -/
theorem Transition.entry?_eq_none (h : Transition setup backend s event deed s') {t : Ticket}
    (hold : s.holder = some t) : deed.bind Deed.entry? = none := by
  cases h with
  | entered h free first =>
    rw [free] at hold
    cases hold
  | _ => rfl

/-- As long as nobody has the gate, nothing happens but that appends come to the queue or leave it,
or one takes the gate. -/
theorem Transition.of_free (h : Transition setup backend s event deed s') (g : Guarded setup s)
    (free : s.holder = none) :
    (deed.bind Deed.entry? = none ∧ s'.holder = none) ∨
      ∃ ticket batch, deed.bind Deed.entry? = some (ticket, batch) ∧
        s'.phases ticket = .holding batch := by
  have nobody {t : Ticket} (inside : (s.phases t).isInside = true) : False := by
    rw [g.outside_of_free free] at inside
    cases inside
  cases h with
  | nothing | queued | unqueued => exact .inl ⟨rfl, free⟩
  | entered => exact .inr ⟨_, _, rfl, phases_withPhase_self ..⟩
  | passed h | joined h | asked h | answered h | committed h => exact (nobody (by rw [h]; rfl)).elim
  | dropped h => exact (nobody h).elim

/-- Induction over a run, with the invariant of the gate at hand. -/
theorem guarded_induction (P : List Deed → Shared → Prop) (g : Guarded setup s) (first : P [] s)
    {events : List Event}
    (next : ∀ {past : List Deed} {s s' : Shared} {event : Event} {deed : Option Deed},
      event ∈ events → Guarded setup s → P past s → Transition setup backend s event deed s' →
        P (past ++ deed.toList) s') :
    P (s.deeds setup backend events) (s.run setup backend events) := by
  suffices both : Guarded setup (s.run setup backend events) ∧
      P (s.deeds setup backend events) (s.run setup backend events) from both.2
  refine run_induction (fun past s => Guarded setup s ∧ P past s) _ ⟨g, first⟩ ?_
  intro past s s' event deed member both h
  exact ⟨both.1.transition h, next member both.1 both.2 h⟩

/-- The invariant holds at every point of every run. -/
theorem guarded_run (setup : Setup) (backend : Backend) (contents : Contents)
    (earlier : List Call) (events : List Event) :
    Guarded setup ((start contents earlier).run setup backend events) :=
  (Guarded.start setup contents earlier).run backend events

end Shared

end RollingHistory
