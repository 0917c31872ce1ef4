import RollingHistory.Proofs.Bounds

/-!
Appends that are given up.

Whenever an append is given up, its batch has either not joined the contents, and then the append
has done nothing to them, or it has joined, and then that is all it has ever done (`Course`,
`Transition.contents_of_own`). The gate is free again at once. If the batch has joined, the next
append to take the gate and be finished comes to what one append of both batches would have come
to (`Next`), so what was left behind is shed then and not skipped. `cancel_safe` puts this
together.
-/

namespace RollingHistory

/-! ## The same answers -/

section Answers

variable {Q R α : Type}

/-- A dialogue is the same with any answerer that gives the same answers in it. -/
theorem Dialogue.run_congr {answerer answerer' : List Q → Q → R} (d : Dialogue Q R α)
    {earlier earlier' : List Q}
    (same : ∀ new question, new ++ [question] <+: (d.run answerer earlier).2 →
      answerer' (earlier' ++ new) question = answerer (earlier ++ new) question) :
    d.run answerer' earlier' = d.run answerer earlier := by
  induction d generalizing earlier earlier' with
  | done result => rfl
  | ask question resume ih =>
    have first : answerer' earlier' question = answerer earlier question := by
      have h := same [] question (by rw [run_ask]; exact ⟨_, rfl⟩)
      rwa [List.append_nil, List.append_nil] at h
    have rest : (resume (answerer earlier question)).run answerer' (earlier' ++ [question]) =
        (resume (answerer earlier question)).run answerer (earlier ++ [question]) := by
      refine ih _ fun new next within => ?_
      rw [List.append_assoc, List.append_assoc]
      refine same (question :: new) next ?_
      rw [run_ask, List.cons_append]
      exact (List.prefix_cons_inj question).mpr within
    rw [run_ask, run_ask, first, rest]

end Answers

theorem Setup.append_congr {setup : Setup} {backend backend' : Backend}
    {earlier earlier' : List Call} {contents : Contents} {batch : List Message}
    (same : ∀ new call, new ++ [call] <+: (setup.append backend earlier contents batch).calls →
      backend' (earlier' ++ new) call = backend (earlier ++ new) call) :
    setup.append backend' earlier' contents batch =
      setup.append backend earlier contents batch := by
  cases excess : setup.excess? (contents.extend batch) with
  | none => rw [append_of_excess_none excess, append_of_excess_none excess]
  | some segment =>
    rw [append_of_excess excess] at same
    rw [append_of_excess excess, append_of_excess excess, Dialogue.run_congr _ same]

/-! ## What an append does to the contents -/

/-- The batch that this append added to the contents. -/
def Deed.joinedBy? (ticket : Ticket) : Deed → Option (List Message)
  | joined t batch => if t = ticket then some batch else none
  | _ => none

namespace Shared

variable {setup : Setup} {backend : Backend} {s s' : Shared} {event : Event} {deed : Option Deed}
  {j : Journal} {batch : List Message} {ticket : Ticket} {own : List (List Message)}

/-- How far an append of `batch` has come, and the batches that it has added. -/
inductive Course (batch : List Message) : List (List Message) → Phase → Prop
  | waiting : Course batch [] (.waiting batch)
  | holding : Course batch [] (.holding batch)
  | working (segment : List Message) (rest : Dialogue Call Reply Round) :
    Course batch [batch] (.working segment rest)
  | awaiting (segment : List Message) (reply : Reply)
    (resume : Reply → Dialogue Call Reply Round) :
    Course batch [batch] (.awaiting segment reply resume)
  | finished (outcome : Outcome) : Course batch [batch] (.finished outcome)
  | withdrawn : Course batch [] .cancelled
  | cancelled : Course batch [batch] .cancelled

/-- Nothing was added. -/
theorem Course.same {phase : Phase} (c : Course batch own phase)
    (none : deed.bind (Deed.joinedBy? ticket) = none) :
    Course batch (own ++ (deed.bind (Deed.joinedBy? ticket)).toList) phase := by
  rw [none, Option.toList_none, List.append_nil]
  exact c

/-- To give up takes nothing back. -/
theorem Course.giveUp {phase : Phase} (c : Course batch own phase) (going : phase.isOver = false) :
    Course batch own .cancelled := by
  cases c with
  | waiting | holding => exact .withdrawn
  | working | awaiting => exact .cancelled
  | finished | withdrawn | cancelled => cases going

/-- Another append adds nothing in the name of this one. -/
theorem Transition.joinedBy?_of_ne (h : Transition setup backend s event deed s')
    (ne : event.ticket ≠ ticket) : deed.bind (Deed.joinedBy? ticket) = none := by
  cases h with
  | passed | joined => exact if_neg ne
  | _ => rfl

theorem Course.transition (c : Course batch own (s.phases ticket))
    (h : Transition setup backend s event deed s') :
    Course batch (own ++ (deed.bind (Deed.joinedBy? ticket)).toList) (s'.phases ticket) := by
  by_cases same : event.ticket = ticket
  · subst same
    cases h with
    | nothing => exact c.same rfl
    | @queued ticket _ h =>
      rw [Event.ticket, h] at c
      cases c
    | @entered ticket _ _ h =>
      refine Course.same ?_ rfl
      rw [Event.ticket, h] at c
      rw [Event.ticket, phases_withPhase_self]
      cases c
      exact .holding
    | @passed ticket _ h =>
      rw [Event.ticket, h] at c
      rw [Event.ticket, finish, phases_withPhase_self, Option.bind_some, Deed.joinedBy?, if_pos rfl]
      cases c
      exact .finished _
    | @joined ticket _ _ h =>
      rw [Event.ticket, h] at c
      rw [Event.ticket, phases_withPhase_self, Option.bind_some, Deed.joinedBy?, if_pos rfl]
      cases c
      exact .working _ _
    | @asked ticket _ _ _ h =>
      refine Course.same ?_ rfl
      rw [Event.ticket, h] at c
      rw [Event.ticket, ask, phases_withPhase_self]
      cases c
      exact .awaiting _ _ _
    | @answered ticket _ _ _ h =>
      refine Course.same ?_ rfl
      rw [Event.ticket, h] at c
      rw [Event.ticket, hear, phases_withPhase_self]
      cases c
      exact .working _ _
    | @committed ticket _ _ h =>
      refine Course.same ?_ rfl
      rw [Event.ticket, h] at c
      rw [Event.ticket, commit, finish, phases_withPhase_self]
      cases c
      exact .finished _
    | @unqueued ticket _ h =>
      refine Course.same ?_ rfl
      rw [Event.ticket, phases_withPhase_self]
      exact c.giveUp (by rw [Event.ticket, h]; rfl)
    | @dropped ticket h =>
      refine Course.same ?_ rfl
      rw [Event.ticket, phases_withPhase_self]
      exact c.giveUp (Phase.isOver_of_isInside h)
  · rw [h.phases_of_ne (Ne.symm same)]
    exact c.same (h.joinedBy?_of_ne same)

theorem Course.run (c : Course batch own (s.phases ticket)) (events : List Event) :
    Course batch (own ++ (s.deeds setup backend events).filterMap (Deed.joinedBy? ticket))
      ((s.run setup backend events).phases ticket) := by
  refine run_induction
    (fun past s => Course batch (own ++ past.filterMap (Deed.joinedBy? ticket)) (s.phases ticket)) s
    ?_ ?_
  · rw [List.filterMap_nil, List.append_nil]
    exact c
  · intro past s s' event deed _ c h
    rw [filterMap_append_deed, ← List.append_assoc]
    exact c.transition h

/-- An append that is over adds nothing any more. -/
theorem joinedBy?_of_isOver (setup : Setup) (backend : Backend)
    (left : (s.phases ticket).isOver = true) (events : List Event) :
    (s.deeds setup backend events).filterMap (Deed.joinedBy? ticket) = [] := by
  refine (run_induction (fun past s => (s.phases ticket).isOver = true ∧
    past.filterMap (Deed.joinedBy? ticket) = []) s ⟨left, rfl⟩ ?_).2
  rintro past s s' event deed - ⟨left, nothing⟩ h
  rw [h.phases_of_isOver left, filterMap_append_deed, nothing]
  refine ⟨left, ?_⟩
  by_cases same : event.ticket = ticket
  · subst same
    cases h with
    | passed h | joined h =>
      rw [Event.ticket, h] at left
      cases left
    | _ => rfl
  · rw [h.joinedBy?_of_ne same]
    rfl

/-- An event of an append that sheds nothing leaves the contents, or adds the batch. -/
theorem Transition.contents_of_own (h : Transition setup backend s event deed s')
    (kept : deed.toList.countP (Deed.isShedOf event.ticket) = 0) :
    s'.contents =
      (deed.bind (Deed.joinedBy? event.ticket)).elim s.contents s.contents.extend := by
  cases h with
  | committed => simp [Deed.isShedOf, Event.ticket] at kept
  | passed | joined => simp [Deed.joinedBy?, Event.ticket, finish]
  | _ => rfl

/-- The same at every point of a run in which the append sheds nothing. -/
theorem contents_of_own {events before after : List Event}
    (kept : (s.deeds setup backend events).countP (Deed.isShedOf event.ticket) = 0)
    (split : events = before ++ event :: after) :
    ((s.run setup backend before).apply setup backend event).contents =
      (((s.run setup backend before).deed? event).bind (Deed.joinedBy? event.ticket)).elim
        (s.run setup backend before).contents (s.run setup backend before).contents.extend := by
  rw [split, deeds_append, deeds, List.countP_append, List.countP_append] at kept
  exact (transition_apply setup backend _ event).contents_of_own (by omega)

/-! ## Giving up -/

theorem cancel_of_isWaiting (h : (s.phases ticket).isWaiting = true) :
    s.cancel ticket = { s with queue := s.queue.erase ticket }.withPhase ticket .cancelled := by
  unfold cancel
  cases hp : s.phases ticket with
  | waiting batch => rfl
  | _ =>
    rw [hp] at h
    cases h

theorem cancel_of_isInside (h : (s.phases ticket).isInside = true) :
    s.cancel ticket = { s with holder := none }.withPhase ticket .cancelled := by
  unfold cancel
  cases hp : s.phases ticket with
  | holding batch | working segment rest | awaiting segment reply resume => rfl
  | _ =>
    rw [hp] at h
    cases h

/-- Whoever is first in the queue takes the free gate with its next step. -/
theorem step_of_first (g : Guarded setup s) (backend : Backend) (free : s.holder = none)
    {rest : List Ticket} (first : s.queue = ticket :: rest) :
    ∃ batch, s.phases ticket = .waiting batch ∧ s.step setup backend ticket =
      { s with holder := some ticket, queue := rest }.withPhase ticket (.holding batch) := by
  have waits : (s.phases ticket).isWaiting = true := by
    rw [g.waiting_iff, first]
    exact List.mem_cons_self
  cases h : s.phases ticket with
  | waiting batch =>
    refine ⟨batch, rfl, ?_⟩
    simp only [step, h, acquire, free, first, if_true]
  | _ =>
    rw [h] at waits
    cases waits

/-- What is left of an append that was given up where it stood. -/
structure Withdrawn (ticket : Ticket) (before after : Shared) : Prop where
  contents : after.contents = before.contents
  calls : after.calls = before.calls
  records : after.records = before.records
  phase : after.phases ticket = .cancelled
  others : ∀ t, t ≠ ticket → after.phases t = before.phases t
  /-- The gate is free if the append had it, and it no longer waits for it. -/
  holder : after.holder = if before.holder = some ticket then none else before.holder
  queue : after.queue = before.queue.erase ticket

theorem cancel_withdrawn (g : Guarded setup s)
    (going : (s.phases ticket).isWaiting = true ∨ (s.phases ticket).isInside = true) :
    Withdrawn ticket s (s.cancel ticket) := by
  rcases going with waits | inside
  · rw [cancel_of_isWaiting waits]
    have out : ¬ s.holder = some ticket := by
      intro hold
      rw [Phase.isWaiting_of_isInside ((g.inside_iff ticket).mpr hold)] at waits
      cases waits
    exact ⟨rfl, rfl, rfl, phases_withPhase_self .., fun t ne => phases_withPhase_of_ne ne _ _,
      (if_neg out).symm, rfl⟩
  · rw [cancel_of_isInside inside]
    have hold := g.holder_eq inside
    exact ⟨rfl, rfl, rfl, phases_withPhase_self .., fun t ne => phases_withPhase_of_ne ne _ _,
      (if_pos hold).symm, (List.erase_of_not_mem (g.not_mem_queue hold)).symm⟩

/-- Given up after its merge has failed, an append leaves that in the log. -/
example : ((start ⟨[.user "a"], some "s", .zero⟩ []).run .narrow
    (fun earlier _ => if earlier.isEmpty then .ok "t" else .error (.of "busy"))
    (.submit 0 [.user "b", .user "c"] :: List.replicate 6 (.step 0) ++ [.cancel 0])).records =
    [.triggered 3 2 2, .mergeFailed (.of "busy")] := by decide

/-! ## The next append -/

/-- What became of the gate since it was free at `j`: nobody took it, or one append did and is under
way, completed or given up, or others came after it. -/
inductive Next (setup : Setup) (backend : Backend) (j : Journal) :
    List (Ticket × List Message) → Shared → Prop
  | nobody {s : Shared} (free : s.holder = none) (state : s.Matches j) : Next setup backend j [] s
  | underway {s : Shared} {ticket : Ticket} {batch : List Message}
    (underway : Underway setup backend j batch s (s.phases ticket)) :
    Next setup backend j [(ticket, batch)] s
  | completed {s : Shared} {ticket : Ticket} {batch : List Message}
    (completed : Completed setup backend j batch s ticket) :
    Next setup backend j [(ticket, batch)] s
  | cancelled {s : Shared} {ticket : Ticket} {batch : List Message} (free : s.holder = none)
    (phase : s.phases ticket = .cancelled) : Next setup backend j [(ticket, batch)] s
  | others {s : Shared} {order : List (Ticket × List Message)} (more : 1 < order.length) :
    Next setup backend j order s

variable {order : List (Ticket × List Message)}

theorem Next.transition (n : Next setup backend j order s) (g : Guarded setup s)
    (h : Transition setup backend s event deed s') :
    Next setup backend j (order ++ (deed.bind Deed.entry?).toList) s' := by
  have out (free : s.holder = none) := g.outside_of_free free event.ticket
  cases n with
  | nobody free state =>
    rcases h.of_free g free with ⟨none, free'⟩ | ⟨ticket, batch, entry, own⟩
    · rw [none, Option.toList_none, List.append_nil]
      exact .nobody free' (state.untouched h (out free))
    · rw [entry, Option.toList_some]
      refine .underway ?_
      rw [own]
      exact .holding (state.untouched h (out free))
  | underway underway =>
    have hold := g.holder_eq underway.isInside
    rw [h.entry?_eq_none hold, Option.toList_none, List.append_nil]
    rcases underway.transition g h with underway | completed | ⟨rfl, phase⟩
    · exact .underway underway
    · exact .completed completed
    · refine .cancelled ?_ phase
      cases h with
      | nothing =>
        rw [phase] at underway
        cases underway
      | unqueued waits =>
        rw [waits] at underway
        cases underway
      | dropped => rfl
  | completed completed =>
    rcases h.of_free g completed.free with ⟨none, free'⟩ | ⟨ticket, batch, entry, own⟩
    · rw [none, Option.toList_none, List.append_nil]
      refine .completed ⟨free', completed.state.untouched h (out completed.free), ?_⟩
      rw [h.phases_of_isOver (by rw [completed.phase]; rfl), completed.phase]
    · rw [entry, Option.toList_some]
      exact .others (Nat.lt_succ_self 1)
  | cancelled free phase =>
    rcases h.of_free g free with ⟨none, free'⟩ | ⟨ticket, batch, entry, own⟩
    · rw [none, Option.toList_none, List.append_nil]
      refine .cancelled free' ?_
      rw [h.phases_of_isOver (by rw [phase]; rfl), phase]
    · rw [entry, Option.toList_some]
      exact .others (Nat.lt_succ_self 1)
  | others more =>
    refine .others ?_
    rw [List.length_append]
    omega

/-- The first append to take the free gate and be finished has done what it does by itself. -/
theorem completed_of_entries (g : Guarded setup s) (free : s.holder = none) {events : List Event}
    (entries : s.entries setup backend events = [(ticket, batch)]) {outcome : Outcome}
    (done : (s.run setup backend events).phases ticket = .finished outcome) :
    Completed setup backend ⟨s.contents, [], s.calls, s.records⟩ batch
      (s.run setup backend events) ticket := by
  have n : Next setup backend ⟨s.contents, [], s.calls, s.records⟩
      (s.entries setup backend events) (s.run setup backend events) := by
    refine guarded_induction (fun past s => Next setup backend _ (past.filterMap Deed.entry?) s) g
      (.nobody free ⟨rfl, rfl, rfl⟩) ?_
    intro past s s' event deed _ g n h
    rw [filterMap_append_deed]
    exact n.transition g h
  rw [entries] at n
  cases n with
  | underway underway =>
    rw [done] at underway
    cases underway
  | completed completed => exact completed
  | cancelled _ phase =>
    rw [done] at phase
    cases phase
  | others more => exact (Nat.lt_irrefl 1 more).elim

/-! ## To the end -/

theorem run_replicate_succ (setup : Setup) (backend : Backend) (s : Shared) (ticket : Ticket)
    (n : Nat) :
    s.run setup backend (List.replicate (n + 1) (.step ticket)) =
      (s.step setup backend ticket).run setup backend (List.replicate n (.step ticket)) := rfl

/-- What is left of a round ends, since every answer leaves less of it. -/
theorem exists_finished_of_working (rest : Dialogue Call Reply Round) {segment : List Message}
    (h : s.phases ticket = .working segment rest) :
    ∃ n outcome, (s.run setup backend (List.replicate n (.step ticket))).phases ticket =
      .finished outcome := by
  induction rest generalizing s with
  | done round =>
    refine ⟨1, .ofRound segment.length round, ?_⟩
    rw [run_replicate_succ, step, h]
    exact phases_withPhase_self ..
  | ask call resume ih =>
    have asked : (s.step setup backend ticket).phases ticket =
        .awaiting segment (backend s.calls call) resume := by
      simp only [step, h]
      exact phases_withPhase_self ..
    have answered : ((s.step setup backend ticket).step setup backend ticket).phases ticket =
        .working segment (resume (backend s.calls call)) := by
      rw [step, asked]
      exact phases_withPhase_self ..
    obtain ⟨n, outcome, done⟩ := ih _ answered
    exact ⟨n + 2, outcome, done⟩

/-- An append that has the gate is finished by its own steps. -/
theorem exists_finished_of_holding (setup : Setup) (backend : Backend)
    (h : s.phases ticket = .holding batch) :
    ∃ n outcome, (s.run setup backend (List.replicate n (.step ticket))).phases ticket =
      .finished outcome := by
  have extended : s.step setup backend ticket = extend setup s ticket batch := by
    rw [step, h]
  cases excess : setup.excess? (s.contents.extend batch) with
  | none =>
    refine ⟨1, .noop, ?_⟩
    rw [run_replicate_succ, extended]
    unfold extend
    simp only [excess]
    exact phases_withPhase_self ..
  | some segment =>
    have working : (s.step setup backend ticket).phases ticket =
        .working segment (setup.round (s.contents.extend batch) segment) := by
      rw [extended]
      unfold extend
      simp only [excess]
      exact phases_withPhase_self ..
    obtain ⟨n, outcome, done⟩ := exists_finished_of_working _ working
    exact ⟨n + 1, outcome, done⟩

/-- An append takes the gate only once. -/
theorem Transition.entry?_of_begun (h : Transition setup backend s event deed s')
    (begun : (s.phases event.ticket).isOutside = false) :
    (s'.phases event.ticket).isOutside = false ∧ deed.bind Deed.entry? = none := by
  cases h with
  | nothing => exact ⟨begun, rfl⟩
  | queued _ h | entered h | unqueued h =>
    rw [Event.ticket, h] at begun
    cases begun
  | passed | joined | asked | answered | committed | dropped =>
    simp [Event.ticket, ask, hear, commit, finish, Phase.isOutside, Deed.entry?]

theorem entries_replicate (setup : Setup) (backend : Backend)
    (begun : (s.phases ticket).isOutside = false) (n : Nat) :
    s.entries setup backend (List.replicate n (.step ticket)) = [] := by
  refine (run_induction (fun past s => (s.phases ticket).isOutside = false ∧
    past.filterMap Deed.entry? = []) s ⟨begun, rfl⟩ ?_).2
  rintro past s s' event deed member ⟨begun, nobody⟩ h
  obtain rfl : event = .step ticket := List.eq_of_mem_replicate member
  obtain ⟨begun, none⟩ := h.entry?_of_begun begun
  refine ⟨begun, ?_⟩
  rw [filterMap_append_deed, nobody, none]
  rfl

/-- Whoever is first in the queue of the free gate takes it and is finished by its own steps, and
nobody else takes it meanwhile. -/
theorem exists_finished_of_first (g : Guarded setup s) (backend : Backend)
    (free : s.holder = none) {rest : List Ticket} (first : s.queue = ticket :: rest)
    (h : s.phases ticket = .waiting batch) :
    ∃ n outcome, s.entries setup backend (List.replicate n (.step ticket)) = [(ticket, batch)] ∧
      (s.run setup backend (List.replicate n (.step ticket))).phases ticket =
        .finished outcome := by
  obtain ⟨own, waits, taken⟩ := step_of_first g backend free first
  obtain rfl : own = batch := Phase.waiting.inj (waits.symm.trans h)
  have holding : (s.step setup backend ticket).phases ticket = .holding own := by
    rw [taken]
    exact phases_withPhase_self ..
  obtain ⟨n, outcome, done⟩ :=
    exists_finished_of_holding setup backend holding
  refine ⟨n + 1, outcome, ?_, done⟩
  have remembered : s.deed? (.step ticket) = some (.entered ticket own) := by
    simp only [deed?, h, free, first, List.head?_cons, and_self, if_true]
  have begun : ((s.step setup backend ticket).phases ticket).isOutside = false := by
    rw [holding]
    rfl
  have later := entries_replicate setup backend begun n
  rw [List.replicate_succ, entries, deeds, remembered, List.filterMap_append]
  exact congrArg ((ticket, own) :: ·) later

/-! ## Safety -/

/-- The gate is free, and `batch` has joined `base` and not been shed. The next append that is
finished comes to what an append of both batches to `base` comes to. -/
structure Recovers (setup : Setup) (backend : Backend) (base : Contents) (batch : List Message)
    (s : Shared) : Prop where
  free : s.holder = none
  contents : s.contents = base.extend batch
  /-- Nobody else having taken the gate since, and with any backend that answers its calls alike. -/
  asOne : ∀ (events : List Event) (next : Ticket) (more : List Message) (outcome : Outcome)
    (backend' : Backend) (earlier' : List Call),
    s.entries setup backend events = [(next, more)] →
    (s.run setup backend events).phases next = .finished outcome →
    (∀ new call, s.calls ++ new ++ [call] <+: (s.run setup backend events).calls →
      backend' (earlier' ++ new) call = backend (s.calls ++ new) call) →
    let single := setup.append backend' earlier' base (batch ++ more)
    single.outcome = outcome ∧ single.contents = (s.run setup backend events).contents ∧
      (s.run setup backend events).calls = s.calls ++ single.calls ∧
      (s.run setup backend events).records = s.records ++ single.records ∧
      Bounded setup base (batch ++ more) outcome (s.run setup backend events).contents
  /-- Such an append is there: the one that waits longest, or any new one if none waits. -/
  first : ∀ next rest, s.queue = next :: rest → ∃ more n outcome,
    s.entries setup backend (List.replicate n (.step next)) = [(next, more)] ∧
      (s.run setup backend (List.replicate n (.step next))).phases next = .finished outcome
  new : ∀ next more, s.queue = [] → s.phases next = .idle → ∃ n outcome,
    s.entries setup backend (.submit next more :: List.replicate n (.step next)) =
        [(next, more)] ∧
      (s.run setup backend (.submit next more :: List.replicate n (.step next))).phases next =
        .finished outcome

/-- From `s` on, `events` are those up to the point at which the append of `batch` is given up. -/
structure GivenUp (setup : Setup) (backend : Backend) (s : Shared) (events : List Event)
    (ticket : Ticket) (batch : List Message) : Prop where
  withdrawn : Withdrawn ticket (s.run setup backend events)
    ((s.run setup backend events).cancel ticket)
  /-- If nobody has the gate now, whoever waits longest can take it. -/
  proceeds : ∀ next rest, ((s.run setup backend events).cancel ticket).holder = none →
    ((s.run setup backend events).cancel ticket).queue = next :: rest →
      (((s.run setup backend events).cancel ticket).step setup backend next).holder = some next
  /-- The batch joins once in the whole run if it has joined by now, and else never. -/
  joined : ∀ later, (s.deeds setup backend (events ++ .cancel ticket :: later)).filterMap
      (Deed.joinedBy? ticket) =
    if ((s.run setup backend events).phases ticket).segment?.isSome then [batch] else []
  /-- That is all that any event of the append ever does to the contents. -/
  own : ∀ later before event after,
    events ++ .cancel ticket :: later = before ++ event :: after → event.ticket = ticket →
      ((s.run setup backend before).apply setup backend event).contents =
        (((s.run setup backend before).deed? event).bind (Deed.joinedBy? ticket)).elim
          (s.run setup backend before).contents (s.run setup backend before).contents.extend
  /-- If the batch has joined, there was a point before that, and from there it is as if the batch
  came with the next one. -/
  held : ((s.run setup backend events).phases ticket).segment?.isSome = true →
    ∃ before, before <+: events ∧ (s.run setup backend before).phases ticket = .holding batch
  recovers : ((s.run setup backend events).phases ticket).segment?.isSome = true →
    ∀ before, before <+: events → (s.run setup backend before).phases ticket = .holding batch →
      Recovers setup backend (s.run setup backend before).contents batch
        ((s.run setup backend events).cancel ticket)

theorem recovers_of_extended (g : Guarded setup s) (free : s.holder = none) {base : Contents}
    (contents : s.contents = base.extend batch) : Recovers setup backend base batch s where
  free := free
  contents := contents
  asOne := by
    intro events next more outcome backend' earlier' entries done same
    have completed := completed_of_entries g free entries done
    obtain ⟨-, ⟨hc, hl, hr⟩, phase⟩ := completed
    have both : setup.append backend s.calls base (batch ++ more) =
        setup.append backend s.calls s.contents more := by
      rw [Setup.append_append, contents]
    simp only [Journal.append, ← both] at hc hl hr phase
    have alike : setup.append backend' earlier' base (batch ++ more) =
        setup.append backend s.calls base (batch ++ more) := by
      refine Setup.append_congr fun new call within => same new call ?_
      rw [hl, List.append_assoc]
      exact (List.prefix_append_right_inj _).mpr within
    rw [done] at phase
    have bounded := Setup.append_bounded setup backend s.calls base (batch ++ more)
    rw [Phase.finished.inj phase, hc, hl, hr]
    dsimp only
    rw [alike]
    exact ⟨rfl, rfl, rfl, rfl, bounded⟩
  first := by
    intro next rest first
    obtain ⟨more, waits, -⟩ := step_of_first g backend free first
    exact ⟨more, exists_finished_of_first g backend free first waits⟩
  new := by
    intro next more nobody idle
    have queued : s.submit next more =
        { s with queue := s.queue ++ [next] }.withPhase next (.waiting more) := by
      rw [submit, idle]
    have g' := g.transition (transition_apply setup backend s (.submit next more))
    rw [apply, queued] at g'
    obtain ⟨n, outcome, entries, done⟩ := exists_finished_of_first g' backend free
      (show s.queue ++ [next] = next :: [] by rw [nobody]; rfl) (phases_withPhase_self ..)
    rw [← queued] at entries done
    exact ⟨n, outcome, entries, done⟩

/-- A submission is followed by the course of the append. -/
theorem course_of_submit (idle : s.phases ticket = .idle) (batch : List Message)
    (others : List Event) :
    Course batch
      ((s.deeds setup backend (.submit ticket batch :: others)).filterMap (Deed.joinedBy? ticket))
      ((s.run setup backend (.submit ticket batch :: others)).phases ticket) := by
  have queued : (s.apply setup backend (.submit ticket batch)).phases ticket = .waiting batch := by
    simp only [apply, submit, idle]
    exact phases_withPhase_self ..
  have c : Course batch [] ((s.apply setup backend (.submit ticket batch)).phases ticket) := by
    rw [queued]
    exact .waiting
  exact c.run others

theorem Course.going {phase : Phase} (c : Course batch own phase) (going : phase.isOver = false) :
    (phase.isWaiting = true ∨ phase.isInside = true) ∧
      own = if phase.segment?.isSome then [batch] else [] := by
  cases c with
  | waiting => exact ⟨.inl rfl, rfl⟩
  | holding | working | awaiting => exact ⟨.inr rfl, rfl⟩
  | finished | withdrawn | cancelled => cases going

theorem Transition.holding_of_joined
    (h : Transition setup backend s event (some (.joined ticket batch)) s') :
    s.phases ticket = .holding batch := by
  cases h with
  | passed h | joined h => exact h

/-- A batch that has joined in a run was held at some point of it. -/
theorem exists_holding_of_joinedBy? {events : List Event}
    (h : batch ∈ (s.deeds setup backend events).filterMap (Deed.joinedBy? ticket)) :
    ∃ before, before <+: events ∧ (s.run setup backend before).phases ticket = .holding batch := by
  obtain ⟨deed, remembered, added⟩ := List.mem_filterMap.mp h
  obtain ⟨before, event, after, rfl, found⟩ := exists_of_mem_deeds remembered
  refine ⟨before, List.prefix_append .., ?_⟩
  have step := transition_apply setup backend (s.run setup backend before) event
  rw [found] at step
  cases deed with
  | joined t own =>
    obtain ⟨rfl, same⟩ := Option.ite_none_right_eq_some.mp added
    rw [step.holding_of_joined, Option.some.inj same]
  | entered | shed => cases added

/-- Where an append stands whose batch has joined, the contents are those before, with the batch. -/
theorem contents_of_segment? (g : Guarded setup s) (hold : s.phases ticket = .holding batch)
    (events : List Event)
    (extended : ((s.run setup backend events).phases ticket).segment?.isSome = true) :
    (s.run setup backend events).contents = s.contents.extend batch := by
  obtain ⟨segment, own⟩ := Option.isSome_iff_exists.mp extended
  rcases underway_or_isOver g (underway_of_holding setup backend hold) events with underway | left
  · obtain ⟨told, rest, remaining⟩ := underway.exists_remaining own
    exact remaining.contents
  · rw [Phase.isOver_of_isInside (Phase.isInside_of_segment? own)] at left
    cases left

/-- An append of any batch, submitted at any point of any run, is safe to give up at any point
before it is over. -/
theorem cancel_safe (setup : Setup) (backend : Backend) (contents : Contents)
    (earlier : List Call) (past : List Event) (ticket : Ticket) (batch : List Message)
    (others : List Event)
    (idle : ((start contents earlier).run setup backend past).phases ticket = .idle)
    (going : ((((start contents earlier).run setup backend past).run setup backend
      (.submit ticket batch :: others)).phases ticket).isOver = false) :
    GivenUp setup backend ((start contents earlier).run setup backend past)
      (.submit ticket batch :: others) ticket batch := by
  have g := guarded_run setup backend contents earlier past
  generalize (start contents earlier).run setup backend past = s at idle going g
  obtain ⟨suspended, joined⟩ := (course_of_submit idle batch others).going going
  generalize Event.submit ticket batch :: others = events at going suspended joined
  have withdrawn := cancel_withdrawn (g.run backend events) suspended
  have ended (later : List Event) :
      s.run setup backend (events ++ .cancel ticket :: later) =
        ((s.run setup backend events).cancel ticket).run setup backend later :=
    run_append ..
  have left : (((s.run setup backend events).cancel ticket).phases ticket).isOver = true := by
    rw [withdrawn.phase]
    rfl
  have g' : Guarded setup ((s.run setup backend events).cancel ticket) :=
    (g.run backend events).transition (transition_apply setup backend _ (.cancel ticket))
  refine ⟨withdrawn, ?_, ?_, ?_, ?_, ?_⟩
  · intro next rest free first
    obtain ⟨more, -, taken⟩ := step_of_first g' backend free first
    exact congrArg holder taken
  · intro later
    have nothing := joinedBy?_of_isOver setup backend left later
    rw [deeds_append, List.filterMap_append, joined, deeds, List.filterMap_append]
    exact (congrArg _ nothing).trans (List.append_nil _)
  · rintro later before event after split rfl
    have cuts := cuts_run setup backend s (events ++ .cancel event.ticket :: later) event.ticket
    rw [ended, phases_run_of_isOver left, withdrawn.phase, idle] at cuts
    exact contents_of_own (by rw [← Nat.zero_add (List.countP ..)]; exact cuts.symm) split
  · intro extended
    rw [if_pos extended] at joined
    exact exists_holding_of_joinedBy? (by rw [joined]; exact List.mem_singleton_self batch)
  · rintro extended before ⟨between, rfl⟩ hold
    have inside : ((s.run setup backend (before ++ between)).phases ticket).isInside = true := by
      obtain ⟨segment, own⟩ := Option.isSome_iff_exists.mp extended
      exact Phase.isInside_of_segment? own
    refine recovers_of_extended g' ?_ ?_
    · rw [withdrawn.holder, (g.run backend _).holder_eq inside, if_pos rfl]
    · rw [withdrawn.contents, run_append]
      rw [run_append] at extended
      exact contents_of_segment? (g.run backend before) hold between extended

/-- An append that is given up while two summaries are to be made one, and another that waits. -/
theorem cancel_safe_merging :
    GivenUp .narrow .numbered ((start ⟨[.user "a"], some "s", ⟨3, 7⟩⟩ []).run .narrow .numbered [])
      [.submit 0 [.user "b", .user "c"], .step 0, .submit 1 [.user "d"], .step 0, .step 0, .step 0,
        .step 0] 0 [.user "b", .user "c"] :=
  cancel_safe .narrow .numbered ⟨[.user "a"], some "s", ⟨3, 7⟩⟩ [] [] 0 [.user "b", .user "c"]
    [.step 0, .submit 1 [.user "d"], .step 0, .step 0, .step 0, .step 0] rfl rfl

end Shared

end RollingHistory
