import RollingHistory.Proofs.Gate

/-!
Which appends took the gate.

`entries` lists them in order. Every append that is inside the gate or finished is on the list, once
and with the batch that it was submitted with (`listed_run`), and for each there was a point of the
run at which it had just taken the gate (`exists_holding`).
-/

namespace RollingHistory

namespace Phase

/-- The append has not taken the gate. -/
def isOutside : Phase → Bool
  | .idle | .waiting _ => true
  | _ => false

end Phase

namespace Shared

variable {setup : Setup} {backend : Backend} {s s' : Shared} {event : Event} {deed : Option Deed}

theorem entries_append (setup : Setup) (backend : Backend) (s : Shared) (as bs : List Event) :
    s.entries setup backend (as ++ bs) =
      s.entries setup backend as ++ (s.run setup backend as).entries setup backend bs := by
  rw [entries, deeds_append, List.filterMap_append]
  rfl

/-- `order` holds, once each and with their batches, the appends that took the gate; `all` holds
the events that submitted them. -/
structure Listed (all : List Event) (order : List (Ticket × List Message)) (s : Shared) : Prop where
  distinct : (order.map Prod.fst).Nodup
  begun : ∀ entry ∈ order, (s.phases entry.1).isOutside = false
  submitted : ∀ entry ∈ order, .submit entry.1 entry.2 ∈ all
  waiting : ∀ t batch, s.phases t = .waiting batch → .submit t batch ∈ all
  inside : ∀ t, (s.phases t).isInside = true → ∃ batch, (t, batch) ∈ order
  finished : ∀ t outcome, s.phases t = .finished outcome → ∃ batch, (t, batch) ∈ order

theorem Listed.start (all : List Event) (contents : Contents) (earlier : List Call) :
    Listed all [] (start contents earlier) where
  distinct := List.nodup_nil
  begun _ h := nomatch h
  submitted _ h := nomatch h
  waiting _ _ h := nomatch h
  inside _ h := nomatch h
  finished _ _ h := nomatch h

/-- A change of one append's phase that does not let it through the gate. -/
theorem Listed.update {all : List Event} {order : List (Ticket × List Message)}
    (l : Listed all order s) (ticket : Ticket)
    (others : ∀ t, t ≠ ticket → s'.phases t = s.phases t)
    (begun : (s.phases ticket).isOutside = false → (s'.phases ticket).isOutside = false)
    (waiting : ∀ batch, s'.phases ticket = .waiting batch → .submit ticket batch ∈ all)
    (inside : (s'.phases ticket).isInside = true → (s.phases ticket).isInside = true)
    (finished : ∀ outcome, s'.phases ticket = .finished outcome →
      (s.phases ticket).isInside = true) : Listed all order s' where
  distinct := l.distinct
  submitted := l.submitted
  begun entry h := by
    by_cases same : entry.1 = ticket
    · rw [same]
      exact begun (same ▸ l.begun entry h)
    · rw [others _ same]
      exact l.begun entry h
  waiting t batch h := by
    by_cases same : t = ticket
    · subst same
      exact waiting batch h
    · rw [others t same] at h
      exact l.waiting t batch h
  inside t h := by
    by_cases same : t = ticket
    · subst same
      exact l.inside t (inside h)
    · rw [others t same] at h
      exact l.inside t h
  finished t outcome h := by
    by_cases same : t = ticket
    · subst same
      exact l.inside t (finished outcome h)
    · rw [others t same] at h
      exact l.finished t outcome h

/-- Taking the gate puts an append on the list. -/
theorem Listed.enter {all : List Event} {order : List (Ticket × List Message)}
    (l : Listed all order s) {ticket : Ticket} {batch : List Message}
    (h : s.phases ticket = .waiting batch)
    (others : ∀ t, t ≠ ticket → s'.phases t = s.phases t)
    (own : s'.phases ticket = .holding batch) :
    Listed all (order ++ [(ticket, batch)]) s' where
  distinct := by
    rw [List.map_append]
    refine List.nodup_append.mpr ⟨l.distinct, List.pairwise_singleton _ _, ?_⟩
    intro t ht u hu same
    obtain ⟨entry, listed, rfl⟩ := List.mem_map.mp ht
    have begun := l.begun entry listed
    rw [same, List.mem_singleton.mp hu, h] at begun
    exact absurd begun (by simp [Phase.isOutside])
  begun entry he := by
    by_cases same : entry.1 = ticket
    · rw [same, own]
      rfl
    · rw [others _ same]
      rcases List.mem_append.mp he with old | new
      · exact l.begun entry old
      · rw [List.mem_singleton.mp new] at same
        exact absurd rfl same
  submitted entry he := by
    rcases List.mem_append.mp he with old | new
    · exact l.submitted entry old
    · rw [List.mem_singleton.mp new]
      exact l.waiting ticket batch h
  waiting t other ht := by
    by_cases same : t = ticket
    · rw [same, own] at ht
      cases ht
    · rw [others t same] at ht
      exact l.waiting t other ht
  inside t ht := by
    by_cases same : t = ticket
    · exact ⟨batch, by simp [same]⟩
    · rw [others t same] at ht
      obtain ⟨other, listed⟩ := l.inside t ht
      exact ⟨other, List.mem_append_left _ listed⟩
  finished t outcome ht := by
    by_cases same : t = ticket
    · rw [same, own] at ht
      cases ht
    · rw [others t same] at ht
      obtain ⟨other, listed⟩ := l.finished t outcome ht
      exact ⟨other, List.mem_append_left _ listed⟩

theorem Listed.transition {all : List Event} {order : List (Ticket × List Message)}
    (l : Listed all order s) (h : Transition setup backend s event deed s') (known : event ∈ all) :
    Listed all (order ++ (deed.bind Deed.entry?).toList) s' := by
  have others : ∀ t, t ≠ event.ticket → s'.phases t = s.phases t := fun t => h.phases_of_ne
  cases h with
  | entered h free first => exact l.enter h others (phases_withPhase_self ..)
  | nothing =>
    rw [Option.bind_none, Option.toList_none, List.append_nil]
    exact l
  | @queued ticket batch h =>
    rw [Option.bind_none, Option.toList_none, List.append_nil]
    refine l.update ticket others ?_ ?_ ?_ ?_
    · simp [h, Phase.isOutside]
    · simpa using known
    · simp [Phase.isInside]
    · simp
  | passed h | joined h | asked h | answered h | committed h | unqueued h =>
    simp only [Option.bind_none, Option.bind_some, Deed.entry?, Option.toList_none,
      List.append_nil]
    refine l.update _ others ?_ ?_ ?_ ?_
    all_goals simp [Event.ticket, h, ask, hear, commit, finish, Phase.isOutside, Phase.isInside]
  | @dropped ticket h =>
    rw [Option.bind_none, Option.toList_none, List.append_nil]
    refine l.update ticket others ?_ ?_ ?_ ?_
    all_goals simp [Phase.isOutside, Phase.isInside]

theorem listed_run (setup : Setup) (backend : Backend) (contents : Contents)
    (earlier : List Call) (events : List Event) :
    Listed events ((start contents earlier).entries setup backend events)
      ((start contents earlier).run setup backend events) := by
  refine run_induction (fun past => Listed events (past.filterMap Deed.entry?)) _
    (Listed.start events contents earlier) ?_
  intro past s s' event deed known l h
  rw [filterMap_append_deed]
  exact l.transition h known

/-! ## When an append took the gate -/

/-- What the history of a run remembers happened at some point of the run. -/
theorem exists_of_mem_deeds {events : List Event} {deed : Deed}
    (h : deed ∈ s.deeds setup backend events) :
    ∃ before event after, events = before ++ event :: after ∧
      (s.run setup backend before).deed? event = some deed := by
  induction events generalizing s with
  | nil => exact absurd h List.not_mem_nil
  | cons event later ih =>
    rw [deeds, List.mem_append] at h
    rcases h with now | afterwards
    · exact ⟨[], event, later, rfl, Option.mem_toList.mp now⟩
    · obtain ⟨before, next, after, same, found⟩ := ih afterwards
      refine ⟨event :: before, next, after, ?_, found⟩
      rw [same, List.cons_append]

theorem Transition.holding_of_entered {ticket : Ticket} {batch : List Message}
    (h : Transition setup backend s event (some (.entered ticket batch)) s') :
    s'.phases ticket = .holding batch := by
  cases h with
  | entered => exact phases_withPhase_self ..

theorem exists_holding {events : List Event} {ticket : Ticket} {batch : List Message}
    (h : (ticket, batch) ∈ s.entries setup backend events) :
    ∃ before, before <+: events ∧
      (s.run setup backend before).phases ticket = .holding batch := by
  obtain ⟨deed, remembered, entry⟩ := List.mem_filterMap.mp h
  obtain ⟨before, event, after, rfl, found⟩ := exists_of_mem_deeds remembered
  refine ⟨before ++ [event], ⟨after, by rw [List.append_assoc, List.singleton_append]⟩, ?_⟩
  have entered := transition_apply setup backend (s.run setup backend before) event
  rw [found] at entered
  rw [run_append]
  cases deed with
  | entered t own =>
    cases entry
    exact entered.holding_of_entered
  | joined | shed => cases entry

end Shared

end RollingHistory
