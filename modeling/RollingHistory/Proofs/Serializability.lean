import RollingHistory.Proofs.Entries
import RollingHistory.Proofs.Interface
import RollingHistory.Proofs.Underway

/-!
Overlapping appends are serializable.

A run in which no append is given up does what its appends do one after the other, in the order in
which they took the gate (`run_serialized`): they come to the same outcomes, make the same calls
and leave the same contents and records, and every reader sees contents between two of them, or
contents that differ from these only by the batch of the next one. `Progress` is the invariant: the
run agrees with the serial one, except that one append may be under way from where it stands.
-/

namespace RollingHistory

namespace Shared

variable {setup : Setup} {backend : Backend} {s s' : Shared} {event : Event} {deed : Option Deed}

/-! ## Agreement with the serial run -/

/-- The appends of a list, one after the other, from contents before any append. -/
def serial (setup : Setup) (backend : Backend) (contents : Contents) (earlier : List Call)
    (order : List (Ticket × List Message)) : Journal :=
  (Journal.start contents earlier).appendAll setup backend (order.map Prod.snd)

variable {contents : Contents} {earlier : List Call} {order past : List (Ticket × List Message)}

theorem serial_append_singleton (setup : Setup) (backend : Backend) (contents : Contents)
    (earlier : List Call) (order : List (Ticket × List Message)) (entry : Ticket × List Message) :
    serial setup backend contents earlier (order ++ [entry]) =
      (serial setup backend contents earlier order).append setup backend entry.2 := by
  rw [serial, List.map_append, Journal.appendAll_append]
  rfl

/-- The appends of a list are finished, with the outcomes that they have one after the other. -/
def Finished (setup : Setup) (backend : Backend) (contents : Contents) (earlier : List Call)
    (past : List (Ticket × List Message)) (s : Shared) : Prop :=
  past.map (fun entry => s.phases entry.1) =
    (serial setup backend contents earlier past).outcomes.map .finished

theorem Finished.transition (f : Finished setup backend contents earlier past s)
    (h : Transition setup backend s event deed s') :
    Finished setup backend contents earlier past s' := by
  unfold Finished at f ⊢
  rw [← f]
  refine List.map_congr_left fun entry listed => h.phases_of_isOver ?_
  have finished : s.phases entry.1 ∈ past.map fun entry => s.phases entry.1 :=
    List.mem_map.mpr ⟨entry, listed, rfl⟩
  rw [f] at finished
  obtain ⟨outcome, -, same⟩ := List.mem_map.mp finished
  rw [← same]
  rfl

/-- The run agrees with the serial one: nobody has the gate, or one append is under way from where
the serial run of those before it stands. -/
inductive Progress (setup : Setup) (backend : Backend) (contents : Contents) (earlier : List Call) :
    List (Ticket × List Message) → Shared → Prop
  | free {order : List (Ticket × List Message)} {s : Shared} (holder : s.holder = none)
    (state : s.Matches (serial setup backend contents earlier order))
    (finished : Finished setup backend contents earlier order s) :
    Progress setup backend contents earlier order s
  | busy {past : List (Ticket × List Message)} {ticket : Ticket} {batch : List Message}
    {s : Shared}
    (underway : Underway setup backend (serial setup backend contents earlier past) batch s
      (s.phases ticket))
    (finished : Finished setup backend contents earlier past s) :
    Progress setup backend contents earlier (past ++ [(ticket, batch)]) s

theorem Progress.start (setup : Setup) (backend : Backend) (contents : Contents)
    (earlier : List Call) :
    Progress setup backend contents earlier [] (start contents earlier) :=
  .free rfl ⟨rfl, rfl, rfl⟩ rfl

theorem Progress.transition (p : Progress setup backend contents earlier order s)
    (g : Guarded setup s) (h : Transition setup backend s event deed s')
    (kept : event.isCancel = false) :
    Progress setup backend contents earlier (order ++ (deed.bind Deed.entry?).toList) s' := by
  cases p with
  | free holder state finished =>
    have out := g.outside_of_free holder event.ticket
    rcases h.of_free g holder with ⟨none, free⟩ | ⟨ticket, batch, entry, own⟩
    · rw [none, Option.toList_none, List.append_nil]
      exact .free free (state.untouched h out) (finished.transition h)
    · rw [entry, Option.toList_some]
      refine .busy ?_ (finished.transition h)
      rw [own]
      exact .holding (state.untouched h out)
  | @busy past ticket batch _ underway finished =>
    have hold := g.holder_eq underway.isInside
    rw [h.entry?_eq_none hold, Option.toList_none, List.append_nil]
    rcases underway.transition g h with underway | ⟨free, state, phase⟩ | ⟨rfl, -⟩
    · exact .busy underway (finished.transition h)
    · refine .free free ?_ ?_
      · rw [serial_append_singleton]
        exact state
      · unfold Finished
        rw [serial_append_singleton, List.map_append, Journal.append, List.map_append,
          finished.transition h]
        simp only [List.map_cons, List.map_nil, phase]
    · cases kept

theorem progress_run (setup : Setup) (backend : Backend) (contents : Contents)
    (earlier : List Call) {events : List Event}
    (kept : ∀ event ∈ events, event.isCancel = false) :
    Progress setup backend contents earlier ((start contents earlier).entries setup backend events)
      ((start contents earlier).run setup backend events) := by
  refine guarded_induction
    (fun past => Progress setup backend contents earlier (past.filterMap Deed.entry?))
    (.start setup contents earlier) (.start setup backend contents earlier) ?_
  intro past s s' event deed member g p h
  rw [filterMap_append_deed]
  exact p.transition g h (kept event member)

/-! ## The outcomes, the state and the views -/

theorem Finished.outcome (f : Finished setup backend contents earlier past s) {n : Nat}
    {ticket : Ticket} {batch : List Message} {outcome : Outcome}
    (listed : past[n]? = some (ticket, batch)) (h : s.phases ticket = .finished outcome) :
    (serial setup backend contents earlier past).outcomes[n]? = some outcome := by
  have same := congrArg (fun phases => phases[n]?) f
  simp only [List.getElem?_map, listed, Option.map_some, h] at same
  obtain ⟨other, found, same⟩ := Option.map_eq_some_iff.mp same.symm
  cases same
  exact found

theorem Progress.outcome (p : Progress setup backend contents earlier order s) {n : Nat}
    {ticket : Ticket} {batch : List Message} {outcome : Outcome}
    (listed : order[n]? = some (ticket, batch)) (h : s.phases ticket = .finished outcome) :
    (serial setup backend contents earlier order).outcomes[n]? = some outcome := by
  cases p with
  | free holder state finished => exact finished.outcome listed h
  | @busy past last lastBatch _ underway finished =>
    rw [List.getElem?_append] at listed
    split at listed
    · have found := finished.outcome listed h
      rw [serial_append_singleton, Journal.append,
        List.getElem?_append_left (List.getElem?_eq_some_iff.mp found).1]
      exact found
    · -- the last append of the list is still under way
      obtain ⟨-, same⟩ := List.mem_singleton.mp (List.mem_of_getElem? listed)
      rw [h] at underway
      cases underway

theorem Progress.calls_prefix (p : Progress setup backend contents earlier order s) :
    s.calls <+: (serial setup backend contents earlier order).calls := by
  cases p with
  | free holder state finished =>
    exact ⟨[], by rw [List.append_nil, state.calls]⟩
  | busy underway finished =>
    rw [serial_append_singleton]
    exact underway.calls_prefix

theorem Progress.final (p : Progress setup backend contents earlier order s) (g : Guarded setup s)
    (nobody : s.holder = none) :
    s.Matches (serial setup backend contents earlier order) ∧
      Finished setup backend contents earlier order s := by
  cases p with
  | free holder state finished => exact ⟨state, finished⟩
  | busy underway finished => exact absurd nobody (underway.holder_ne_none g)

/-- What can be read at a point of a run is what stands between two appends of the serial run, or
that with the batch of the next append and nothing else changed. -/
theorem Progress.seen (p : Progress setup backend contents earlier order s) :
    ∃ n : Nat, n ≤ order.length ∧
      (s.contents = (serial setup backend contents earlier (order.take n)).contents ∨
      ∃ entry, order[n]? = some entry ∧ s.contents =
        (serial setup backend contents earlier (order.take n)).contents.extend entry.2) := by
  cases p with
  | free holder state finished =>
    refine ⟨order.length, Nat.le_refl _, .inl ?_⟩
    rw [List.take_length]
    exact state.contents
  | @busy past ticket batch _ underway finished =>
    refine ⟨past.length, by simp, ?_⟩
    rw [List.take_left]
    rcases underway.contents with same | joined
    · exact .inl same
    · exact .inr ⟨(ticket, batch), by simp, joined⟩

/-- A run from `contents` and the serial run of its appends, in the order in which they took the
gate, cannot be told apart. -/
structure Serialized (setup : Setup) (backend : Backend) (contents : Contents)
    (earlier : List Call) (events : List Event) (order : List (Ticket × List Message)) : Prop where
  /-- Every append took the gate once, with the batch it was submitted with. -/
  distinct : (order.map Prod.fst).Nodup
  submitted : ∀ entry ∈ order, .submit entry.1 entry.2 ∈ events
  /-- Whoever is finished has the outcome of the serial run. -/
  outcomes : ∀ (ticket : Ticket) (outcome : Outcome),
    ((start contents earlier).run setup backend events).phases ticket = .finished outcome →
      ∃ (n : Nat) (batch : List Message), order[n]? = some (ticket, batch) ∧
        (serial setup backend contents earlier order).outcomes[n]? = some outcome
  /-- The calls are those of the serial run, as far as they were made. -/
  calls : ((start contents earlier).run setup backend events).calls <+:
    (serial setup backend contents earlier order).calls
  /-- When nobody has the gate, all that took it are finished and nothing is missing. -/
  final : ((start contents earlier).run setup backend events).holder = none →
    ((start contents earlier).run setup backend events).Matches
        (serial setup backend contents earlier order) ∧
      order.map (fun entry =>
          ((start contents earlier).run setup backend events).phases entry.1) =
        (serial setup backend contents earlier order).outcomes.map .finished
  /-- A reader at any point sees the contents after some appends of the serial run, or those with
  the batch of the next append. -/
  views : ∀ before after, events = before ++ after → ∃ n : Nat, n ≤ order.length ∧
    ((∀ reading, setup.look ((start contents earlier).run setup backend before).contents reading =
      setup.look (serial setup backend contents earlier (order.take n)).contents reading) ∨
    ∃ entry, order[n]? = some entry ∧
      ∀ reading, setup.look ((start contents earlier).run setup backend before).contents reading =
        setup.look ((serial setup backend contents earlier (order.take n)).contents.extend entry.2)
          reading)

/-- Overlapping appends, none of them given up, are serializable in the order in which they take
the gate. -/
theorem run_serialized (setup : Setup) (backend : Backend) (contents : Contents)
    (earlier : List Call) (events : List Event)
    (kept : ∀ event ∈ events, event.isCancel = false) :
    Serialized setup backend contents earlier events
      ((start contents earlier).entries setup backend events) := by
  have p := progress_run setup backend contents earlier kept
  have l := listed_run setup backend contents earlier events
  refine ⟨l.distinct, l.submitted, ?_, p.calls_prefix, ?_, ?_⟩
  · intro ticket outcome h
    obtain ⟨batch, listed⟩ := l.finished ticket outcome h
    obtain ⟨n, found⟩ := List.mem_iff_getElem?.mp listed
    exact ⟨n, batch, found, p.outcome found h⟩
  · exact p.final (guarded_run setup backend contents earlier events)
  · rintro before after rfl
    have p := progress_run setup backend contents earlier fun event h =>
      kept event (List.mem_append_left after h)
    obtain ⟨n, within, seen⟩ := p.seen
    rw [entries_append]
    refine ⟨n, ?_, ?_⟩
    · rw [List.length_append]
      omega
    · rw [List.take_append_of_le_length within]
      rcases seen with same | ⟨entry, next, joined⟩
      · exact .inl fun reading => by rw [same]
      · refine .inr ⟨entry, ?_, fun reading => by rw [joined]⟩
        rw [List.getElem?_append_left (List.getElem?_eq_some_iff.mp next).1]
        exact next

/-- One append that sheds, and another that waits for the gate until the first is over. -/
def overlap : List Event := [
  .submit 0 [.user "a", .user "b", .user "c"], .step 0, .submit 1 [.user "d"], .step 0, .step 1,
  .step 0, .step 1, .step 0, .step 0, .step 1, .step 1]

theorem run_serialized_overlap :
    (∀ event ∈ overlap, event.isCancel = false) ∧
      Serialized .narrow .numbered (.ofMessages []) [] overlap
        [(0, [.user "a", .user "b", .user "c"]), (1, [.user "d"])] :=
  ⟨by decide, run_serialized .narrow _ _ _ overlap (by decide)⟩

end Shared

end RollingHistory
