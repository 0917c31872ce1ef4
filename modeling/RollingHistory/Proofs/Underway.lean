import RollingHistory.History.Journal
import RollingHistory.Proofs.Gate
import RollingHistory.Proofs.Shedding

/-!
From taking the gate to leaving it.

Only an append inside the gate touches contents, calls or records (`Transition.untouched`). So one
that took the gate at a journal `j` stays `Underway` from `j` whatever others do, and when it is
over it has done just what `Journal.append` does to `j` (`Underway.transition`). The point of the
invariant is the rest of the round: run to its end from the calls made so far, it makes up the
round that `j` would run, and what has gone wrong so far is in the log (`Remaining`).
-/

namespace RollingHistory

namespace Shared

variable {setup : Setup} {backend : Backend} {s s' : Shared} {event : Event} {deed : Option Deed}
  {j : Journal} {batch segment : List Message} {ticket : Ticket} {told : List LogRecord}
  {rest : Dialogue Call Reply Round}

/-- The contents, the calls and the records are those of a journal. -/
structure Matches (s : Shared) (j : Journal) : Prop where
  contents : s.contents = j.contents
  calls : s.calls = j.calls
  records : s.records = j.records

/-- An append outside the gate touches nothing that others can see. -/
theorem Transition.untouched (h : Transition setup backend s event deed s')
    (out : (s.phases event.ticket).isInside = false) :
    s'.contents = s.contents ∧ s'.calls = s.calls ∧ s'.records = s.records := by
  cases h with
  | nothing | queued | entered | unqueued => exact ⟨rfl, rfl, rfl⟩
  | passed h | joined h | asked h | answered h | committed h =>
    rw [Event.ticket, h] at out
    exact absurd out (by simp [Phase.isInside])
  | dropped h =>
    rw [Event.ticket, h] at out
    exact absurd out (by decide)

theorem Matches.untouched (m : s.Matches j) (h : Transition setup backend s event deed s')
    (out : (s.phases event.ticket).isInside = false) : s'.Matches j := by
  obtain ⟨contents, calls, records⟩ := h.untouched out
  exact ⟨contents.trans m.contents, calls.trans m.calls, records.trans m.records⟩

/-- The batch has joined the contents of `j`, since then the cut and what was `told` have been
written down, and what is left of the round completes the round that `j` would run. -/
structure Remaining (setup : Setup) (backend : Backend) (j : Journal) (batch : List Message)
    (s : Shared) (segment : List Message) (told : List LogRecord)
    (rest : Dialogue Call Reply Round) : Prop where
  contents : s.contents = j.contents.extend batch
  excess : setup.excess? s.contents = some segment
  records : s.records = j.records ++ setup.trigger s.contents segment.length :: told
  result : (rest.run backend s.calls).1 =
    ((setup.round s.contents segment).run backend j.calls).1
  calls : s.calls ++ (rest.run backend s.calls).2 =
    j.calls ++ ((setup.round s.contents segment).run backend j.calls).2

/-- An append of `batch` that took the gate at `j` has come as far as this phase. What went wrong
is written down when the answer is taken, and not before. -/
inductive Underway (setup : Setup) (backend : Backend) (j : Journal) (batch : List Message)
    (s : Shared) : Phase → Prop
  | holding (state : s.Matches j) : Underway setup backend j batch s (.holding batch)
  | working {segment : List Message} {rest : Dialogue Call Reply Round}
    (remaining : Remaining setup backend j batch s segment (heard segment.length rest) rest) :
    Underway setup backend j batch s (.working segment rest)
  | awaiting {segment : List Message} {reply : Reply} {resume : Reply → Dialogue Call Reply Round}
    (remaining : Remaining setup backend j batch s segment [] (resume reply)) :
    Underway setup backend j batch s (.awaiting segment reply resume)

/-- The append of `batch` that took the gate at `j` has left it, and has done what an append to
`j` does. -/
structure Completed (setup : Setup) (backend : Backend) (j : Journal) (batch : List Message)
    (s : Shared) (ticket : Ticket) : Prop where
  free : s.holder = none
  state : s.Matches (j.append setup backend batch)
  phase : s.phases ticket =
    .finished (setup.append backend j.calls j.contents batch).outcome

theorem Underway.isInside {phase : Phase} (u : Underway setup backend j batch s phase) :
    phase.isInside = true := by
  cases u <;> rfl

theorem Underway.holder_ne_none (u : Underway setup backend j batch s (s.phases ticket))
    (g : Guarded setup s) : s.holder ≠ none := by
  intro free
  have inside := u.isInside
  rw [g.outside_of_free free] at inside
  cases inside

/-- An append that has just taken the gate is under way from where things stand. -/
theorem underway_of_holding (setup : Setup) (backend : Backend)
    (h : s.phases ticket = .holding batch) :
    Underway setup backend ⟨s.contents, [], s.calls, s.records⟩ batch s (s.phases ticket) := by
  rw [h]
  exact .holding ⟨rfl, rfl, rfl⟩

/-- An append with a segment has the rest of a round before it. -/
theorem Underway.exists_remaining {phase : Phase} (u : Underway setup backend j batch s phase)
    (h : phase.segment? = some segment) :
    ∃ told rest, Remaining setup backend j batch s segment told rest := by
  cases u with
  | holding => cases h
  | working r | awaiting r =>
    cases h
    exact ⟨_, _, r⟩

theorem Remaining.untouched (r : Remaining setup backend j batch s segment told rest)
    (contents : s'.contents = s.contents) (calls : s'.calls = s.calls)
    (records : s'.records = s.records) :
    Remaining setup backend j batch s' segment told rest := by
  obtain ⟨h1, h2, h3, h4, h5⟩ := r
  rw [← contents, ← calls] at h4 h5
  rw [← contents] at h1 h2 h3
  exact ⟨h1, h2, records.trans h3, h4, h5⟩

theorem Remaining.calls_prefix (r : Remaining setup backend j batch s segment told rest) :
    s.calls <+: (j.append setup backend batch).calls := by
  have excess := r.excess
  have calls := r.calls
  rw [r.contents] at excess calls
  have appended := Setup.append_of_excess excess backend j.calls
  unfold Journal.append
  rw [appended]
  exact ⟨_, calls⟩

/-- What others do outside the gate does not matter. -/
theorem Underway.untouched {phase : Phase} (u : Underway setup backend j batch s phase)
    (contents : s'.contents = s.contents) (calls : s'.calls = s.calls)
    (records : s'.records = s.records) : Underway setup backend j batch s' phase := by
  cases u with
  | holding m =>
    exact .holding ⟨contents.trans m.contents, calls.trans m.calls, records.trans m.records⟩
  | working r => exact .working (r.untouched contents calls records)
  | awaiting r => exact .awaiting (r.untouched contents calls records)

/-- A reader sees the contents of `j`, or those with the batch and nothing else changed. -/
theorem Underway.contents {phase : Phase} (u : Underway setup backend j batch s phase) :
    s.contents = j.contents ∨ s.contents = j.contents.extend batch := by
  cases u with
  | holding m => exact .inl m.contents
  | working r | awaiting r => exact .inr r.contents

/-- The calls made so far are the first ones of the append. -/
theorem Underway.calls_prefix {phase : Phase} (u : Underway setup backend j batch s phase) :
    s.calls <+: (j.append setup backend batch).calls := by
  cases u with
  | holding m =>
    rw [m.calls]
    exact List.prefix_append ..
  | working r | awaiting r => exact r.calls_prefix

/-! ## The steps of the append itself -/

theorem completed_of_fits (m : s.Matches j)
    (fits : setup.excess? (s.contents.extend batch) = none) :
    Completed setup backend j batch
      ({ s with contents := s.contents.extend batch }.finish ticket .noop) ticket := by
  rw [m.contents] at fits
  have appended := Setup.append_of_excess_none fits backend j.calls
  refine ⟨rfl, ?_, ?_⟩
  · simp only [finish, Journal.append, appended, List.append_nil]
    exact ⟨by rw [m.contents]; rfl, m.calls, m.records⟩
  · rw [appended, finish, phases_withPhase_self]

/-- Nothing is heard before anybody has been asked. -/
theorem heard_round (setup : Setup) (contents : Contents) (segment : List Message)
    (removed : Nat) : heard removed (setup.round contents segment) = [] := by
  unfold Setup.round
  cases given : setup.condenser.summarizer with
  | none =>
    rw [Condenser.condense_of_no_summarizer given]
    rfl
  | some name =>
    rw [Condenser.condense_of_summarizer given]
    rfl

theorem remaining_of_excess (m : s.Matches j)
    (excess : setup.excess? (s.contents.extend batch) = some segment) (phase : Phase) :
    Remaining setup backend j batch
      ({ s with
        contents := s.contents.extend batch
        records := s.records ++ [setup.trigger (s.contents.extend batch) segment.length]
        }.withPhase ticket phase)
      segment (heard segment.length (setup.round (s.contents.extend batch) segment))
      (setup.round (s.contents.extend batch) segment) where
  contents := by rw [← m.contents]; rfl
  excess := excess
  records := by rw [heard_round, ← m.records]; rfl
  result := by rw [← m.calls]; rfl
  calls := by rw [← m.calls]; rfl

theorem Remaining.ask {call : Call} {resume : Reply → Dialogue Call Reply Round}
    (r : Remaining setup backend j batch s segment told (.ask call resume)) :
    Remaining setup backend j batch (ask backend s ticket segment call resume) segment told
      (resume (backend s.calls call)) where
  contents := r.contents
  excess := r.excess
  records := r.records
  result := r.result
  calls := by
    have calls := r.calls
    rw [Dialogue.run_ask, List.append_cons] at calls
    exact calls

theorem Remaining.hear (r : Remaining setup backend j batch s segment [] rest) :
    Remaining setup backend j batch (s.hear ticket segment rest) segment
      (heard segment.length rest) rest where
  contents := r.contents
  excess := r.excess
  records := by
    show s.records ++ heard segment.length rest = _
    rw [r.records, List.append_assoc]
    rfl
  result := r.result
  calls := r.calls

theorem Remaining.completed {round : Round}
    (r : Remaining setup backend j batch s segment (round.failures segment.length)
      (.done round)) :
    Completed setup backend j batch (s.commit ticket segment round) ticket := by
  obtain ⟨contents, excess, records, result, calls⟩ := r
  rw [contents] at excess records result calls
  have appended := Setup.append_of_excess excess backend j.calls
  dsimp only at appended
  rw [← result] at appended
  simp only [Dialogue.run_done, List.append_nil] at result calls appended
  refine ⟨rfl, ?_, ?_⟩
  · simp only [commit, finish, Journal.append, appended, contents]
    refine ⟨rfl, calls, ?_⟩
    simp only [withPhase, records, Round.records, List.append_assoc, List.cons_append]
  · simp only [commit, finish, phases_withPhase_self, appended]

/-- An append under way stays under way, is completed, or is given up. -/
theorem Underway.transition (u : Underway setup backend j batch s (s.phases ticket))
    (g : Guarded setup s) (h : Transition setup backend s event deed s') :
    Underway setup backend j batch s' (s'.phases ticket) ∨
      Completed setup backend j batch s' ticket ∨
      event = .cancel ticket ∧ s'.phases ticket = .cancelled := by
  by_cases own : event.ticket = ticket
  · subst own
    cases h with
    | nothing => exact .inl u
    | queued _ h | entered h | unqueued h =>
      rw [Event.ticket, h] at u
      cases u
    | passed h fits =>
      rw [Event.ticket, h] at u
      cases u with
      | holding m => exact .inr (.inl (completed_of_fits m fits))
    | joined h excess =>
      rw [Event.ticket, h] at u
      rw [Event.ticket, phases_withPhase_self]
      cases u with
      | holding m => exact .inl (.working (remaining_of_excess m excess _))
    | asked h =>
      rw [Event.ticket, h] at u
      rw [Event.ticket, ask, phases_withPhase_self]
      cases u with
      | working r => exact .inl (.awaiting r.ask)
    | answered h =>
      rw [Event.ticket, h] at u
      rw [Event.ticket, hear, phases_withPhase_self]
      cases u with
      | awaiting r => exact .inl (.working r.hear)
    | committed h =>
      rw [Event.ticket, h] at u
      cases u with
      | working r => exact .inr (.inl r.completed)
    | dropped h => exact .inr (.inr ⟨rfl, phases_withPhase_self ..⟩)
  · obtain ⟨contents, calls, records⟩ := h.untouched (g.outside_of_ne u.isInside own)
    rw [h.phases_of_ne (Ne.symm own)]
    exact .inl (u.untouched contents calls records)

end Shared

end RollingHistory
