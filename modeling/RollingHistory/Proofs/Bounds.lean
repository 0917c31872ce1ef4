import RollingHistory.Proofs.Entries
import RollingHistory.Proofs.Interface
import RollingHistory.Proofs.Underway

/-!
How long a history gets.

However a history was made, it keeps fewer messages than its limit. Under such a setup every append
that is finished leaves all messages if they are not more than the limit, and else exactly those to
keep (`append_bounded`), whatever was there before and whatever the capabilities say. Among others
that overlap with it, the same holds from the point where it has the gate to the event that
finishes it, and it cuts at most once (`build_bounded`).
-/

namespace RollingHistory

/-- What an append of `batch` to `before` under a setup may come to, and what it may leave. -/
structure Bounded (setup : Setup) (before : Contents) (batch : List Message) (outcome : Outcome)
    (after : Contents) : Prop where
  disabled : setup.settings.enabled = false → outcome = .noop
  noop_iff : setup.settings.enabled = true →
    (outcome = .noop ↔ before.live.length + batch.length ≤ setup.settings.limit.toNat)
  whole : outcome = .noop → after.live.length = before.live.length + batch.length
  kept : outcome ≠ .noop → after.live.length = setup.settings.keep.toNat
  removed : outcome ≠ .noop →
    outcome.removed = before.live.length + batch.length - setup.settings.keep.toNat
  removed_ge : outcome ≠ .noop →
    setup.settings.limit.toNat + 1 - setup.settings.keep.toNat ≤ outcome.removed
  short : setup.settings.enabled = true → after.live.length ≤ setup.settings.limit.toNat
  tally : after.tally =
    if outcome = .noop then before.tally else before.tally.record outcome.removed

namespace Setup

variable {setup : Setup} {contents : Contents} {batch segment : List Message}

theorem bounded_of_excess_none (fits : setup.excess? (contents.extend batch) = none) :
    Bounded setup contents batch .noop (contents.extend batch) := by
  have atMost := excess?_eq_none_iff.mp fits
  rw [Contents.live_extend, List.length_append] at atMost
  have length : (contents.extend batch).live.length = contents.live.length + batch.length := by
    rw [Contents.live_extend, List.length_append]
  exact {
    disabled := fun _ => rfl
    noop_iff := fun enabled => iff_of_true rfl (atMost enabled)
    whole := fun _ => length
    kept := fun cut => absurd rfl cut
    removed := fun cut => absurd rfl cut
    removed_ge := fun cut => absurd rfl cut
    short := fun enabled => by rw [length]; exact atMost enabled
    tally := by rw [if_pos rfl, Contents.tally_extend] }

theorem bounded_of_excess (excess : setup.excess? (contents.extend batch) = some segment)
    (round : Round) :
    Bounded setup contents batch (.ofRound segment.length round)
      ((contents.extend batch).commit segment.length round) := by
  have below := setup.keep_lt_limit
  have length := length_of_excess excess
  have left := length_drop_of_excess excess
  obtain ⟨enabled, tooLong, -⟩ := excess?_eq_some_iff.mp excess
  rw [Contents.live_extend, List.length_append] at length tooLong
  have cut := Outcome.ofRound_ne_noop segment.length round
  refine {
    disabled := fun disabled => ?_
    noop_iff := fun _ => iff_of_false cut (by omega)
    whole := fun noop => absurd noop cut
    kept := fun _ => left
    removed := fun _ => by rw [Outcome.removed_ofRound]; exact length
    removed_ge := fun _ => by rw [Outcome.removed_ofRound]; omega
    short := fun _ => by rw [Contents.live_commit, left]; omega
    tally := by rw [if_neg cut, Outcome.removed_ofRound, Contents.tally_commit,
      Contents.tally_extend] }
  rw [enabled] at disabled
  cases disabled

/-- An append by itself stays within the bounds, whatever the backend answers. -/
theorem append_bounded (setup : Setup) (backend : Backend) (earlier : List Call)
    (contents : Contents) (batch : List Message) :
    Bounded setup contents batch (setup.append backend earlier contents batch).outcome
      (setup.append backend earlier contents batch).contents := by
  cases excess : setup.excess? (contents.extend batch) with
  | none =>
    rw [append_of_excess_none excess]
    exact bounded_of_excess_none excess
  | some segment =>
    rw [append_of_excess excess]
    exact bounded_of_excess excess _

end Setup

/-- The number of cuts that an append has made. -/
def Phase.cuts : Phase → Nat
  | .finished outcome => if outcome = .noop then 0 else 1
  | _ => 0

theorem Phase.cuts_of_isInside {phase : Phase} (h : phase.isInside = true) : phase.cuts = 0 := by
  cases phase with
  | finished outcome => cases h
  | _ => rfl

theorem Phase.cuts_le_one (phase : Phase) : phase.cuts ≤ 1 := by
  unfold cuts
  split
  · split <;> decide
  · decide

/-- The append sheds a segment. -/
def Deed.isShedOf (ticket : Ticket) : Deed → Bool
  | .shed t _ => t = ticket
  | _ => false

namespace Shared

variable {setup : Setup} {backend : Backend} {s s' : Shared} {event : Event} {deed : Option Deed}
  {batch : List Message} {ticket : Ticket}

/-! ## One cut at most -/

theorem Transition.cuts (h : Transition setup backend s event deed s') (ticket : Ticket) :
    (s'.phases ticket).cuts =
      (s.phases ticket).cuts + deed.toList.countP (Deed.isShedOf ticket) := by
  by_cases own : ticket = event.ticket
  · subst own
    cases h with
    | nothing => rfl
    | queued _ h | entered h | passed h | joined h | asked h | answered h | unqueued h =>
      simp [Event.ticket, h, ask, hear, finish, Phase.cuts, Deed.isShedOf]
    | committed h => simp [Event.ticket, h, commit, finish, Phase.cuts, Deed.isShedOf]
    | dropped h =>
      rw [Event.ticket, Phase.cuts_of_isInside h, phases_withPhase_self]
      rfl
  · rw [h.phases_of_ne own]
    cases h with
    | @committed t =>
      have other : ¬ t = ticket := fun same => own same.symm
      simp [Deed.isShedOf, other]
    | _ => rfl

/-- The cuts of an append are those that the history of a run remembers. -/
theorem cuts_run (setup : Setup) (backend : Backend) (s : Shared) (events : List Event)
    (ticket : Ticket) :
    ((s.run setup backend events).phases ticket).cuts =
      (s.phases ticket).cuts + (s.deeds setup backend events).countP (Deed.isShedOf ticket) := by
  refine run_induction (fun past s' => (s'.phases ticket).cuts =
    (s.phases ticket).cuts + past.countP (Deed.isShedOf ticket)) s rfl ?_
  intro past s' s'' event deed _ counted h
  rw [h.cuts, counted, List.countP_append, Nat.add_assoc]

/-- An append has shed once if it is finished and not a noop, and else never. -/
theorem countP_deeds (setup : Setup) (backend : Backend) (contents : Contents)
    (earlier : List Call) (events : List Event) (ticket : Ticket) :
    ((start contents earlier).deeds setup backend events).countP (Deed.isShedOf ticket) =
      (((start contents earlier).run setup backend events).phases ticket).cuts := by
  rw [cuts_run]
  exact (Nat.zero_add _).symm

/-! ## From the gate to the end -/

/-- Where an append has come that had the gate at a journal. -/
theorem underway_or_isOver {j : Journal} (g : Guarded setup s)
    (u : Underway setup backend j batch s (s.phases ticket)) (events : List Event) :
    Underway setup backend j batch (s.run setup backend events)
        ((s.run setup backend events).phases ticket) ∨
      ((s.run setup backend events).phases ticket).isOver = true := by
  refine guarded_induction (fun _ s => Underway setup backend j batch s (s.phases ticket) ∨
    (s.phases ticket).isOver = true) g (.inl u) ?_
  rintro past s s' event deed - g (underway | left) h
  · rcases underway.transition g h with underway | completed | ⟨-, cancelled⟩
    · exact .inl underway
    · rw [completed.phase]
      exact .inr rfl
    · rw [cancelled]
      exact .inr rfl
  · rw [h.phases_of_isOver left]
    exact .inr left

/-- An append that has the gate ends as an append to what was there. -/
theorem completed_of_finished (g : Guarded setup s) (hold : s.phases ticket = .holding batch)
    (events : List Event) (event : Event) {outcome : Outcome}
    (going : ((s.run setup backend events).phases ticket).isOver = false)
    (done : (s.run setup backend (events ++ [event])).phases ticket = .finished outcome) :
    Completed setup backend ⟨s.contents, [], s.calls, s.records⟩ batch
      (s.run setup backend (events ++ [event])) ticket := by
  have took := underway_of_holding setup backend hold
  rw [run_append_singleton] at done ⊢
  have h := transition_apply setup backend (s.run setup backend events) event
  rcases underway_or_isOver g took events with underway | left
  · rcases underway.transition (g.run backend events) h with underway | completed | ⟨-, cancelled⟩
    · have inside := underway.isInside
      rw [done] at inside
      cases inside
    · exact completed
    · rw [done] at cancelled
      cases cancelled
  · rw [left] at going
    cases going

/-- The event after `events` has finished an append. It had the gate before, with the batch that it
was submitted with, it ended within the bounds whatever happened between, and it cut once if at
all. -/
structure Ended (setup : Setup) (backend : Backend) (s : Shared) (events : List Event)
    (event : Event) (ticket : Ticket) (outcome : Outcome) : Prop where
  began : ∃ before batch, before <+: events ∧ .submit ticket batch ∈ events ++ [event] ∧
    (s.run setup backend before).phases ticket = .holding batch
  bounded : ∀ before batch, before <+: events →
    (s.run setup backend before).phases ticket = .holding batch →
      Bounded setup (s.run setup backend before).contents batch outcome
        (s.run setup backend (events ++ [event])).contents
  once : (s.deeds setup backend (events ++ [event])).countP (Deed.isShedOf ticket) =
    if outcome = .noop then 0 else 1

theorem ended_of_finished (setup : Setup) (backend : Backend) (contents : Contents)
    (earlier : List Call) (events : List Event) (event : Event) {outcome : Outcome}
    (going : (((start contents earlier).run setup backend events).phases ticket).isOver = false)
    (done : ((start contents earlier).run setup backend (events ++ [event])).phases ticket =
      .finished outcome) :
    Ended setup backend (start contents earlier) events event ticket outcome where
  began := by
    have l := listed_run setup backend contents earlier (events ++ [event])
    obtain ⟨batch, listed⟩ := l.finished ticket outcome done
    obtain ⟨before, within, hold⟩ := exists_holding listed
    rcases List.prefix_concat_iff.mp within with rfl | within
    · rw [done] at hold
      cases hold
    · exact ⟨before, batch, within, l.submitted _ listed, hold⟩
  bounded := by
    rintro before batch ⟨between, rfl⟩ hold
    have g := guarded_run setup backend contents earlier before
    rw [run_append] at going
    rw [List.append_assoc, run_append] at done ⊢
    have completed := completed_of_finished g hold between event going done
    have outcome_eq := completed.phase
    rw [done] at outcome_eq
    rw [Phase.finished.inj outcome_eq, completed.state.contents]
    exact Setup.append_bounded ..
  once := by
    rw [countP_deeds, done]
    rfl

/-- However a history was made and whatever capabilities were chosen, it keeps fewer messages than
its limit. From any contents and in any run, every append that is finished ends within the bounds,
and no append cuts more than once. -/
theorem build_bounded {origin : Origin} {history : History} (built : origin.build = .ok history)
    (choices : List Choice) :
    let setup := history.setup.chooseAll choices
    origin.settings = .ok setup.settings ∧ setup.settings.keep < setup.settings.limit ∧
      ∀ (backend : Backend) (contents : Contents) (earlier : List Call) (events : List Event)
        (ticket : Ticket),
        ((start contents earlier).deeds setup backend events).countP (Deed.isShedOf ticket) ≤ 1 ∧
        ∀ (event : Event) (outcome : Outcome),
          (((start contents earlier).run setup backend events).phases ticket).isOver = false →
          ((start contents earlier).run setup backend (events ++ [event])).phases ticket =
            .finished outcome →
          Ended setup backend (start contents earlier) events event ticket outcome := by
  intro setup
  refine ⟨?_, setup.valid, ?_⟩
  · rw [Setup.settings_chooseAll]
    exact Origin.settings_build built
  · intro backend contents earlier events ticket
    refine ⟨?_, ?_⟩
    · rw [countP_deeds]
      exact Phase.cuts_le_one _
    · intro event outcome going done
      exact ended_of_finished setup backend contents earlier events event going done

/-- A snapshot that is longer than its limit, read with settings that are not valid. -/
theorem build_bounded_overfull :
    Ended .narrow .numbered (start (.ofMessages [.user "a", .user "b", .user "c"]) [])
      [.submit 0 [.user "d"], .step 0, .step 0, .step 0, .step 0] (.step 0) 0
      (.compacted 3 .first) := by
  have built : (Origin.ofSnapshot ⟨.ofMessages [.user "a", .user "b", .user "c"], some 2, some 1⟩
      .unusable).build =
        .ok ⟨Setup.narrow.bare, .ofMessages [.user "a", .user "b", .user "c"]⟩ := rfl
  obtain ⟨-, -, bounded⟩ := build_bounded built [.summarizer (some "writer")]
  exact (bounded .numbered _ [] _ 0).2 _ _ rfl rfl

end Shared

end RollingHistory
