import RollingHistory.Proofs.Presence

/-!
One cut at a time, and always within bounds.

An append fixes the segment to shed when it extends the contents, and cuts it off only when its
round is over. In this window everybody else may act, and a choice, a submission or a withdrawal
may come at any point. Still nobody else extends the contents or cuts them (`Window`), so at the
commit the segment is where it was: the cut is within bounds and takes just the messages that the
summarizer was told of (`run_exclusive`). The contents say nothing about this by themselves; the
invariant ties the segment of an append to the occurrence at which it was fixed (`Tied`).
-/

namespace RollingHistory

/-- The first `n` live messages and those behind them, if there are as many. -/
def Contents.splitAt? (contents : Contents) (n : Nat) : Option (List Message × List Message) :=
  if n ≤ contents.live.length then some (contents.live.take n, contents.live.drop n) else none

namespace Setup

variable {setup : Setup} {contents : Contents} {segment : List Message}

/-- The excess is as long as the cut that the thresholds ask for. -/
theorem cut?_of_excess (h : setup.excess? contents = some segment) :
    setup.settings.cut? contents.live.length = some segment.length := by
  obtain ⟨enabled, tooLong, -⟩ := excess?_eq_some_iff.mp h
  have below := setup.keep_lt_limit
  exact Thresholds.cut?_eq_some_iff.mpr ⟨enabled, tooLong, by omega, length_of_excess h⟩

/-- To split the excess off is within bounds. -/
theorem splitAt?_of_excess (h : setup.excess? contents = some segment) :
    contents.splitAt? segment.length = some (segment, contents.live.drop segment.length) := by
  have length := length_of_excess h
  obtain ⟨-, -, front⟩ := excess?_eq_some_iff.mp h
  rw [Contents.splitAt?, if_pos (by omega), length, ← front]

end Setup

namespace Shared

variable {setup : Setup} {backend : Backend} {s s' : Shared} {event : Event} {deed : Option Deed}

/-- While an append has a segment, nothing happens that is worth remembering but its own commit. -/
theorem Transition.of_segment (h : Transition setup backend s event deed s') (g : Guarded setup s)
    {ticket : Ticket} {segment : List Message}
    (own : (s.phases ticket).segment? = some segment) :
    deed = none ∨ event = .step ticket ∧ deed = some (.shed ticket segment) := by
  have inside := Phase.isInside_of_segment? own
  -- whoever else is inside has the gate too
  have same {t : Ticket} (also : (s.phases t).isInside = true) : t = ticket := by
    by_contra other
    rw [g.outside_of_ne inside other] at also
    cases also
  cases h with
  | nothing | queued | unqueued | dropped | asked | answered => exact .inl rfl
  | entered h free =>
    rw [g.holder_eq inside] at free
    cases free
  | passed h | joined h =>
    obtain rfl := same (by rw [h]; rfl)
    rw [h] at own
    cases own
  | committed h =>
    obtain rfl := same (by rw [h]; rfl)
    rw [h] at own
    rw [Option.some.inj own]
    exact .inr ⟨rfl, rfl⟩

/-- A commit is made by an append that has come to the end of its round. -/
theorem Transition.of_shed {ticket : Ticket} {segment : List Message}
    (h : Transition setup backend s event (some (.shed ticket segment)) s') :
    ∃ round, s.phases ticket = .working segment (.done round) ∧
      s' = s.commit ticket segment round := by
  cases h with
  | committed h => exact ⟨_, h, rfl⟩

/-- An append that extends the contents is finished, or has the excess for its segment. -/
theorem Transition.of_joined {ticket : Ticket} {batch : List Message}
    (h : Transition setup backend s event (some (.joined ticket batch)) s') :
    s.phases ticket = .holding batch ∧ s'.contents = s.contents.extend batch ∧
      (setup.excess? s'.contents = none ∧ s'.phases ticket = .finished .noop ∨
        ∃ segment, setup.excess? s'.contents = some segment ∧
          (s'.phases ticket).segment? = some segment) := by
  cases h with
  | passed h fits => exact ⟨h, rfl, .inl ⟨fits, phases_withPhase_self ..⟩⟩
  | joined h excess =>
    refine ⟨h, rfl, .inr ⟨_, excess, ?_⟩⟩
    rw [phases_withPhase_self]
    rfl

/-- An append has a segment because it has just extended the contents, or it had the segment before
and has touched nothing. -/
theorem Transition.segment_cases (h : Transition setup backend s event deed s')
    (g : Guarded setup s) {ticket : Ticket} {segment : List Message}
    (own : (s'.phases ticket).segment? = some segment) :
    (∃ batch, deed = some (.joined ticket batch)) ∨
      deed = none ∧ (s.phases ticket).segment? = some segment ∧ s'.contents = s.contents := by
  by_cases same : event.ticket = ticket
  · subst same
    cases h with
    | nothing => exact .inr ⟨rfl, own, rfl⟩
    | joined => exact .inl ⟨_, rfl⟩
    | asked h =>
      rw [Event.ticket, ask, phases_withPhase_self] at own
      exact .inr ⟨rfl, by rw [Event.ticket, h]; exact own, rfl⟩
    | answered h =>
      rw [Event.ticket, hear, phases_withPhase_self] at own
      exact .inr ⟨rfl, by rw [Event.ticket, h]; exact own, rfl⟩
    | queued | entered | unqueued | dropped =>
      rw [Event.ticket, phases_withPhase_self] at own
      cases own
    | passed | committed =>
      simp only [Event.ticket, commit, finish, phases_withPhase_self] at own
      cases own
  · rw [h.phases_of_ne (Ne.symm same)] at own
    have inside := Phase.isInside_of_segment? own
    obtain ⟨contents, -, -⟩ := h.untouched (g.outside_of_ne inside same)
    rcases h.of_segment g own with nothing | ⟨rfl, -⟩
    · exact .inr ⟨nothing, own, contents⟩
    · exact absurd rfl same

/-- An append that still has a segment is still under way. -/
theorem Underway.of_segment {j : Journal} {batch segment : List Message} {ticket : Ticket}
    (u : Underway setup backend j batch s (s.phases ticket)) (g : Guarded setup s)
    (h : Transition setup backend s event deed s')
    (own : (s'.phases ticket).segment? = some segment) :
    Underway setup backend j batch s' (s'.phases ticket) := by
  rcases u.transition g h with underway | completed | ⟨-, cancelled⟩
  · exact underway
  · rw [completed.phase] at own
    cases own
  · rw [cancelled] at own
    cases own

end Shared

namespace Lifetime

open Shared

variable {backend : Backend} {first x x' opened : Lifetime} {past between : List Occurrence}
  {occurrence : Occurrence} {deed : Option Deed} {ticket : Ticket} {segment : List Message}

/-! ## Windows -/

/-- Since `opened`, where an append had just extended the contents, `between` has happened: the
append is about to shed its segment, and nothing else was done to the contents. -/
structure Window (backend : Backend) (opened : Lifetime) (between : List Occurrence)
    (ticket : Ticket) (segment : List Message) : Prop where
  /-- The segment is what the thresholds ask for, split off within bounds. -/
  cut : opened.setup.settings.cut? opened.shared.contents.live.length = some segment.length
  sliced : ∃ kept, opened.shared.contents.splitAt? segment.length = some (segment, kept)
  /-- Nobody took the gate, extended the contents or committed. -/
  quiet : opened.deeds backend between = []
  steady : ∀ part, part <+: between →
    ((opened.run backend part).shared.phases ticket).segment? = some segment ∧
      (opened.run backend part).shared.contents = opened.shared.contents ∧
      (opened.run backend part).setup = opened.setup

/-- `opened` is a point of a life at which an append had just extended the contents, and its window
has lasted since. -/
def OpenedAt (backend : Backend) (first : Lifetime) (past : List Occurrence) (ticket : Ticket)
    (segment : List Message) (opened : Lifetime) : Prop :=
  ∃ before extension between batch, past = before ++ extension :: between ∧
    (first.run backend before).deed? extension = some (.joined ticket batch) ∧
    first.run backend (before ++ [extension]) = opened ∧
    Window backend opened between ticket segment

theorem Window.start (own : (opened.shared.phases ticket).segment? = some segment)
    (excess : opened.setup.excess? opened.shared.contents = some segment) :
    Window backend opened [] ticket segment where
  cut := Setup.cut?_of_excess excess
  sliced := ⟨_, Setup.splitAt?_of_excess excess⟩
  quiet := rfl
  steady part h := by
    rw [List.prefix_nil.mp h]
    exact ⟨own, rfl, rfl⟩

theorem Window.extend (w : Window backend opened between ticket segment)
    (nothing : (opened.run backend between).deed? occurrence = none)
    (own : ((opened.run backend (between ++ [occurrence])).shared.phases ticket).segment? =
      some segment)
    (contents : (opened.run backend (between ++ [occurrence])).shared.contents =
      (opened.run backend between).shared.contents)
    (setup : (opened.run backend (between ++ [occurrence])).setup =
      (opened.run backend between).setup) :
    Window backend opened (between ++ [occurrence]) ticket segment where
  cut := w.cut
  sliced := w.sliced
  quiet := by
    rw [deeds_append_singleton, w.quiet, nothing]
    rfl
  steady part h := by
    rcases List.prefix_concat_iff.mp h with rfl | h
    · obtain ⟨-, sameContents, sameSetup⟩ := w.steady between List.prefix_rfl
      exact ⟨own, contents.trans sameContents, setup.trans sameSetup⟩
    · exact w.steady part h

theorem run_append_cons (backend : Backend) (x : Lifetime) (past : List Occurrence)
    (occurrence : Occurrence) (later : List Occurrence) :
    x.run backend (past ++ occurrence :: later) =
      (x.run backend (past ++ [occurrence])).run backend later := by
  rw [List.append_cons, run_append]

theorem OpenedAt.extend (o : OpenedAt backend first past ticket segment opened)
    (nothing : (first.run backend past).deed? occurrence = none)
    (own : ((first.run backend (past ++ [occurrence])).shared.phases ticket).segment? =
      some segment)
    (contents : (first.run backend (past ++ [occurrence])).shared.contents =
      (first.run backend past).shared.contents)
    (setup : (first.run backend (past ++ [occurrence])).setup = (first.run backend past).setup) :
    OpenedAt backend first (past ++ [occurrence]) ticket segment opened := by
  obtain ⟨before, extension, between, batch, rfl, joined, rfl, w⟩ := o
  have since := run_append_cons backend first before extension
  rw [List.append_assoc, List.cons_append] at own contents setup ⊢
  rw [since] at own nothing
  rw [since (between ++ [occurrence]), since between] at contents setup
  exact ⟨before, extension, _, batch, rfl, joined, rfl, w.extend nothing own contents setup⟩

theorem Passage.segment_cases (h : Passage backend x occurrence deed x')
    (g : Guarded x.setup x.shared) (own : (x'.shared.phases ticket).segment? = some segment) :
    (∃ batch, deed = some (.joined ticket batch)) ∨
      deed = none ∧ (x.shared.phases ticket).segment? = some segment ∧
        x'.shared.contents = x.shared.contents ∧ x'.setup = x.setup := by
  cases h with
  | refused => exact .inr ⟨rfl, own, rfl, rfl⟩
  | chosen choice free =>
    have hold := g.holder_eq (Phase.isInside_of_segment? own)
    rw [free] at hold
    cases hold
  | event h =>
    rcases h.segment_cases g own with joined | ⟨nothing, same, contents⟩
    · exact .inl joined
    · exact .inr ⟨nothing, same, contents, rfl⟩

theorem Passage.underway_of_segment (h : Passage backend x occurrence deed x')
    (g : Guarded x.setup x.shared) {j : Journal} {batch : List Message}
    (u : Underway x.setup backend j batch x.shared (x.shared.phases ticket))
    (own : (x'.shared.phases ticket).segment? = some segment) :
    Underway x'.setup backend j batch x'.shared (x'.shared.phases ticket) := by
  cases h with
  | refused => exact u
  | chosen choice free => exact absurd free (u.holder_ne_none g)
  | event h => exact u.of_segment g h own

/-- An append that has just extended the contents and has a segment is under way with it. -/
theorem Passage.underway_of_joined {batch : List Message}
    (h : Passage backend x occurrence (some (.joined ticket batch)) x')
    (own : (x'.shared.phases ticket).segment? = some segment) :
    x'.setup.excess? x'.shared.contents = some segment ∧ ∃ j, j.calls = x'.shared.calls ∧
      Underway x'.setup backend j batch x'.shared (x'.shared.phases ticket) := by
  cases h with
  | event h =>
    cases h with
    | passed =>
      rw [finish, phases_withPhase_self] at own
      cases own
    | joined h excess =>
      rw [phases_withPhase_self] at own ⊢
      rw [← Option.some.inj own]
      refine ⟨excess, ⟨x.shared.contents, [], x.shared.calls, x.shared.records⟩, rfl, .working ?_⟩
      exact remaining_of_excess ⟨rfl, rfl, rfl⟩ excess _

/-! ## What the summarizer is told in a window -/

/-- The calls of a whole round over a segment: none without a summarizer, and else a request for a
summary of just this segment, after which no summary of messages is asked for. -/
structure Rendered (setup : Setup) (segment : List Message) (calls : List Call) : Prop where
  unasked : setup.summarizer = none → calls = []
  asked : ∀ name, setup.summarizer = some name →
    ∃ merging, calls = setup.summaryCall name segment :: merging ∧
      ∀ call ∈ merging, ¬ call.AsksForSummary

theorem rendered_round (setup : Setup) (contents : Contents) (segment : List Message)
    (backend : Backend) (earlier : List Call) :
    Rendered setup segment ((setup.round contents segment).run backend earlier).2 where
  unasked given := by rw [Setup.round, Setup.run_condense_of_no_summarizer given]
  asked name given := by
    obtain ⟨round, merging, ran, merges, -⟩ :=
      Setup.run_condense_of_summarizer given segment contents.summary backend earlier
    rw [Setup.round, ran]
    exact ⟨merging, rfl, merges⟩

/-- What was called in the window so far are the first calls of the round over the segment. -/
theorem rendered_of_remaining {setup : Setup} {s : Shared} {j : Journal} {batch : List Message}
    {told : List LogRecord} {rest : Dialogue Call Reply Round}
    (r : Remaining setup backend j batch s segment told rest) {asked : List Call}
    (calls : s.calls = j.calls ++ asked) :
    Rendered setup segment (asked ++ (rest.run backend s.calls).2) := by
  have made := r.calls
  rw [calls, List.append_assoc, List.append_cancel_left_eq, ← calls] at made
  rw [made]
  exact rendered_round ..

/-! ## The invariant -/

/-- The append has had its window since `opened`, and is under way from there. -/
structure Tied (backend : Backend) (first : Lifetime) (past : List Occurrence) (ticket : Ticket)
    (segment : List Message) (opened : Lifetime) : Prop where
  window : OpenedAt backend first past ticket segment opened
  underway : ∃ j batch, j.calls = opened.shared.calls ∧
    Underway (first.run backend past).setup backend j batch (first.run backend past).shared
      ((first.run backend past).shared.phases ticket)

theorem OpenedAt.prefix_calls (o : OpenedAt backend first past ticket segment opened) :
    opened.shared.calls <+: (first.run backend past).shared.calls := by
  obtain ⟨before, extension, between, batch, rfl, -, rfl, -⟩ := o
  rw [run_append_cons backend first before extension between]
  exact Lifetime.prefix_calls ..

/-- Every append with a segment is tied to the point at which it extended the contents. -/
theorem exists_tied (first : Lifetime) (g : Guarded first.setup first.shared)
    (fresh : ∀ t, (first.shared.phases t).segment? = none) (backend : Backend)
    (past : List Occurrence) :
    ∀ ticket segment, ((first.run backend past).shared.phases ticket).segment? = some segment →
      ∃ opened, Tied backend first past ticket segment opened := by
  refine run_induction (fun past => ∀ ticket segment,
    ((first.run backend past).shared.phases ticket).segment? = some segment →
      ∃ opened, Tied backend first past ticket segment opened) g backend ?_ ?_
  · intro ticket segment own
    rw [run, List.foldl_nil, fresh] at own
    cases own
  intro past occurrence _ g tied h ticket segment own
  rcases h.segment_cases g own with ⟨batch, joined⟩ | ⟨nothing, before, contents, setup⟩
  · have extended := h
    rw [joined] at extended
    obtain ⟨excess, j, calls, underway⟩ := extended.underway_of_joined own
    exact ⟨_, ⟨past, occurrence, [], batch, rfl, joined, rfl, .start own excess⟩,
      j, batch, calls, underway⟩
  · obtain ⟨opened, window, j, batch, calls, underway⟩ := tied ticket segment before
    exact ⟨opened, window.extend nothing own contents setup, j, batch, calls,
      h.underway_of_segment g underway own⟩

/-- What was called in a window are the first calls of the round, and all of them at its end. -/
theorem Tied.rendered (t : Tied backend first past ticket segment opened)
    (own : ((first.run backend past).shared.phases ticket).segment? = some segment) :
    ∃ asked more, (first.run backend past).shared.calls = opened.shared.calls ++ asked ∧
      Rendered (first.run backend past).setup segment (asked ++ more) ∧
      ∀ round, (first.run backend past).shared.phases ticket = .working segment (.done round) →
        more = [] := by
  obtain ⟨j, batch, began, u⟩ := t.underway
  obtain ⟨asked, calls⟩ := t.window.prefix_calls
  refine ⟨asked, ?_⟩
  rw [← began] at calls ⊢
  generalize (first.run backend past).shared.phases ticket = phase at u own
  cases u with
  | holding => cases own
  | working r =>
    obtain rfl := Option.some.inj own
    refine ⟨_, calls.symm, rendered_of_remaining r calls.symm, fun round done => ?_⟩
    rw [(Phase.working.inj done).2]
    rfl
  | awaiting r =>
    obtain rfl := Option.some.inj own
    exact ⟨_, calls.symm, rendered_of_remaining r calls.symm, fun round done => nomatch done⟩

theorem Passage.of_segment {deed : Deed} (h : Passage backend x occurrence (some deed) x')
    (g : Guarded x.setup x.shared) (own : (x.shared.phases ticket).segment? = some segment) :
    occurrence = .event (.step ticket) ∧ deed = .shed ticket segment := by
  cases h with
  | event h =>
    rcases h.of_segment g own with nothing | ⟨rfl, shed⟩
    · cases nothing
    · exact ⟨rfl, Option.some.inj shed⟩

/-- An extension leaves nothing to cut, or fixes a segment within bounds. -/
theorem Passage.of_joined {batch : List Message}
    (h : Passage backend x occurrence (some (.joined ticket batch)) x') :
    x'.shared.contents = x.shared.contents.extend batch ∧
      (x'.setup.settings.cut? x'.shared.contents.live.length = none ∧
          x'.shared.phases ticket = .finished .noop ∨
        ∃ segment kept, (x'.shared.phases ticket).segment? = some segment ∧
          x'.setup.settings.cut? x'.shared.contents.live.length = some segment.length ∧
          x'.shared.contents.splitAt? segment.length = some (segment, kept)) := by
  cases h with
  | event h =>
    obtain ⟨-, contents, ⟨fits, finished⟩ | ⟨segment, excess, own⟩⟩ := h.of_joined
    · exact ⟨contents, .inl ⟨Option.map_eq_none_iff.mp fits, finished⟩⟩
    · exact ⟨contents, .inr ⟨segment, _, own, Setup.cut?_of_excess excess,
        Setup.splitAt?_of_excess excess⟩⟩

theorem Passage.of_shed (h : Passage backend x occurrence (some (.shed ticket segment)) x') :
    ∃ round, x.shared.phases ticket = .working segment (.done round) ∧
      x'.shared.contents.live = x.shared.contents.live.drop segment.length := by
  cases h with
  | event h =>
    obtain ⟨round, working, rfl⟩ := h.of_shed
    exact ⟨round, working, rfl⟩

/-! ## The property -/

/-- What can be said at every point of a life about the appends between their extension and their
commit. -/
structure Exclusive (backend : Backend) (first : Lifetime) (past : List Occurrence) : Prop where
  /-- There is at most one. -/
  one : ∀ ticket ticket' segment segment',
    ((first.run backend past).shared.phases ticket).segment? = some segment →
    ((first.run backend past).shared.phases ticket').segment? = some segment' → ticket' = ticket
  /-- While there is one, the next thing that is done to the contents is its commit. -/
  closed : ∀ ticket segment,
    ((first.run backend past).shared.phases ticket).segment? = some segment →
    ∀ occurrence deed, (first.run backend past).deed? occurrence = some deed →
      occurrence = .event (.step ticket) ∧ deed = .shed ticket segment
  /-- Its window has lasted since it extended the contents, and what was called since then are the
  first calls of a round over its segment. -/
  window : ∀ ticket segment,
    ((first.run backend past).shared.phases ticket).segment? = some segment →
    ∃ opened asked more, OpenedAt backend first past ticket segment opened ∧
      (first.run backend past).shared.calls = opened.shared.calls ++ asked ∧
      Rendered (first.run backend past).setup segment (asked ++ more)
  /-- An extension leaves nothing to cut, or its segment is split off within bounds. -/
  extension : ∀ occurrence ticket batch,
    (first.run backend past).deed? occurrence = some (.joined ticket batch) →
    let after := (first.run backend past).apply backend occurrence
    after.shared.contents = (first.run backend past).shared.contents.extend batch ∧
      (after.setup.settings.cut? after.shared.contents.live.length = none ∧
          after.shared.phases ticket = .finished .noop ∨
        ∃ segment kept, (after.shared.phases ticket).segment? = some segment ∧
          after.setup.settings.cut? after.shared.contents.live.length = some segment.length ∧
          after.shared.contents.splitAt? segment.length = some (segment, kept))
  /-- A commit comes at the end of a window. It splits off within bounds what the window began with,
  and the calls since then are those of the whole round over it. -/
  commit : ∀ occurrence ticket segment,
    (first.run backend past).deed? occurrence = some (.shed ticket segment) →
    (first.run backend past).shared.contents.splitAt? segment.length =
        some (segment, ((first.run backend past).apply backend occurrence).shared.contents.live) ∧
      ∃ opened asked, OpenedAt backend first past ticket segment opened ∧
        (first.run backend past).shared.calls = opened.shared.calls ++ asked ∧
        Rendered (first.run backend past).setup segment asked

/-- However appends overlap, are given up, or are answered, and whatever is chosen between them, at
most one is between its extension and its commit, and what it commits is within bounds and just
what the summarizer was told of. -/
theorem run_exclusive (backend : Backend) (setup : Setup) (contents : Contents)
    (earlier : List Call) (past : List Occurrence) :
    Exclusive backend (start setup contents earlier) past := by
  have begun : Guarded setup (Shared.start contents earlier) := .start setup contents earlier
  have g := guarded_run (x := start setup contents earlier) begun backend past
  have tied := exists_tied (start setup contents earlier) begun (fun _ => rfl) backend past
  have h := passage_apply backend ((start setup contents earlier).run backend past)
  refine ⟨?_, ?_, ?_, ?_, ?_⟩
  · intro ticket ticket' segment segment' own own'
    by_contra other
    have out := g.outside_of_ne (Phase.isInside_of_segment? own) other
    rw [Phase.isInside_of_segment? own'] at out
    cases out
  · intro ticket segment own occurrence deed remembered
    have h := h occurrence
    rw [remembered] at h
    exact h.of_segment g own
  · intro ticket segment own
    obtain ⟨opened, t⟩ := tied ticket segment own
    obtain ⟨asked, more, calls, rendered, -⟩ := t.rendered own
    exact ⟨opened, asked, more, t.window, calls, rendered⟩
  · intro occurrence ticket batch joined
    have h := h occurrence
    rw [joined] at h
    exact h.of_joined
  · intro occurrence ticket segment shed
    have h := h occurrence
    rw [shed] at h
    obtain ⟨round, working, live⟩ := h.of_shed
    have own := congrArg Phase.segment? working
    obtain ⟨opened, t⟩ := tied ticket segment own
    obtain ⟨asked, more, calls, rendered, done⟩ := t.rendered own
    rw [done round working, List.append_nil] at rendered
    refine ⟨?_, opened, asked, t.window, calls, rendered⟩
    rw [live]
    exact Setup.splitAt?_of_excess (g.excess ticket segment own)

end Lifetime

end RollingHistory
