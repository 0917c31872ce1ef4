import RollingHistory.Proofs.Lifetime

/-!
The cuts of a whole life.

Every commit is a `Cut`: its round began after certain calls and with a certain summary, under the
setup of that moment. `Cut.Genuine` says that the round ended as the backend answers it.
`ledger_run` lists the cuts of a life in order: each takes up the summary where the one before left
it, and if no append is given up, each is asked right after the calls of those before it. The
invariant behind it is `Standing`: from the round under way, if there is one, one can still tell
which calls were made before it began.
-/

namespace RollingHistory

/-- A commit: the append that made it, the setup, the calls and the summary that its round began
with, the segment, how the round ended, and the calls it made. -/
structure Cut where
  ticket : Ticket
  setup : Setup
  earlier : List Call
  previous : Option String
  segment : List Message
  round : Round
  calls : List Call

namespace Cut

/-- What the append came to. -/
def outcome (cut : Cut) : Outcome := .ofRound cut.segment.length cut.round

/-- The round is the one over the segment, as the backend answers it. -/
def Genuine (backend : Backend) (cut : Cut) : Prop :=
  (cut.setup.condenser.condense cut.segment cut.previous).run backend cut.earlier =
    (cut.round, cut.calls)

/-- All calls after some cuts in order. -/
def callsAfter (earlier : List Call) (cuts : List Cut) : List Call :=
  earlier ++ (cuts.map calls).flatten

/-- The summary after some cuts in order. -/
def summaryAfter (summary : Option String) (cuts : List Cut) : Option String :=
  cuts.foldl (fun summary cut => cut.round.summary?.or summary) summary

theorem callsAfter_append_singleton (earlier : List Call) (cuts : List Cut) (cut : Cut) :
    callsAfter earlier (cuts ++ [cut]) = callsAfter earlier cuts ++ cut.calls := by
  simp [callsAfter]

theorem summaryAfter_append_singleton (summary : Option String) (cuts : List Cut) (cut : Cut) :
    summaryAfter summary (cuts ++ [cut]) =
      cut.round.summary?.or (summaryAfter summary cuts) :=
  List.foldl_append ..

end Cut

namespace Shared

variable {setup : Setup} {backend : Backend} {s s' : Shared} {event : Event} {deed : Option Deed}
  {base : List Call}

/-- Nothing is shed by an append outside the gate. -/
theorem Transition.shed?_eq_none (h : Transition setup backend s event deed s')
    (out : (s.phases event.ticket).isInside = false) : deed.bind Deed.shed? = none := by
  cases h with
  | committed h =>
    rw [Event.ticket, h] at out
    cases out
  | _ => rfl

/-- All calls are those of `base`, or one append is under way and made the rest of them. -/
inductive Standing (setup : Setup) (backend : Backend) (base : List Call) (s : Shared) : Prop
  | free (holder : s.holder = none) (calls : s.calls = base)
  | busy {j : Journal} (ticket : Ticket) (batch : List Message) (calls : j.calls = base)
    (begun : base <+: s.calls) (underway : Underway setup backend j batch s (s.phases ticket))

/-- Nothing was committed from `s` to `s'`. Only if an append was given up, the next round begins
with other calls. -/
structure Uncut (setup : Setup) (backend : Backend) (base : List Call) (s : Shared)
    (givenUp : Bool) (s' : Shared) : Prop where
  summary : s'.contents.summary = s.contents.summary
  standing : ∃ base', (givenUp = false → base' = base) ∧ Standing setup backend base' s'

/-- The append of a cut, which had the gate from `base` on, committed from `s` to `s'`. -/
structure Committed (setup : Setup) (backend : Backend) (base : List Call) (s : Shared) (cut : Cut)
    (s' : Shared) : Prop where
  under : cut.setup = setup
  earlier : cut.earlier = base
  previous : cut.previous = s.contents.summary
  genuine : cut.Genuine backend
  called : s.calls = cut.earlier ++ cut.calls
  live : s.contents.live = cut.segment ++ s'.contents.live
  summary : s'.contents.summary = cut.round.summary?.or s.contents.summary
  finished : s'.phases cut.ticket = .finished cut.outcome
  standing : Standing setup backend (base ++ cut.calls) s'

/-- The last event of a round commits a cut. -/
theorem exists_committed (g : Guarded setup s) {j : Journal} {batch segment : List Message}
    {ticket : Ticket} {told : List LogRecord} {round : Round}
    (h : s.phases ticket = .working segment (.done round))
    (remaining : Remaining setup backend j batch s segment told (.done round)) :
    ∃ cut : Cut, (cut.ticket, cut.segment) = (ticket, segment) ∧
      Committed setup backend j.calls s cut (s.commit ticket segment round) := by
  obtain ⟨-, -, -, result, made⟩ := remaining
  rw [Dialogue.run_done, List.append_nil] at made
  refine ⟨⟨ticket, setup, j.calls, s.contents.summary, segment, round,
    ((setup.round s.contents segment).run backend j.calls).2⟩, rfl, ?_⟩
  refine ⟨rfl, rfl, rfl, ?_, made, ?_, rfl, ?_, .free rfl made⟩
  · rw [Cut.Genuine, Prod.ext_iff]
    exact ⟨result.symm, rfl⟩
  · exact (Setup.excess_append_drop (g.excess ticket segment (by rw [h]; rfl))).symm
  · rw [commit, finish, phases_withPhase_self]
    rfl

theorem Uncut.of_standing {givenUp : Bool} (summary : s'.contents.summary = s.contents.summary)
    (p : Standing setup backend base s') : Uncut setup backend base s givenUp s' :=
  ⟨summary, base, fun _ => rfl, p⟩

/-- An append that has the gate goes on, commits, or is given up. -/
theorem Underway.uncut_or_committed {j : Journal} {batch : List Message}
    (u : Underway setup backend j batch s (s.phases event.ticket)) (g : Guarded setup s)
    (begun : j.calls <+: s.calls) (h : Transition setup backend s event deed s') :
    (deed.bind Deed.shed? = none ∧ Uncut setup backend j.calls s event.isCancel s') ∨
    ∃ cut : Cut, deed.bind Deed.shed? = some (cut.ticket, cut.segment) ∧
      Committed setup backend j.calls s cut s' := by
  cases h with
  | nothing => exact .inl ⟨rfl, .of_standing rfl (.busy _ batch rfl begun u)⟩
  | queued _ h | entered h | unqueued h =>
    rw [Event.ticket, h] at u
    cases u
  | passed h =>
    rw [Event.ticket, h] at u
    cases u with
    | holding m => exact .inl ⟨rfl, .of_standing rfl (.free rfl m.calls)⟩
  | @joined ticket _ _ h excess =>
    rw [Event.ticket, h] at u
    cases u with
    | holding m =>
      refine .inl ⟨rfl, .of_standing rfl (.busy ticket batch rfl begun ?_)⟩
      rw [phases_withPhase_self]
      exact .working (remaining_of_excess m excess _)
  | @asked ticket _ _ _ h =>
    rw [Event.ticket, h] at u
    cases u with
    | working r =>
      refine .inl ⟨rfl, .of_standing rfl (.busy ticket batch rfl ?_ ?_)⟩
      · exact begun.trans (List.prefix_append ..)
      · rw [ask, phases_withPhase_self]
        exact .awaiting r.ask
  | @answered ticket _ _ _ h =>
    rw [Event.ticket, h] at u
    cases u with
    | awaiting r =>
      refine .inl ⟨rfl, .of_standing rfl (.busy ticket batch rfl begun ?_)⟩
      rw [hear, phases_withPhase_self]
      exact .working r.hear
  | committed h =>
    rw [Event.ticket, h] at u
    cases u with
    | working r =>
      obtain ⟨cut, same, committed⟩ := exists_committed g h r
      exact .inr ⟨cut, congrArg some same.symm, committed⟩
  | dropped => exact .inl ⟨rfl, rfl, s.calls, by simp [Event.isCancel], .free rfl rfl⟩

/-- A transition commits a cut or does not. -/
theorem Standing.transition (p : Standing setup backend base s) (g : Guarded setup s)
    (h : Transition setup backend s event deed s') :
    (deed.bind Deed.shed? = none ∧ Uncut setup backend base s event.isCancel s') ∨
    ∃ cut : Cut, deed.bind Deed.shed? = some (cut.ticket, cut.segment) ∧
      Committed setup backend base s cut s' := by
  have outside (out : (s.phases event.ticket).isInside = false)
      (p : Standing setup backend base s') :
      deed.bind Deed.shed? = none ∧ Uncut setup backend base s event.isCancel s' :=
    ⟨h.shed?_eq_none out, .of_standing (congrArg Contents.summary (h.untouched out).1) p⟩
  cases p with
  | free holder calls =>
    have out := g.outside_of_free holder event.ticket
    obtain ⟨-, same, -⟩ := h.untouched out
    refine .inl (outside out ?_)
    rcases h.of_free g holder with ⟨-, free⟩ | ⟨ticket, batch, -, own⟩
    · exact .free free (same.trans calls)
    · refine .busy ticket batch (same.trans calls) ?_ (underway_of_holding setup backend own)
      simp only [same, calls, List.prefix_rfl]
  | busy ticket batch calls begun underway =>
    subst calls
    by_cases own : event.ticket = ticket
    · rw [← own] at underway
      exact underway.uncut_or_committed g begun h
    · have out := g.outside_of_ne underway.isInside own
      obtain ⟨contents, same, records⟩ := h.untouched out
      refine .inl (outside out (.busy ticket batch rfl ?_ ?_))
      · rw [same]
        exact begun
      · rw [h.phases_of_ne (Ne.symm own)]
        exact underway.untouched contents same records

end Shared

namespace Lifetime

variable {backend : Backend} {x x' : Lifetime} {occurrence : Occurrence} {deed : Option Deed}
  {base : List Call}

open Shared

theorem Passage.phases_of_isOver (h : Passage backend x occurrence deed x') {ticket : Ticket}
    (left : (x.shared.phases ticket).isOver = true) :
    x'.shared.phases ticket = x.shared.phases ticket := by
  cases h with
  | event h => exact h.phases_of_isOver left
  | refused | chosen => rfl

/-- A passage commits a cut or does not. -/
theorem Passage.uncut_or_committed (h : Passage backend x occurrence deed x')
    (g : Guarded x.setup x.shared) (p : Standing x.setup backend base x.shared) :
    (deed.bind Deed.shed? = none ∧
      Uncut x'.setup backend base x.shared occurrence.isCancel x'.shared) ∨
    ∃ cut : Cut, deed.bind Deed.shed? = some (cut.ticket, cut.segment) ∧
      Committed x.setup backend base x.shared cut x'.shared ∧ x'.setup = x.setup := by
  cases h with
  | refused => exact .inl ⟨rfl, .of_standing rfl p⟩
  | chosen choice free =>
    -- nobody is under way whose setup could change
    refine .inl ⟨rfl, .of_standing rfl ?_⟩
    cases p with
    | free holder calls => exact .free holder calls
    | busy ticket batch calls begun underway => exact absurd free (underway.holder_ne_none g)
  | event h =>
    rcases p.transition g h with uncut | ⟨cut, shed, committed⟩
    · exact .inl uncut
    · exact .inr ⟨cut, shed, committed, rfl⟩

/-- The cut was made by a commit somewhere in a life, under the setup there, and what was live
afterwards had stood behind its segment. -/
def MadeIn (backend : Backend) (first : Lifetime) (past : List Occurrence) (cut : Cut) : Prop :=
  ∃ before occurrence after, past = before ++ occurrence :: after ∧
    (first.run backend before).deed? occurrence = some (.shed cut.ticket cut.segment) ∧
    cut.setup = (first.run backend before).setup ∧
    (first.run backend before).shared.contents.live =
      cut.segment ++ (first.run backend (before ++ [occurrence])).shared.contents.live

theorem MadeIn.append_singleton {first : Lifetime} {past : List Occurrence} {cut : Cut}
    (h : MadeIn backend first past cut) (last : Occurrence) :
    MadeIn backend first (past ++ [last]) cut := by
  obtain ⟨before, occurrence, after, rfl, made⟩ := h
  refine ⟨before, occurrence, after ++ [last], ?_, made⟩
  rw [List.append_assoc, List.cons_append]

/-- When the cut was committed, the last calls of the life were those of its round, after the calls
that the round began with. -/
def CalledIn (backend : Backend) (first : Lifetime) (past : List Occurrence) (cut : Cut) : Prop :=
  ∃ before occurrence after, past = before ++ occurrence :: after ∧
    (first.run backend before).deed? occurrence = some (.shed cut.ticket cut.segment) ∧
    (first.run backend before).shared.calls = cut.earlier ++ cut.calls

theorem CalledIn.append_singleton {first : Lifetime} {past : List Occurrence} {cut : Cut}
    (h : CalledIn backend first past cut) (last : Occurrence) :
    CalledIn backend first (past ++ [last]) cut := by
  obtain ⟨before, occurrence, after, rfl, called⟩ := h
  refine ⟨before, occurrence, after ++ [last], ?_, called⟩
  rw [List.append_assoc, List.cons_append]

/-- `cuts` are the cuts of a life, in order; the calls before the round under way are `base`. -/
structure Ledger (backend : Backend) (first : Lifetime) (past : List Occurrence)
    (cuts : List Cut) (base : List Call) : Prop where
  sheds : first.sheds backend past = cuts.map fun cut => (cut.ticket, cut.segment)
  finished : ∀ cut ∈ cuts, (first.run backend past).shared.phases cut.ticket = .finished cut.outcome
  genuine : ∀ cut ∈ cuts, cut.Genuine backend
  made : ∀ cut ∈ cuts, MadeIn backend first past cut
  called : ∀ cut ∈ cuts, CalledIn backend first past cut
  previous : ∀ front cut back, cuts = front ++ cut :: back →
    cut.previous = Cut.summaryAfter first.shared.contents.summary front
  summary : (first.run backend past).shared.contents.summary =
    Cut.summaryAfter first.shared.contents.summary cuts
  standing : Standing (first.run backend past).setup backend base (first.run backend past).shared
  /-- No call was made but for a cut. -/
  kept : (∀ occurrence ∈ past, occurrence.isCancel = false) →
    base = Cut.callsAfter first.shared.calls cuts ∧
      ∀ front cut back, cuts = front ++ cut :: back →
        cut.earlier = Cut.callsAfter first.shared.calls front

variable {first : Lifetime} {past : List Occurrence} {cuts : List Cut}

theorem Ledger.start (backend : Backend) (setup : Setup) (contents : Contents)
    (earlier : List Call) : Ledger backend (start setup contents earlier) [] [] earlier where
  sheds := rfl
  finished cut h := nomatch h
  genuine cut h := nomatch h
  made cut h := nomatch h
  called cut h := nomatch h
  previous front cut back h := by simp at h
  summary := rfl
  standing := .free rfl rfl
  kept _ := ⟨(List.append_nil earlier).symm, fun front cut back h => by simp at h⟩

theorem Ledger.finished_next (l : Ledger backend first past cuts base)
    (h : Passage backend (first.run backend past) occurrence deed
      (first.run backend (past ++ [occurrence]))) {cut : Cut} (old : cut ∈ cuts) :
    (first.run backend (past ++ [occurrence])).shared.phases cut.ticket =
      .finished cut.outcome := by
  have done := l.finished cut old
  rw [h.phases_of_isOver (by rw [done]; rfl), done]

theorem Ledger.uncut (l : Ledger backend first past cuts base)
    (h : Passage backend (first.run backend past) occurrence
      ((first.run backend past).deed? occurrence) (first.run backend (past ++ [occurrence])))
    (none : ((first.run backend past).deed? occurrence).bind Deed.shed? = none)
    (u : Uncut (first.run backend (past ++ [occurrence])).setup backend base
      (first.run backend past).shared occurrence.isCancel
      (first.run backend (past ++ [occurrence])).shared) :
    ∃ base', Ledger backend first (past ++ [occurrence]) cuts base' := by
  obtain ⟨summary, base', same, standing⟩ := u
  have made (cut : Cut) (old : cut ∈ cuts) := (l.made cut old).append_singleton occurrence
  have called (cut : Cut) (old : cut ∈ cuts) := (l.called cut old).append_singleton occurrence
  refine ⟨base', ?_, fun _ => l.finished_next h, l.genuine, made, called,
    l.previous, summary.trans l.summary, standing, fun kept => ?_⟩
  · rw [sheds_append_singleton, none, Option.toList_none, List.append_nil, l.sheds]
  · rw [same (kept occurrence (by simp))]
    exact l.kept fun other member => kept other (by simp [member])

/-- What holds of each cut and those before it, still does so after one more. -/
theorem forall_front_append_singleton {P : List Cut → Cut → Prop} {new : Cut}
    (old : ∀ front cut back, cuts = front ++ cut :: back → P front cut) (last : P cuts new) :
    ∀ front cut back, cuts ++ [new] = front ++ cut :: back → P front cut := by
  intro front cut back split
  rcases List.eq_nil_or_concat back with rfl | ⟨between, other, rfl⟩
  · obtain ⟨rfl, same⟩ := List.append_inj' split rfl
    rw [← List.singleton_inj.mp same]
    exact last
  · rw [List.concat_eq_append, ← List.cons_append, ← List.append_assoc] at split
    exact old front cut between (List.append_inj' split rfl).1

theorem Ledger.committed (l : Ledger backend first past cuts base)
    (h : Passage backend (first.run backend past) occurrence
      ((first.run backend past).deed? occurrence) (first.run backend (past ++ [occurrence])))
    {new : Cut}
    (shed : ((first.run backend past).deed? occurrence).bind Deed.shed? =
      some (new.ticket, new.segment))
    (c : Committed (first.run backend past).setup backend base (first.run backend past).shared new
      (first.run backend (past ++ [occurrence])).shared)
    (setup : (first.run backend (past ++ [occurrence])).setup = (first.run backend past).setup) :
    Ledger backend first (past ++ [occurrence]) (cuts ++ [new]) (base ++ new.calls) where
  sheds := by
    rw [sheds_append_singleton, shed, l.sheds, List.map_append]
    rfl
  finished := List.forall_mem_append.mpr
    ⟨fun _ => l.finished_next h, List.forall_mem_singleton.mpr c.finished⟩
  genuine := List.forall_mem_append.mpr ⟨l.genuine, List.forall_mem_singleton.mpr c.genuine⟩
  made := by
    have made (cut : Cut) (old : cut ∈ cuts) := (l.made cut old).append_singleton occurrence
    refine List.forall_mem_append.mpr ⟨made, List.forall_mem_singleton.mpr ?_⟩
    exact ⟨past, occurrence, [], rfl, Deed.eq_of_shed?_eq_some shed, c.under, c.live⟩
  called := by
    have called (cut : Cut) (old : cut ∈ cuts) := (l.called cut old).append_singleton occurrence
    refine List.forall_mem_append.mpr ⟨called, List.forall_mem_singleton.mpr ?_⟩
    exact ⟨past, occurrence, [], rfl, Deed.eq_of_shed?_eq_some shed, c.called⟩
  previous := forall_front_append_singleton l.previous (c.previous.trans l.summary)
  summary := by rw [Cut.summaryAfter_append_singleton, c.summary, l.summary]
  standing := by
    rw [setup]
    exact c.standing
  kept kept := by
    obtain ⟨base_eq, earlier⟩ := l.kept fun other member => kept other (by simp [member])
    refine ⟨?_, forall_front_append_singleton earlier (c.earlier.trans base_eq)⟩
    rw [base_eq, Cut.callsAfter_append_singleton]

/-- As a life goes on, so does its ledger. -/
theorem Ledger.extend (l : Ledger backend first past cuts base)
    (g : Guarded first.setup first.shared) (more : List Occurrence) :
    ∃ new base', Ledger backend first (past ++ more) (cuts ++ new) base' := by
  induction more using List.reverseRecOn with
  | nil =>
    rw [List.append_nil]
    exact ⟨[], base, by rw [List.append_nil]; exact l⟩
  | append_singleton more occurrence ih =>
    obtain ⟨new, base, l⟩ := ih
    rw [← List.append_assoc]
    have h := passage_apply backend (first.run backend (past ++ more)) occurrence
    rw [← run_append_singleton] at h
    rcases h.uncut_or_committed (guarded_run g backend _) l.standing with
      ⟨none, uncut⟩ | ⟨last, shed, committed, setup⟩
    · exact ⟨new, l.uncut h none uncut⟩
    · refine ⟨new ++ [last], base ++ last.calls, ?_⟩
      rw [← List.append_assoc]
      exact l.committed h shed committed setup

/-- Every life has a ledger. -/
theorem ledger_run (backend : Backend) (setup : Setup) (contents : Contents)
    (earlier : List Call) (occurrences : List Occurrence) :
    ∃ cuts base, Ledger backend (start setup contents earlier) occurrences cuts base :=
  (Ledger.start backend setup contents earlier).extend (.start setup contents earlier) occurrences

end Lifetime

end RollingHistory
