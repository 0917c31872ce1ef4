import RollingHistory.Proofs.Cuts
import RollingHistory.Proofs.Restoration

/-!
Capabilities are bound late.

An owner may choose and choose again. What counts is the last choice of a summarizer and the last
choice of a merger, in whichever order they came (`Setup.chooseAll_eq`, `Choice.latest`); as long as
no merger was chosen, it is the summarizer of the moment. A round takes its setup when it begins and
no choice is made before it is over, so from taking the gate to leaving it every append is one to a
history that was just built from the contents it finds, with these two choices (`tracked_run`).
`run_late_bound` puts this together, with the hints for the lengths of the answers, which no choice
touches (`hinted_run`).
-/

namespace RollingHistory

/-! ## The last choices -/

namespace Choice

/-- The summarizer that is chosen. -/
def summarizer? : Choice → Option (Option String)
  | summarizer capability => some capability
  | merger _ => none

/-- The merger that is chosen. -/
def merger? : Choice → Option (Option String)
  | summarizer _ => none
  | merger capability => some capability

/-- The summarizer chosen last. -/
def lastSummarizer? (choices : List Choice) : Option (Option String) :=
  (choices.filterMap summarizer?).getLast?

/-- The merger chosen last. -/
def lastMerger? (choices : List Choice) : Option (Option String) :=
  (choices.filterMap merger?).getLast?

/-- Of some choices, the last of each kind. -/
def latest (choices : List Choice) : List Choice :=
  ((lastSummarizer? choices).map summarizer).toList ++ ((lastMerger? choices).map merger).toList

/-- `order` has of some choices just the last of each kind, the one before the other or after it. -/
def IsLatest (choices order : List Choice) : Prop :=
  order = latest choices ∨ order = (latest choices).reverse

theorem IsLatest.last {choices order : List Choice} (h : IsLatest choices order) :
    lastSummarizer? order = lastSummarizer? choices ∧ lastMerger? order = lastMerger? choices := by
  unfold IsLatest latest at h
  cases hs : lastSummarizer? choices <;> cases hm : lastMerger? choices <;> rw [hs, hm] at h <;>
    rcases h with rfl | rfl <;> exact ⟨rfl, rfl⟩

end Choice

namespace Setup

open Choice

/-- A setup keeps of its choices the last summarizer and the last merger, if there are any. -/
theorem chooseAll_eq (setup : Setup) (choices : List Choice) :
    setup.chooseAll choices =
      { setup with
        summarizer := (lastSummarizer? choices).getD setup.summarizer
        merger := (lastMerger? choices).or setup.merger } := by
  induction choices using List.reverseRecOn with
  | nil => rfl
  | append_singleton choices last ih =>
    rw [chooseAll_append, ih]
    cases last <;> simp [chooseAll, choose, withSummarizer, withMerger, lastSummarizer?,
      lastMerger?, summarizer?, merger?]

/-- So the last of each kind do as well as all of them, in either order. -/
theorem chooseAll_of_isLatest (setup : Setup) {choices order : List Choice}
    (h : IsLatest choices order) : setup.chooseAll order = setup.chooseAll choices := by
  rw [chooseAll_eq, chooseAll_eq, h.last.1, h.last.2]

theorem bare_chooseAll (setup : Setup) (choices : List Choice) :
    (setup.chooseAll choices).bare = setup.bare := by
  rw [chooseAll_eq]
  rfl

/-- Merging is for the merger that was chosen, else for the summarizer, and its hint is that of the
settings. -/
theorem effectiveMerger_condenser (setup : Setup) :
    setup.condenser.effectiveMerger =
      ⟨setup.merger.getD setup.summarizer, setup.settings.mergeTokens⟩ := by
  cases h : setup.merger <;> simp [Condenser.effectiveMerger, condenser, h, Condenser.ofSettings]

end Setup

/-- A history restored from what it holds is the same, but for its capabilities. -/
theorem History.restore_snapshot (h : History) :
    restore h.snapshot h.setup.settings = .ok ⟨h.setup.bare, h.contents⟩ := by
  unfold restore
  rw [h.settings_snapshot rfl rfl rfl, Setup.ofSettings_of_valid h.setup.valid]
  rfl

/-! ## Choices in a life -/

namespace Lifetime

open Choice

variable {backend : Backend} {x first : Lifetime} {past : List Occurrence}

/-- The choice that an occurrence makes. None can be made while somebody is appending. -/
def choice? (x : Lifetime) : Occurrence → Option Choice
  | .choice choice => if x.isQuiet then some choice else none
  | .event _ => none

/-- The choices that were made, in order. -/
def chosen (backend : Backend) (x : Lifetime) : List Occurrence → List Choice
  | [] => []
  | occurrence :: later =>
    (x.choice? occurrence).toList ++ (x.apply backend occurrence).chosen backend later

theorem setup_apply (backend : Backend) (x : Lifetime) (occurrence : Occurrence) :
    (x.apply backend occurrence).setup = x.setup.chooseAll (x.choice? occurrence).toList := by
  cases occurrence with
  | event event => rfl
  | choice choice =>
    rw [apply, choice?]
    split <;> rfl

theorem setup_run (backend : Backend) (x : Lifetime) (past : List Occurrence) :
    (x.run backend past).setup = x.setup.chooseAll (x.chosen backend past) := by
  induction past generalizing x with
  | nil => rfl
  | cons occurrence later ih =>
    rw [chosen, Setup.chooseAll_append, ← setup_apply, ← ih]
    rfl

/-- Choices in a row are made all or not at all. -/
theorem run_choices (backend : Backend) (x : Lifetime) (choices : List Choice) :
    x.run backend (choices.map .choice) =
      if x.isQuiet then { x with setup := x.setup.chooseAll choices } else x := by
  induction choices generalizing x with
  | nil => split <;> rfl
  | cons choice choices ih =>
    rw [List.map_cons, run, List.foldl_cons, ← run, ih, apply]
    by_cases quiet : x.isQuiet = true
    · rw [if_pos quiet, if_pos quiet]
      exact if_pos quiet
    · rw [if_neg quiet, if_neg quiet, if_neg quiet]

/-- Of choices in a row the last of each kind do, in either order. -/
theorem run_latest (backend : Backend) (x : Lifetime) {choices order : List Choice}
    (h : IsLatest choices order) :
    x.run backend (order.map .choice) = x.run backend (choices.map .choice) := by
  rw [run_choices, run_choices, x.setup.chooseAll_of_isLatest h]

/-- A history just built from what there is, with some choices. -/
def rebuild (x : Lifetime) (choices : List Choice) : Except LoadError History := do
  let history ← History.restore (History.snapshot ⟨x.setup, x.shared.contents⟩) x.setup.settings
  return { history with setup := history.setup.chooseAll choices }

/-- With the latest choices it has the setup that there is. -/
theorem rebuild_run (backend : Backend) (setup : Setup) (contents : Contents)
    (earlier : List Call) (past : List Occurrence) :
    let first := start setup.bare contents earlier
    let x := first.run backend past
    ∀ order, IsLatest (first.chosen backend past) order →
      x.rebuild order = .ok ⟨x.setup, x.shared.contents⟩ := by
  intro first x order h
  have now : x.setup = setup.bare.chooseAll (first.chosen backend past) := setup_run ..
  have bare : x.setup.bare = setup.bare := by
    rw [now, Setup.bare_chooseAll]
    rfl
  unfold rebuild
  rw [History.restore_snapshot]
  show Except.ok (⟨x.setup.bare.chooseAll order, x.shared.contents⟩ : History) = _
  rw [bare, Setup.chooseAll_of_isLatest _ h, ← now]

end Lifetime

/-! ## From the gate to the end -/

namespace Shared

variable {setup : Setup} {backend : Backend} {s s' : Shared} {event : Event} {deed : Option Deed}
  {ticket : Ticket}

/-- The state as a journal that begins here. -/
def journal (s : Shared) : Journal := ⟨s.contents, [], s.calls, s.records⟩

/-- An append outside the gate stays as it is, takes the gate, or has nothing to do with it. -/
theorem Transition.of_outside (h : Transition setup backend s event deed s')
    (out : (s.phases ticket).isInside = false) :
    s'.phases ticket = s.phases ticket ∨ (∃ batch, s'.phases ticket = .holding batch) ∨
      (s'.phases ticket).isInside = false ∧ (s'.phases ticket).outcome? = none := by
  by_cases own : ticket = event.ticket
  · subst own
    cases h with
    | nothing => exact .inl rfl
    | entered => exact .inr (.inl ⟨_, phases_withPhase_self ..⟩)
    | queued | unqueued =>
      rw [Event.ticket, phases_withPhase_self]
      exact .inr (.inr ⟨rfl, rfl⟩)
    | passed h | joined h | asked h | answered h | committed h =>
      rw [Event.ticket, h] at out
      cases out
    | dropped h =>
      rw [Event.ticket, h] at out
      cases out
  · exact .inl (h.phases_of_ne own)

end Shared

namespace Lifetime

open Choice Shared

variable {backend : Backend} {first x y : Lifetime} {past : List Occurrence}
  {occurrence : Occurrence} {deed : Option Deed} {ticket : Ticket}

/-- After `before`, an append has just taken the gate. -/
def TookAt (backend : Backend) (first : Lifetime) (ticket : Ticket) (batch : List Message)
    (before : List Occurrence) : Prop :=
  (first.run backend before).shared.phases ticket = .holding batch

/-- A life has come to `x`. An append that is not outside the gate has, since it took it, done what
an append to what was there does, under the setup of then. -/
inductive Tracked (backend : Backend) (first : Lifetime) (past : List Occurrence) (x : Lifetime)
    (ticket : Ticket) : Prop
  | outside (out : (x.shared.phases ticket).isInside = false)
    (unfinished : (x.shared.phases ticket).outcome? = none)
  | underway {before : List Occurrence} {batch : List Message} (part : before <+: past)
    (took : TookAt backend first ticket batch before)
    (setup : (first.run backend before).setup = x.setup)
    (u : Underway x.setup backend (first.run backend before).shared.journal batch x.shared
      (x.shared.phases ticket))
  | completed {before after : List Occurrence} {batch : List Message} {outcome : Outcome}
    (part : before <+: after) (within : after <+: past)
    (took : TookAt backend first ticket batch before)
    (c : Completed (first.run backend before).setup backend
      (first.run backend before).shared.journal batch (first.run backend after).shared ticket)
    (done : (first.run backend after).shared.phases ticket = .finished outcome)
    (still : x.shared.phases ticket = .finished outcome)

theorem Tracked.next (t : Tracked backend first past x ticket) (g : Guarded x.setup x.shared)
    (h : Passage backend x occurrence deed y)
    (reached : first.run backend (past ++ [occurrence]) = y) :
    Tracked backend first (past ++ [occurrence]) y ticket := by
  have longer : past <+: past ++ [occurrence] := List.prefix_append ..
  cases t with
  | completed part within took c done still =>
    refine .completed part (within.trans longer) took c done ?_
    rw [h.phases_of_isOver (by rw [still]; rfl), still]
  | outside out unfinished =>
    cases h with
    | refused | chosen => exact .outside out unfinished
    | @event event _ _ h =>
      rcases h.of_outside out with same | ⟨batch, took⟩ | ⟨out, unfinished⟩
      · rw [← same] at out unfinished
        exact .outside out unfinished
      · have here : TookAt backend first ticket batch (past ++ [.event event]) := by
          rw [TookAt, reached]
          exact took
        refine .underway List.prefix_rfl here (congrArg setup reached) ?_
        rw [reached]
        exact underway_of_holding _ backend took
      · exact .outside out unfinished
  | underway part took setup u =>
    cases h with
    | refused => exact .underway (part.trans longer) took setup u
    | chosen choice free => exact absurd free (u.holder_ne_none g)
    | event h =>
      rcases u.transition g h with u | c | ⟨-, cancelled⟩
      · exact .underway (part.trans longer) took setup u
      · have phase := c.phase
        rw [← setup] at c
        refine .completed (part.trans longer) List.prefix_rfl took ?_ ?_ phase
        · rw [reached]
          exact c
        · rw [reached]
          exact phase
      · exact .outside (by rw [cancelled]; rfl) (by rw [cancelled]; rfl)

theorem tracked_run (g : Guarded first.setup first.shared)
    (idle : (first.shared.phases ticket).isInside = false ∧
      (first.shared.phases ticket).outcome? = none) (past : List Occurrence) :
    Tracked backend first past (first.run backend past) ticket := by
  refine run_induction (fun past => Tracked backend first past (first.run backend past) ticket) g
    backend (.outside idle.1 idle.2) ?_
  intro past occurrence _ g t h
  exact t.next g h rfl

end Lifetime

/-! ## Hints -/

/-- Whatever is answered, every question of the dialogue is of this kind. -/
def Dialogue.Asks {Q R α : Type} (kind : Q → Prop) : Dialogue Q R α → Prop
  | .done _ => True
  | .ask question resume => kind question ∧ ∀ answer, (resume answer).Asks kind

/-- The questions that the append may still have are of this kind. -/
def Phase.Asks (kind : Call → Prop) : Phase → Prop
  | .working _ rest => rest.Asks kind
  | .awaiting _ _ resume => ∀ reply, (resume reply).Asks kind
  | _ => True

/-- The call asks for a summary with the hint for one, or for a merge with the sum of both hints, as
far as hints reach. -/
def Settings.Hints (settings : Settings) (call : Call) : Prop :=
  (∃ segment, call.query = ⟨Wording.summaryRequest segment, settings.summaryTokens⟩) ∨
    ∃ older newer maxTokens, call.query = ⟨Wording.mergeRequest older newer, maxTokens⟩ ∧
      maxTokens.toNat =
        min (UInt32.size - 1) (settings.summaryTokens.toNat + settings.mergeExtra.toNat)

/-- A round has no other questions. -/
theorem Setup.asks_round (setup : Setup) (contents : Contents) (segment : List Message) :
    (setup.round contents segment).Asks setup.settings.Hints := by
  unfold round
  cases given : setup.condenser.summarizer with
  | none =>
    rw [Condenser.condense_of_no_summarizer given]
    trivial
  | some name =>
    rw [Condenser.condense_of_summarizer given]
    refine ⟨.inl ⟨segment, rfl⟩, fun reply => ?_⟩
    cases reply with
    | error failure => trivial
    | ok fresh =>
      unfold Condenser.conclude
      rw [effectiveMerger_condenser]
      cases Condenser.standing contents.summary with
      | none => trivial
      | some older =>
        cases merger : setup.merger.getD setup.summarizer with
        | none => trivial
        | some merger =>
          exact ⟨.inr ⟨older, fresh, _, rfl, setup.settings.toNat_mergeTokens⟩, fun _ => trivial⟩

namespace Shared

variable {setup : Setup} {backend : Backend} {s s' : Shared} {event : Event} {deed : Option Deed}
  {kind : Call → Prop} {earlier : List Call}

/-- All calls since the earlier ones are of one kind, and all to come from appends under way. -/
structure Asking (kind : Call → Prop) (earlier : List Call) (s : Shared) : Prop where
  phases : ∀ ticket, (s.phases ticket).Asks kind
  calls : ∃ new, s.calls = earlier ++ new ∧ ∀ call ∈ new, kind call

/-- The append goes on to a phase with questions of the same kind. -/
theorem Asking.update (a : Asking kind earlier s) (ticket : Ticket)
    (others : ∀ t, t ≠ ticket → s'.phases t = s.phases t) (own : (s'.phases ticket).Asks kind)
    (calls : ∃ new, s'.calls = s.calls ++ new ∧ ∀ call ∈ new, kind call) :
    Asking kind earlier s' where
  phases t := by
    by_cases same : t = ticket
    · rw [same]
      exact own
    · rw [others t same]
      exact a.phases t
  calls := by
    obtain ⟨old, before, ofKind⟩ := a.calls
    obtain ⟨new, after, alsoOfKind⟩ := calls
    refine ⟨old ++ new, by rw [after, before, List.append_assoc], ?_⟩
    exact List.forall_mem_append.mpr ⟨ofKind, alsoOfKind⟩

theorem Transition.asking (h : Transition setup backend s event deed s')
    (rounds : ∀ contents segment, (setup.round contents segment).Asks kind)
    (a : Asking kind earlier s) : Asking kind earlier s' := by
  have others : ∀ t, t ≠ event.ticket → s'.phases t = s.phases t := fun t => h.phases_of_ne
  have none : ∃ new, s.calls = s.calls ++ new ∧ ∀ call ∈ new, kind call :=
    ⟨[], (List.append_nil _).symm, fun call member => absurd member List.not_mem_nil⟩
  have own := a.phases event.ticket
  cases h with
  | nothing => exact a
  | queued | entered | passed | committed | unqueued | dropped =>
    refine a.update _ others ?_ none
    rw [Event.ticket]
    simp only [finish, commit, phases_withPhase_self]
    trivial
  | joined =>
    refine a.update _ others ?_ none
    rw [Event.ticket, phases_withPhase_self]
    exact rounds _ _
  | asked h =>
    rw [Event.ticket, h] at own
    refine a.update _ others ?_ ⟨[_], rfl, List.forall_mem_singleton.mpr own.1⟩
    rw [Event.ticket, ask, phases_withPhase_self]
    exact own.2
  | answered h =>
    rw [Event.ticket, h] at own
    refine a.update _ others ?_ none
    rw [Event.ticket, hear, phases_withPhase_self]
    exact own _

end Shared

namespace Lifetime

open Choice Shared

/-- No choice changes the hints that calls are made with. -/
theorem hinted_run (backend : Backend) (setup : Setup) (contents : Contents)
    (earlier : List Call) (past : List Occurrence) :
    Asking setup.settings.Hints earlier
      ((start setup contents earlier).run backend past).shared := by
  have g : Guarded (start setup contents earlier).setup (start setup contents earlier).shared :=
    .start setup contents earlier
  refine run_induction (fun past => Asking setup.settings.Hints earlier
    ((start setup contents earlier).run backend past).shared) g backend
    ⟨fun _ => trivial, [], (List.append_nil _).symm, fun _ h => absurd h List.not_mem_nil⟩ ?_
  intro past occurrence _ _ a h
  generalize (start setup contents earlier).run backend (past ++ [occurrence]) = y at h
  cases h with
  | refused | chosen => exact a
  | event h =>
    refine h.asking (fun here segment => ?_) a
    have hints := ((start setup contents earlier).run backend past).setup.asks_round here segment
    rw [settings_run] at hints
    exact hints

/-! ## Whole lives -/

/-- After `before` an append has just taken the gate, and a history that is built from the contents
there and gets the choices made last, in either order, is this one. -/
structure BegunAs (backend : Backend) (first : Lifetime) (ticket : Ticket) (batch : List Message)
    (before : List Occurrence) (history : History) : Prop where
  took : TookAt backend first ticket batch before
  rebuilt : ∀ order, IsLatest (first.chosen backend before) order →
    (first.run backend before).rebuild order = .ok history

/-- In a life from `first` on, all depends on the last choice of a summarizer and the last choice of
a merger. -/
structure LateBound (backend : Backend) (first : Lifetime) (past : List Occurrence) : Prop where
  /-- The summarizer is the one chosen last. -/
  summarizer : (first.run backend past).setup.summarizer =
    (lastSummarizer? (first.chosen backend past)).getD none
  /-- Merging is for the merger chosen last, and for the summarizer if none was ever chosen. -/
  merger : (first.run backend past).setup.condenser.effectiveMerger.capability =
    (lastMerger? (first.chosen backend past)).getD (first.run backend past).setup.summarizer
  /-- An append that has the gate has come as far as it would in a history built for it. -/
  underway : ∀ ticket, ((first.run backend past).shared.phases ticket).isInside = true →
    ∃ before batch history, before <+: past ∧
      BegunAs backend first ticket batch before history ∧
      let s := (first.run backend before).shared
      Underway history.setup backend ⟨history.contents, [], s.calls, s.records⟩ batch
        (first.run backend past).shared ((first.run backend past).shared.phases ticket)
  /-- An append that is finished has come to what it comes to in a history built for it, and had
  left what it leaves there. -/
  completed : ∀ ticket outcome, (first.run backend past).shared.phases ticket = .finished outcome →
    ∃ before after batch history, before <+: after ∧ after <+: past ∧
      BegunAs backend first ticket batch before history ∧
      let s := (first.run backend before).shared
      Completed history.setup backend ⟨history.contents, [], s.calls, s.records⟩ batch
          (first.run backend after).shared ticket ∧
        outcome = (history.setup.append backend s.calls history.contents batch).outcome
  /-- Of choices in a row, the last of each kind lead to the same life in either order. -/
  replaced : ∀ choices order later, IsLatest choices order →
    first.run backend (past ++ order.map .choice ++ later) =
      first.run backend (past ++ choices.map .choice ++ later)
  /-- The hints of all calls are those of the settings. -/
  hints : ∃ new, (first.run backend past).shared.calls = first.shared.calls ++ new ∧
    ∀ call ∈ new, first.setup.settings.Hints call

/-- A life that begins without capabilities is bound late, however choices and appends follow each
other, and however appends overlap, fail or are given up. -/
theorem run_late_bound (backend : Backend) (setup : Setup) (contents : Contents)
    (earlier : List Call) (past : List Occurrence) :
    LateBound backend (start setup.bare contents earlier) past := by
  have now := setup_run backend (start setup.bare contents earlier) past
  rw [Setup.chooseAll_eq] at now
  have t (ticket : Ticket) : Tracked backend (start setup.bare contents earlier) past
      ((start setup.bare contents earlier).run backend past) ticket :=
    tracked_run (.start setup.bare contents earlier) ⟨rfl, rfl⟩ past
  refine ⟨by rw [now]; rfl, ?_, fun ticket inside => ?_, fun ticket outcome finished => ?_, ?_,
    (hinted_run backend setup.bare contents earlier past).calls⟩
  · rw [Setup.effectiveMerger_condenser, now]
    show ((lastMerger? _).or none).getD _ = _
    rw [Option.or_none]
  · cases t ticket with
    | outside out => rw [out] at inside; cases inside
    | completed _ _ _ _ _ still => rw [still] at inside; cases inside
    | @underway before batch part took same u =>
      refine ⟨before, batch, _, part, ⟨took, rebuild_run backend setup contents earlier before⟩, ?_⟩
      rw [same]
      exact u
  · cases t ticket with
    | outside _ unfinished => rw [finished] at unfinished; cases unfinished
    | underway _ _ _ u =>
      have inside := u.isInside
      rw [finished] at inside
      cases inside
    | @completed before after batch _ part within took c done still =>
      refine ⟨before, after, batch, _, part, within,
        ⟨took, rebuild_run backend setup contents earlier before⟩, c, ?_⟩
      rw [finished] at still
      have phase := c.phase
      rw [done, ← still] at phase
      exact Phase.finished.inj phase
  · intro choices order later same
    rw [run_append, run_append _ _ _ later, run_append, run_append, run_latest backend _ same]

end Lifetime

end RollingHistory
