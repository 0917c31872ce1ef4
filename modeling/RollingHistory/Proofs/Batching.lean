import RollingHistory.History.Schedule
import RollingHistory.Proofs.Serializability
import RollingHistory.Proofs.Sessions

/-!
How a conversation is cut into batches does not matter, up to the appends that shed.

An append that sheds nothing is as good as none: if its batch comes with the next one instead, that
one finds the same messages and comes to the same (`Setup.append_after_noop`). So each append that
sheds nothing can be merged into the one that follows it (`Session.regroup`), and a history ends up
as it would without, has shed the same segments and has made the same calls (`run_regrouped`). What
an append comes to depends on nothing but the setup, the contents and the earlier calls, which is
what `Session.Agrees` compares.
-/

namespace RollingHistory

/-- Two batches one after the other are one batch, if the first one sheds nothing. The owner may
choose otherwise between the two. -/
theorem Setup.append_after_noop {setup : Setup} {backend : Backend} {earlier : List Call}
    {contents : Contents} {as : List Message}
    (quiet : (setup.append backend earlier contents as).outcome = .noop) (later : Setup)
    (bs : List Message) :
    let first := setup.append backend earlier contents as
    later.append backend (earlier ++ first.calls) first.contents bs =
      later.append backend earlier contents (as ++ bs) := by
  dsimp only
  rw [append_of_noop quiet, List.append_nil, append_append]

namespace Turn

/-- Both turns at once. -/
def merge (first second : Turn) : Turn :=
  ⟨first.choices ++ second.choices, first.batch ++ second.batch⟩

end Turn

namespace Session

/-- Each append that sheds nothing is merged into the one that follows it, if there is one. -/
def regroup (backend : Backend) (x : Session) : List Turn → List Turn
  | [] => []
  | turn :: later =>
    match (x.take backend turn).regroup backend later with
    | [] => [turn]
    | next :: others =>
      if (x.entry backend turn).result.outcome.isNoop then turn.merge next :: others
      else turn :: next :: others

/-- Two sessions are at the same point, and only appends that shed nothing may have been more in one
than in the other. -/
structure Agrees (x y : Session) : Prop where
  setup : y.setup = x.setup
  contents : y.journal.contents = x.journal.contents
  calls : y.journal.calls = x.journal.calls
  records : y.journal.records = x.journal.records
  outcomes : (y.journal.outcomes.filter fun outcome => !outcome.isNoop) =
    x.journal.outcomes.filter fun outcome => !outcome.isNoop

variable {backend : Backend} {x y z : Session} {turn : Turn} {turns : List Turn}

namespace Agrees

theorem refl (x : Session) : Agrees x x := ⟨rfl, rfl, rfl, rfl, rfl⟩

theorem trans (a : Agrees x y) (b : Agrees y z) : Agrees x z where
  setup := b.setup.trans a.setup
  contents := b.contents.trans a.contents
  calls := b.calls.trans a.calls
  records := b.records.trans a.records
  outcomes := b.outcomes.trans a.outcomes

/-- An append finds the same in both, and so comes to the same. -/
theorem entry (a : Agrees x y) (backend : Backend) (turn : Turn) :
    y.entry backend turn = x.entry backend turn := by
  unfold Session.entry
  rw [a.setup, a.contents, a.calls]

theorem take (a : Agrees x y) (backend : Backend) (turn : Turn) :
    Agrees (x.take backend turn) (y.take backend turn) := by
  have same := a.entry backend turn
  refine ⟨?_, ?_, ?_, ?_, ?_⟩
  · rw [setup_take, setup_take, a.setup]
  · rw [contents_take, contents_take, same]
  · rw [calls_take, calls_take, same, a.calls]
  · rw [records_take, records_take, same, a.records]
  · rw [outcomes_take, outcomes_take, same, List.filter_append, List.filter_append, a.outcomes]

theorem run (a : Agrees x y) (backend : Backend) (turns : List Turn) :
    Agrees (x.run backend turns) (y.run backend turns) := by
  induction turns generalizing x y with
  | nil => exact a
  | cons turn turns ih => exact ih (a.take backend turn)

theorem entries (a : Agrees x y) (backend : Backend) (turns : List Turn) :
    y.entries backend turns = x.entries backend turns := by
  induction turns generalizing x y with
  | nil => rfl
  | cons turn turns ih =>
    rw [Session.entries, Session.entries, a.entry, ih (a.take backend turn)]

end Agrees

/-- An append that follows one that shed nothing comes to what the two come to at once. -/
theorem result_entry_merge (quiet : (x.entry backend turn).result.outcome = .noop) (next : Turn) :
    (x.entry backend (turn.merge next)).result =
      ((x.take backend turn).entry backend next).result := by
  have whole := Setup.append_after_noop quiet
    ((x.setup.chooseAll turn.choices).chooseAll next.choices) next.batch
  show (x.setup.chooseAll (turn.choices ++ next.choices)).append _ _ _ _ = _
  rw [Setup.chooseAll_append]
  exact whole.symm

theorem agrees_merge (quiet : (x.entry backend turn).result.outcome = .noop) (next : Turn) :
    Agrees ((x.take backend turn).take backend next) (x.take backend (turn.merge next)) := by
  have result := result_entry_merge quiet next
  have nothing : (x.entry backend turn).result = ⟨.noop, _, [], []⟩ := Setup.append_of_noop quiet
  refine ⟨?_, ?_, ?_, ?_, ?_⟩
  · rw [setup_take, setup_take, setup_take]
    exact Setup.chooseAll_append ..
  · rw [contents_take, contents_take, result]
  · rw [calls_take, calls_take, calls_take, nothing, result, List.append_nil]
  · rw [records_take, records_take, records_take, nothing, result, List.append_nil]
  · rw [outcomes_take, outcomes_take, outcomes_take, nothing, result, List.filter_append,
      List.filter_append, List.filter_append]
    exact congrArg (· ++ _) (List.append_nil _).symm

/-! ## Whole runs -/

/-- A run with fewer appends, which ends up where the one of all `turns` does. -/
structure Regrouped (backend : Backend) (x : Session) (turns regrouped : List Turn) : Prop where
  /-- No message and no choice is lost, and all stay in order. -/
  batches : (regrouped.map Turn.batch).flatten = (turns.map Turn.batch).flatten
  choices : (regrouped.map Turn.choices).flatten = (turns.map Turn.choices).flatten
  /-- The history is the same in the end, and so are the outcomes of the appends that shed, the
  calls and the records on the way. -/
  agrees : Agrees (x.run backend turns) (x.run backend regrouped)
  /-- There is nothing left to merge. -/
  settled : ∀ entry ∈ (x.entries backend regrouped).dropLast, entry.result.outcome ≠ .noop

theorem Regrouped.nil (backend : Backend) (x : Session) : Regrouped backend x [] [] :=
  ⟨rfl, rfl, .refl _, fun _ h => absurd h List.not_mem_nil⟩

theorem Regrouped.single (r : Regrouped backend (x.take backend turn) turns []) :
    Regrouped backend x (turn :: turns) [turn] where
  batches := by
    rw [List.map_cons, List.flatten_cons, List.map_cons, List.flatten_cons, ← r.batches,
      List.map_nil]
  choices := by
    rw [List.map_cons, List.flatten_cons, List.map_cons, List.flatten_cons, ← r.choices,
      List.map_nil]
  agrees := r.agrees
  settled entry member := absurd member List.not_mem_nil

/-- A turn that sheds stays by itself. -/
theorem Regrouped.keep {next : Turn} {others : List Turn}
    (r : Regrouped backend (x.take backend turn) turns (next :: others))
    (sheds : (x.entry backend turn).result.outcome ≠ .noop) :
    Regrouped backend x (turn :: turns) (turn :: next :: others) where
  batches := by rw [List.map_cons, List.flatten_cons, r.batches, List.map_cons, List.flatten_cons]
  choices := by rw [List.map_cons, List.flatten_cons, r.choices, List.map_cons, List.flatten_cons]
  agrees := r.agrees
  settled entry member := by
    rw [entries, entries, List.dropLast_cons_of_ne_nil (List.cons_ne_nil _ _)] at member
    rcases List.mem_cons.mp member with rfl | member
    · exact sheds
    · exact r.settled entry member

/-- A turn that sheds nothing goes with the one that follows it. -/
theorem Regrouped.merge {next : Turn} {others : List Turn}
    (r : Regrouped backend (x.take backend turn) turns (next :: others))
    (quiet : (x.entry backend turn).result.outcome = .noop) :
    Regrouped backend x (turn :: turns) (turn.merge next :: others) where
  batches := by
    rw [List.map_cons, List.flatten_cons, List.map_cons, List.flatten_cons, ← r.batches]
    exact List.append_assoc ..
  choices := by
    rw [List.map_cons, List.flatten_cons, List.map_cons, List.flatten_cons, ← r.choices]
    exact List.append_assoc ..
  agrees := r.agrees.trans ((agrees_merge quiet next).run backend others)
  settled entry member := by
    have settled := r.settled
    rw [entries, (agrees_merge quiet next).entries] at member
    rw [entries] at settled
    -- the merged turn comes to what the next one did, and those behind it are as they were
    cases rest : ((x.take backend turn).take backend next).entries backend others with
    | nil =>
      rw [rest] at member
      exact absurd member List.not_mem_nil
    | cons second later =>
      rw [rest, List.dropLast_cons_of_ne_nil (List.cons_ne_nil _ _)] at member settled
      rcases List.mem_cons.mp member with rfl | member
      · rw [result_entry_merge quiet next]
        exact settled _ List.mem_cons_self
      · exact settled entry (List.mem_cons_of_mem _ member)

/-- Every run can be regrouped. -/
theorem regrouped_regroup (backend : Backend) (x : Session) (turns : List Turn) :
    Regrouped backend x turns (x.regroup backend turns) := by
  induction turns generalizing x with
  | nil => exact .nil backend x
  | cons turn later ih =>
    have r := ih (x.take backend turn)
    unfold regroup
    split
    · rename_i done
      rw [done] at r
      exact r.single
    · rename_i next others left
      rw [left] at r
      split
      · rename_i quiet
        exact r.merge (Outcome.isNoop_iff.mp quiet)
      · rename_i sheds
        exact r.keep fun quiet => sheds (Outcome.isNoop_iff.mpr quiet)

end Session

namespace Shared

/-- A run of overlapping appends that is over, none of them given up, is the session of their
batches in the order in which they took the gate. -/
theorem session_of_overlapping {setup : Setup} {backend : Backend} {contents : Contents}
    {earlier : List Call} {events : List Event}
    (kept : ∀ event ∈ events, event.isCancel = false)
    (ended : ((start contents earlier).run setup backend events).holder = none) :
    let s := (start contents earlier).run setup backend events
    let order := (start contents earlier).entries setup backend events
    let session := (Session.start setup contents earlier).run backend
      ((order.map Prod.snd).map (Turn.mk []))
    s.Matches session.journal ∧
      order.filterMap (fun entry => (s.phases entry.1).outcome?) = session.journal.outcomes := by
  have p := progress_run setup backend contents earlier kept
  obtain ⟨state, finished⟩ := p.final (guarded_run setup backend contents earlier events) ended
  dsimp only
  rw [Session.run_of_batches]
  refine ⟨state, ?_⟩
  have outcomes := congrArg (List.filterMap Phase.outcome?) finished
  rw [List.filterMap_map, List.filterMap_map] at outcomes
  refine outcomes.trans ?_
  exact List.filterMap_some

end Shared

namespace Session

/-- If an append sheds nothing, then it and the next one leave the contents, come to the outcome and
make the calls that one append of both batches does. So any run can be regrouped, whatever the owner
chooses on the way, and also one of overlapping appends. -/
theorem run_regrouped (backend : Backend) :
    (∀ (setup later : Setup) (earlier : List Call) (contents : Contents) (as bs : List Message),
      let first := setup.append backend earlier contents as
      let second := later.append backend (earlier ++ first.calls) first.contents bs
      let whole := later.append backend earlier contents (as ++ bs)
      first.outcome = .noop → second.contents = whole.contents ∧ second.outcome = whole.outcome ∧
        first.calls ++ second.calls = whole.calls) ∧
    (∀ x turns, Regrouped backend x turns (x.regroup backend turns)) ∧
    ∀ (setup : Setup) (contents : Contents) (earlier : List Call) (events : List Event),
      (∀ event ∈ events, event.isCancel = false) →
      let s := (Shared.start contents earlier).run setup backend events
      let order := (Shared.start contents earlier).entries setup backend events
      let x := start setup contents earlier
      let regrouped := x.run backend (x.regroup backend ((order.map Prod.snd).map (Turn.mk [])))
      s.holder = none →
        regrouped.journal.contents = s.contents ∧ regrouped.journal.calls = s.calls ∧
        regrouped.journal.outcomes.filter (fun outcome => !outcome.isNoop) =
          (order.filterMap fun entry => (s.phases entry.1).outcome?).filter
            fun outcome => !outcome.isNoop := by
  refine ⟨?_, regrouped_regroup backend, ?_⟩
  · intro setup later earlier contents as bs first second whole quiet
    have same : second = whole := Setup.append_after_noop quiet later bs
    have nothing : first.calls = [] := congrArg Appended.calls (Setup.append_of_noop quiet)
    rw [same, nothing]
    exact ⟨rfl, rfl, rfl⟩
  · intro setup contents earlier events kept s order x regrouped ended
    obtain ⟨state, outcomes⟩ := Shared.session_of_overlapping kept ended
    have agrees := (regrouped_regroup backend x ((order.map Prod.snd).map (Turn.mk []))).agrees
    rw [outcomes]
    exact ⟨agrees.contents.trans state.contents.symm, agrees.calls.trans state.calls.symm,
      agrees.outcomes⟩

/-- A message that still fits, and another that does not. -/
theorem run_regrouped_dripping :
    let first := Setup.narrow.append .numbered [] (.ofMessages [.user "a"]) [.user "b"]
    let second := Setup.narrow.append .numbered ([] ++ first.calls) first.contents [.user "c"]
    let whole :=
      Setup.narrow.append .numbered [] (.ofMessages [.user "a"]) ([.user "b"] ++ [.user "c"])
    first.outcome = .noop ∧ whole.outcome = .compacted 2 .first ∧
      second.contents = whole.contents ∧ second.outcome = whole.outcome ∧
      first.calls ++ second.calls = whole.calls :=
  ⟨rfl, rfl, (run_regrouped .numbered).1 .narrow .narrow [] (.ofMessages [.user "a"]) [.user "b"]
    [.user "c"] rfl⟩

end Session

end RollingHistory
