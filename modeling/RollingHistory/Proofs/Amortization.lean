import Mathlib.Algebra.Group.Action.Defs
import Mathlib.Algebra.Order.BigOperators.Group.List
import Mathlib.Algebra.Order.Ring.Nat
import RollingHistory.Proofs.Accounting

/-!
What the cuts of a history cost.

A cut takes at least a period of messages, one more than lie between what is kept and the limit. So
the cuts of a life are at most as many as periods have come in, and each makes at most two calls,
however appends overlap and whatever the batches are (`Amortized`). If a history begins with nothing
and gets one message at a time, it is never longer than its limit but for an append under way, so
each cut takes exactly a period, and the number of appends alone says how often there was one
(`Periodic`).
-/

namespace RollingHistory

/-- One more than lie between the messages to keep and the limit. -/
def Thresholds.period (t : Thresholds) : Nat := t.limit.toNat + 1 - t.keep.toNat

theorem Setup.period_le_of_excess {setup : Setup} {contents : Contents} {segment : List Message}
    (h : setup.excess? contents = some segment) :
    setup.settings.period ≤ segment.length := by
  have length := length_of_excess h
  obtain ⟨-, tooLong, -⟩ := excess?_eq_some_iff.mp h
  unfold Thresholds.period
  omega

/-! ## The least that goes -/

/-- Each segment of `gone` has a period at least, and if one went, there is what is to be kept. -/
structure Spaced (t : Thresholds) (gone : List (List Message)) (live : List Message) : Prop where
  each : ∀ segment ∈ gone, t.period ≤ segment.length
  kept : gone ≠ [] → t.keep.toNat ≤ live.length

/-- From `before`, the batches of `joined` came in and the segments of `gone` went, each of a period
at least, and what is kept is left besides. -/
structure Amortized (t : Thresholds) (before : Contents) (joined gone : List (List Message))
    (after : Contents) : Prop where
  removed : gone.length * t.period ≤ gone.flatten.length
  room : gone ≠ [] → gone.length * t.period + t.keep.toNat ≤
    before.live.length + joined.flatten.length
  /-- The counters gain as much, as far as they reach. -/
  counted : (after.tally.cuts - before.tally.cuts).toNat = gone.length % UInt64.size ∧
    (after.tally.removed - before.tally.removed).toNat = gone.flatten.length % UInt64.size

theorem toNat_add_ofNat_sub (counter : UInt64) (n : Nat) :
    (counter + UInt64.ofNat n - counter).toNat = n % UInt64.size := by
  rw [UInt64.add_comm, UInt64.add_sub_cancel]
  exact UInt64.toNat_ofNat'

theorem Spaced.amortized {t : Thresholds} {before after : Contents}
    {joined gone : List (List Message)} (p : Spaced t gone after.live)
    (a : Accounted before joined gone after) : Amortized t before joined gone after := by
  have removed : gone.length * t.period ≤ gone.flatten.length := by
    have least := List.card_nsmul_le_sum (gone.map List.length) t.period
      (List.forall_mem_map.mpr p.each)
    rw [List.length_map, smul_eq_mul] at least
    rw [List.length_flatten]
    exact least
  refine ⟨removed, fun cut => ?_, ?_, ?_⟩
  · have kept := p.kept cut
    have messages := congrArg List.length a.messages
    rw [List.length_append, List.length_append] at messages
    omega
  · rw [a.tally, Tally.recordAll_eq]
    exact toNat_add_ofNat_sub ..
  · rw [a.tally, Tally.recordAll_eq]
    exact toNat_add_ofNat_sub ..

namespace Shared

variable {setup : Setup} {backend : Backend} {s s' : Shared} {event : Event} {deed : Option Deed}

theorem Transition.spaced (h : Transition setup backend s event deed s') (g : Guarded setup s)
    {gone : List (List Message)} (p : Spaced setup.settings.toThresholds gone s.contents.live) :
    Spaced setup.settings.toThresholds (gone ++ (deed.bind Deed.segment?).toList)
      s'.contents.live := by
  cases h with
  | nothing | queued | entered | asked | answered | unqueued | dropped =>
    simp only [Option.bind_none, Option.bind_some, Deed.segment?, Option.toList_none,
      List.append_nil]
    exact p
  | passed | joined =>
    simp only [Option.bind_some, Deed.segment?, Option.toList_none, List.append_nil]
    refine ⟨p.each, fun cut => (p.kept cut).trans ?_⟩
    exact (List.prefix_append ..).length_le
  | @committed ticket segment round h =>
    have excess := g.excess ticket segment (by rw [h]; rfl)
    refine ⟨List.forall_mem_append.mpr ⟨p.each, ?_⟩, fun _ => ?_⟩
    · exact List.forall_mem_singleton.mpr (Setup.period_le_of_excess excess)
    · exact (Setup.length_drop_of_excess excess).ge

end Shared

/-! ## Calls -/

theorem Merger.length_calls_merge_le (merger : Merger) (backend : Backend) (earlier : List Call)
    (older : Option String) (newer : String) :
    ((merger.merge older newer).run backend earlier).2.length ≤ 1 := by
  cases older with
  | none => exact Nat.zero_le 1
  | some older =>
    cases h : merger.capability with
    | none =>
      rw [merge_of_no_capability h]
      exact Nat.zero_le 1
    | some name =>
      rw [merge_of_capability h]
      exact Nat.le_refl 1

namespace Cut

variable {backend : Backend}

theorem Genuine.length_calls_le {cut : Cut} (genuine : cut.Genuine backend) :
    cut.calls.length ≤ 2 := by
  rcases genuine.round_cases with ⟨-, -, calls⟩ | ⟨name, failure, -, -, -, calls⟩ |
    ⟨name, fresh, -, -, -, calls⟩
  · rw [calls]
    exact Nat.zero_le 2
  · rw [calls]
    exact Nat.le_succ 1
  · rw [calls]
    exact Nat.succ_le_succ (Merger.length_calls_merge_le ..)

theorem length_callsAfter_le (earlier : List Call) {cuts : List Cut}
    (genuine : ∀ cut ∈ cuts, cut.Genuine backend) :
    (callsAfter earlier cuts).length ≤ earlier.length + 2 * cuts.length := by
  have most := List.sum_le_card_nsmul (cuts.map fun cut => cut.calls.length) 2
    (List.forall_mem_map.mpr fun cut member => (genuine cut member).length_calls_le)
  rw [List.length_map, smul_eq_mul] at most
  rw [callsAfter, List.length_append, List.length_flatten, List.map_map]
  exact Nat.add_le_add_left (most.trans_eq (Nat.mul_comm ..)) _

end Cut

/-! ## One message at a time -/

namespace Shared

variable {setup : Setup} {backend : Backend} {s s' : Shared} {event : Event} {deed : Option Deed}
  {ticket : Ticket}

/-- The number of appends whose batch has joined the contents and that are not over. -/
def overhang (s : Shared) : Nat :=
  match s.holder with
  | none => 0
  | some ticket => (s.phases ticket).segment?.isSome.toNat

theorem overhang_of_free (free : s.holder = none) : s.overhang = 0 := by
  rw [overhang, free]

theorem overhang_of_holder (hold : s.holder = some ticket) :
    s.overhang = (s.phases ticket).segment?.isSome.toNat := by
  rw [overhang, hold]

theorem overhang_withPhase (hold : s.holder = some ticket) (phase : Phase) :
    (s.withPhase ticket phase).overhang = phase.segment?.isSome.toNat := by
  rw [overhang_of_holder (s := s.withPhase ticket phase) hold, phases_withPhase_self]

theorem overhang_withPhase_of_ne (other : s.holder ≠ some ticket) (phase : Phase) :
    (s.withPhase ticket phase).overhang = s.overhang := by
  cases hold : s.holder with
  | none =>
    have free : (s.withPhase ticket phase).holder = none := hold
    rw [overhang_of_free free, overhang_of_free hold]
  | some t =>
    have held : (s.withPhase ticket phase).holder = some t := hold
    have ne : t ≠ ticket := fun same => other (by rw [hold, same])
    rw [overhang_of_holder held, overhang_of_holder hold, phases_withPhase_of_ne ne]

/-- Only single messages are to come. -/
def Single (s : Shared) : Prop :=
  ∀ ticket batch, s.phases ticket = .waiting batch ∨ s.phases ticket = .holding batch →
    batch.length = 1

theorem Transition.single (h : Transition setup backend s event deed s')
    (submitted : ∀ ticket batch, event = .submit ticket batch → batch.length = 1)
    (p : s.Single) : s'.Single := by
  intro t batch own
  by_cases same : t = event.ticket
  · subst same
    cases h with
    | nothing => exact p _ batch own
    | queued other =>
      rw [Event.ticket, phases_withPhase_self] at own
      have new : other = batch := by simpa using own
      exact submitted _ batch (by rw [new])
    | @entered ticket other _ h =>
      rw [Event.ticket, phases_withPhase_self] at own
      have waited : other = batch := by simpa using own
      exact p ticket batch (.inl (by rw [h, waited]))
    | passed | joined | asked | answered | committed | unqueued | dropped =>
      simp [Event.ticket, ask, hear, commit, finish] at own
  · rw [h.phases_of_ne same] at own
    exact p t batch own

/-- What is live is at most the limit but for an append under way, and the segments of `gone` are
no longer than they must be. -/
structure Paced (t : Thresholds) (joined gone : List (List Message)) (s : Shared) : Prop where
  short : s.contents.live.length ≤ t.limit.toNat + s.overhang
  counted : joined.flatten.length = s.completed.length + s.overhang
  even : ∀ segment ∈ gone, segment.length = t.period

theorem Paced.of_same {t : Thresholds} {joined gone : List (List Message)}
    (p : Paced t joined gone s) (contents : s'.contents = s.contents)
    (completed : s'.completed = s.completed) (overhang : s'.overhang = s.overhang) :
    Paced t joined gone s' := by
  refine ⟨?_, ?_, p.even⟩
  · rw [contents, overhang]
    exact p.short
  · rw [completed, overhang]
    exact p.counted

theorem Paced.join {t : Thresholds} {joined gone : List (List Message)} {batch : List Message}
    (p : Paced t joined gone s) (before : s.overhang = 0) (one : batch.length = 1)
    (contents : s'.contents = s.contents.extend batch) (completed : s'.completed = s.completed)
    (after : s'.overhang = 1) : Paced t (joined ++ [batch]) gone s' := by
  have short := p.short
  have counted := p.counted
  refine ⟨?_, ?_, p.even⟩
  · rw [contents, Contents.live_extend, List.length_append, after]
    omega
  · rw [completed, after, List.flatten_append, List.flatten_singleton, List.length_append]
    omega

/-- A history that gets single messages is cut as soon as it is too long, and whoever is to cut it
does so before there is another. -/
theorem Transition.paced (h : Transition setup backend s event deed s') (g : Guarded setup s)
    (kept : event.isCancel = false) (enabled : setup.settings.enabled = true) (one : s.Single)
    {joined gone : List (List Message)} (p : Paced setup.settings.toThresholds joined gone s) :
    Paced setup.settings.toThresholds (joined ++ (deed.bind Deed.batch?).toList)
      (gone ++ (deed.bind Deed.segment?).toList) s' := by
  have holder {ticket : Ticket} {phase : Phase} (h : s.phases ticket = phase)
      (inside : phase.isInside = true) : s.holder = some ticket :=
    g.holder_eq (by rw [h, inside])
  have overhang {ticket : Ticket} {phase : Phase} (h : s.phases ticket = phase)
      (inside : phase.isInside = true) : s.overhang = phase.segment?.isSome.toNat := by
    rw [overhang_of_holder (holder h inside), h]
  have counted := p.counted
  cases h with
  | nothing =>
    rw [Option.bind_none, Option.bind_none, Option.toList_none, List.append_nil, List.append_nil]
    exact p
  | @queued ticket batch h =>
    have other : s.holder ≠ some ticket := by
      rw [Ne, ← g.inside_iff, h]
      exact Bool.false_ne_true
    rw [Option.bind_none, Option.bind_none, Option.toList_none, List.append_nil, List.append_nil]
    exact p.of_same rfl rfl (overhang_withPhase_of_ne other _)
  | entered h free =>
    simp only [Option.bind_some, Deed.batch?, Deed.segment?, Option.toList_none, List.append_nil]
    exact p.of_same rfl rfl ((overhang_withPhase rfl _).trans (overhang_of_free free).symm)
  | @passed ticket batch h fits =>
    have before : s.overhang = 0 := overhang h rfl
    have length : batch.length = 1 := one ticket batch (.inr h)
    have atMost := Setup.excess?_eq_none_iff.mp fits enabled
    have more : (joined ++ [batch]).flatten.length = (s.completed ++ [ticket]).length := by
      rw [List.flatten_append, List.flatten_singleton, List.length_append, List.length_append,
        counted, before, length]
      rfl
    simp only [Option.bind_some, Deed.batch?, Deed.segment?, Option.toList_none, List.append_nil]
    exact ⟨atMost, more, p.even⟩
  | @joined ticket batch segment h excess =>
    have before : s.overhang = 0 := overhang h rfl
    have length : batch.length = 1 := one ticket batch (.inr h)
    simp only [Option.bind_some, Deed.batch?, Deed.segment?, Option.toList_none, List.append_nil]
    exact p.join before length rfl rfl (overhang_withPhase (holder h rfl) _)
  | asked h =>
    rw [Option.bind_none, Option.bind_none, Option.toList_none, List.append_nil, List.append_nil]
    exact p.of_same rfl rfl ((overhang_withPhase (holder h rfl) _).trans (overhang h rfl).symm)
  | answered h =>
    rw [Option.bind_none, Option.bind_none, Option.toList_none, List.append_nil, List.append_nil]
    exact p.of_same rfl rfl ((overhang_withPhase (holder h rfl) _).trans (overhang h rfl).symm)
  | @committed ticket segment round h =>
    have before : s.overhang = 1 := overhang h rfl
    have excess := g.excess ticket segment (by rw [h]; rfl)
    have length := Setup.length_of_excess excess
    have left := Setup.length_drop_of_excess excess
    have below := setup.keep_lt_limit
    obtain ⟨-, tooLong, -⟩ := Setup.excess?_eq_some_iff.mp excess
    have short := p.short
    have tight : segment.length = setup.settings.period := by
      unfold Thresholds.period
      omega
    have more : joined.flatten.length = (s.completed ++ [ticket]).length := by
      rw [List.length_append, List.length_singleton, counted, before]
    simp only [Option.bind_some, Deed.batch?, Deed.segment?, Option.toList_none, List.append_nil]
    refine ⟨?_, more, ?_⟩
    · exact left.trans_le below.le
    · exact List.forall_mem_append.mpr ⟨p.even, List.forall_mem_singleton.mpr tight⟩
  | unqueued | dropped => cases kept

end Shared

/-- After `count` single messages, the segments of `gone` and what is live. -/
structure Periodic (t : Thresholds) (count : Nat) (gone : List (List Message))
    (live : List Message) : Prop where
  commits : gone.length = (count - t.keep.toNat) / t.period
  removed : gone.flatten.length = gone.length * t.period
  live : live.length = count - gone.length * t.period

/-- Between appends, what is live is between the messages to keep and the limit once there was a
cut, and so the number of messages so far tells the number of the cuts. -/
theorem Shared.Paced.periodic {t : Thresholds} {before : Contents}
    {joined gone : List (List Message)} {s : Shared} (p : Shared.Paced t joined gone s)
    (a : Accounted before joined gone s.contents) (spaced : Spaced t gone s.contents.live)
    (below : t.keep.toNat < t.limit.toNat) (empty : before.live = []) (free : s.holder = none) :
    Periodic t s.completed.length gone s.contents.live := by
  have removed : gone.flatten.length = gone.length * t.period := by
    have sum := List.sum_eq_card_nsmul (gone.map List.length) t.period
      (List.forall_mem_map.mpr p.even)
    rw [List.length_map, smul_eq_mul] at sum
    rw [List.length_flatten, sum]
  have short := p.short
  have counted := p.counted
  rw [Shared.overhang_of_free free, Nat.add_zero] at short counted
  have messages := congrArg List.length a.messages
  rw [List.length_append, List.length_append, empty, List.length_nil, counted, removed] at messages
  refine ⟨?_, removed, by omega⟩
  have period : t.period = t.limit.toNat + 1 - t.keep.toNat := rfl
  symm
  cases gone with
  | nil =>
    refine Nat.div_eq_of_lt ?_
    rw [List.length_nil, Nat.zero_mul] at messages
    omega
  | cons segment rest =>
    have kept : t.keep.toNat ≤ s.contents.live.length := spaced.kept (List.cons_ne_nil _ _)
    refine Nat.div_eq_of_lt_le ?_ ?_
    · omega
    · rw [Nat.succ_mul]
      omega

/-! ## Whole lives -/

/-- No append is given up, and one that is submitted has a single message. -/
def Occurrence.isPlain : Occurrence → Bool
  | .choice _ | .event (.step _) => true
  | .event (.submit _ batch) => batch.length = 1
  | .event (.cancel _) => false

theorem Occurrence.isCancel_of_isPlain {occurrence : Occurrence} (plain : occurrence.isPlain) :
    occurrence.isCancel = false := by
  rcases occurrence with _ | ⟨_ | _ | _⟩
  · rfl
  · rfl
  · rfl
  · cases plain

theorem Occurrence.length_of_isPlain {ticket : Ticket} {batch : List Message}
    (plain : (event (.submit ticket batch)).isPlain) : batch.length = 1 :=
  of_decide_eq_true plain

namespace Lifetime

open Shared

variable {backend : Backend} {x x' : Lifetime} {occurrence : Occurrence} {deed : Option Deed}

theorem Passage.spaced (h : Passage backend x occurrence deed x')
    (g : Guarded x.setup x.shared) {gone : List (List Message)}
    (p : Spaced x.setup.settings.toThresholds gone x.shared.contents.live) :
    Spaced x.setup.settings.toThresholds (gone ++ (deed.bind Deed.shed?).toList.map Prod.snd)
      x'.shared.contents.live := by
  rw [Deed.map_snd_shed?]
  cases h with
  | event h => exact h.spaced g p
  | refused | chosen =>
    rw [Option.bind_none, Option.toList_none, List.append_nil]
    exact p

theorem spaced_run (g : Guarded x.setup x.shared) (backend : Backend)
    (occurrences : List Occurrence) :
    Spaced x.setup.settings.toThresholds ((x.sheds backend occurrences).map Prod.snd)
      (x.run backend occurrences).shared.contents.live := by
  refine run_induction (fun past => Spaced x.setup.settings.toThresholds
    ((x.sheds backend past).map Prod.snd) (x.run backend past).shared.contents.live) g backend
    ⟨nofun, fun cut => absurd rfl cut⟩ ?_
  intro past occurrence _ g p h
  rw [sheds_append_singleton, List.map_append, ← settings_run backend x past]
  rw [← settings_run backend x past] at p
  exact h.spaced g p

theorem Passage.single (h : Passage backend x occurrence deed x') (plain : occurrence.isPlain)
    (one : x.shared.Single) : x'.shared.Single := by
  cases h with
  | event h =>
    refine h.single (fun ticket batch same => ?_) one
    rw [same] at plain
    exact Occurrence.length_of_isPlain plain
  | refused | chosen => exact one

theorem Passage.paced (h : Passage backend x occurrence deed x') (g : Guarded x.setup x.shared)
    (plain : occurrence.isPlain) (enabled : x.setup.settings.enabled = true)
    (one : x.shared.Single) {joined gone : List (List Message)}
    (p : Paced x.setup.settings.toThresholds joined gone x.shared) :
    Paced x.setup.settings.toThresholds (joined ++ (deed.bind Deed.batch?).toList)
      (gone ++ (deed.bind Deed.shed?).toList.map Prod.snd) x'.shared := by
  rw [Deed.map_snd_shed?]
  cases h with
  | event h => exact h.paced g (Occurrence.isCancel_of_isPlain plain) enabled one p
  | refused | chosen =>
    rw [Option.bind_none, Option.bind_none, Option.toList_none, List.append_nil, List.append_nil]
    exact p

theorem paced_run (g : Guarded x.setup x.shared) (backend : Backend)
    {occurrences : List Occurrence} (plain : ∀ occurrence ∈ occurrences, occurrence.isPlain)
    (enabled : x.setup.settings.enabled = true) (one : x.shared.Single)
    (first : Paced x.setup.settings.toThresholds [] [] x.shared) :
    Paced x.setup.settings.toThresholds (x.joined backend occurrences)
      ((x.sheds backend occurrences).map Prod.snd) (x.run backend occurrences).shared := by
  suffices both : (x.run backend occurrences).shared.Single ∧
      Paced x.setup.settings.toThresholds (x.joined backend occurrences)
        ((x.sheds backend occurrences).map Prod.snd) (x.run backend occurrences).shared from both.2
  refine run_induction (fun past => (x.run backend past).shared.Single ∧
    Paced x.setup.settings.toThresholds (x.joined backend past)
      ((x.sheds backend past).map Prod.snd) (x.run backend past).shared) g backend ⟨one, first⟩ ?_
  rintro past occurrence member g ⟨one, p⟩ h
  refine ⟨h.single (plain occurrence member) one, ?_⟩
  rw [joined_append_singleton, sheds_append_singleton, List.map_append,
    ← settings_run backend x past]
  rw [← settings_run backend x past] at enabled p
  exact h.paced g (plain occurrence member) enabled one p

/-- If no append is given up, and none is under way, there were two calls at most for each cut. -/
theorem length_calls_le (backend : Backend) (setup : Setup) (contents : Contents)
    (earlier : List Call) {past : List Occurrence}
    (kept : ∀ occurrence ∈ past, occurrence.isCancel = false)
    (free : ((start setup contents earlier).run backend past).shared.holder = none) :
    ((start setup contents earlier).run backend past).shared.calls.length ≤
      earlier.length + 2 * ((start setup contents earlier).sheds backend past).length := by
  obtain ⟨cuts, base, l⟩ := ledger_run backend setup contents earlier past
  have g := guarded_run (x := start setup contents earlier) (.start setup contents earlier)
    backend past
  obtain ⟨pending, calls, -, nothing⟩ := exists_pending g l.standing
  obtain ⟨rfl, -⟩ := l.kept kept
  have most := Cut.length_callsAfter_le earlier l.genuine
  rw [calls, nothing free, List.append_nil, l.sheds, List.length_map]
  exact most

/-- At every point of every life, every cut has taken a period at least, and there is room for what
is kept besides. If no append is given up, and none is under way, there were two calls at most for
each cut. If moreover the history began with nothing and got single messages, the number of appends
that are finished tells the number of the cuts, and each took just a period. -/
theorem run_amortized (backend : Backend) (setup : Setup) (contents : Contents)
    (earlier : List Call) (past : List Occurrence) (enabled : setup.settings.enabled = true) :
    let first := start setup contents earlier
    let gone := (first.sheds backend past).map Prod.snd
    let s := (first.run backend past).shared
    Amortized setup.settings.toThresholds contents (first.joined backend past) gone s.contents ∧
      ((∀ occurrence ∈ past, occurrence.isCancel = false) → s.holder = none →
        s.calls.length ≤ earlier.length + 2 * gone.length) ∧
      ((∀ occurrence ∈ past, occurrence.isPlain) → s.holder = none → contents.live = [] →
        (first.joined backend past).flatten.length = s.completed.length ∧
          Periodic setup.settings.toThresholds s.completed.length gone s.contents.live) := by
  intro first gone s
  have g : Guarded first.setup first.shared := .start setup contents earlier
  have spaced := spaced_run g backend past
  have a := accounted_run g backend past
  refine ⟨spaced.amortized a, fun kept free => ?_, fun plain free empty => ?_⟩
  · have most := length_calls_le backend setup contents earlier kept free
    rw [List.length_map]
    exact most
  · have paced : Paced setup.settings.toThresholds (first.joined backend past) gone s := by
      refine paced_run g backend plain enabled (fun _ _ own => ?_) ⟨?_, rfl, nofun⟩
      · exact own.elim nofun nofun
      · exact (congrArg List.length empty).trans_le (Nat.zero_le _)
    have counted := paced.counted
    rw [overhang_of_free free, Nat.add_zero] at counted
    exact ⟨counted, paced.periodic a spaced setup.keep_lt_limit empty free⟩

/-- Five appends of one message each, which queue up before the first of them begins. -/
def dripping : List Occurrence :=
  ([Event.submit 1 [.user "a"], .submit 0 [.user "b"], .submit 2 [.user "c"],
    .submit 4 [.user "d"], .submit 3 [.user "e"]] ++
      [1, 0, 2, 4, 3].flatMap fun ticket => List.replicate 7 (Event.step ticket)).map .event

theorem run_amortized_dripping :
    ((start .narrow (.ofMessages []) []).run .numbered dripping).shared.completed =
        [1, 0, 2, 4, 3] ∧
      Periodic Setup.narrow.settings.toThresholds 5
        [[.user "a", .user "b"], [.user "c", .user "d"]] [.user "e"] := by
  obtain ⟨-, -, single⟩ := run_amortized .numbered .narrow (.ofMessages []) [] dripping rfl
  exact ⟨rfl, (single (by decide) rfl rfl).2⟩

end Lifetime

end RollingHistory
