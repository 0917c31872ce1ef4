import Mathlib.Data.List.Induction
import RollingHistory.Proofs.Bounds
import RollingHistory.Proofs.Conservation

/-!
A history over its whole life.

Between appends its owner may choose other capabilities. A choice needs the history for itself, so
while an append is under way or waits for the gate none can be made. `Passage` lists what an
occurrence can do, `passage_apply` says that it does nothing else, and the invariants of a single
run go over to a whole life (`guarded_run`, `accounted_run`, `cuts_run`): a choice finds the gate
free, so no segment that was cut off under one setup is shed under another.
-/

namespace RollingHistory

/-- A history at work: the setup as chosen last, and what the appends have come to. -/
structure Lifetime where
  setup : Setup
  shared : Shared

/-- What can happen to a history: a choice of its owner, or an event of one of its appends. -/
inductive Occurrence where
  | choice (choice : Choice)
  | event (event : Event)

/-- The occurrence gives an append up. -/
def Occurrence.isCancel : Occurrence → Bool
  | .choice _ => false
  | .event what => what.isCancel

namespace Deed

/-- The append that shed a segment, with that segment. -/
def shed? : Deed → Option (Ticket × List Message)
  | shed ticket segment => some (ticket, segment)
  | _ => none

theorem map_snd_shed? (deed : Option Deed) :
    (deed.bind shed?).toList.map Prod.snd = (deed.bind segment?).toList := by
  rcases deed with _ | ⟨_ | _ | _⟩ <;> rfl

theorem eq_of_shed?_eq_some {deed : Option Deed} {ticket : Ticket} {segment : List Message}
    (h : deed.bind shed? = some (ticket, segment)) : deed = some (.shed ticket segment) := by
  rcases deed with _ | ⟨_ | _ | _⟩ <;> cases h
  rfl

end Deed

namespace Lifetime

/-- Nobody is appending. The backend remembers the earlier calls. -/
def start (setup : Setup) (contents : Contents) (earlier : List Call) : Lifetime :=
  ⟨setup, .start contents earlier⟩

/-- Nobody has the gate or waits for it. -/
def isQuiet (x : Lifetime) : Bool := x.shared.holder.isNone && x.shared.queue.isEmpty

/-- One occurrence. -/
def apply (backend : Backend) (x : Lifetime) : Occurrence → Lifetime
  | .choice choice => if x.isQuiet then { x with setup := x.setup.choose choice } else x
  | .event event => { x with shared := x.shared.apply x.setup backend event }

/-- The occurrences one after the other. -/
def run (backend : Backend) (x : Lifetime) (occurrences : List Occurrence) : Lifetime :=
  occurrences.foldl (apply backend) x

/-- What is remembered of an occurrence. -/
def deed? (x : Lifetime) : Occurrence → Option Deed
  | .choice _ => none
  | .event event => x.shared.deed? event

/-- What is remembered of all occurrences. -/
def deeds (backend : Backend) (x : Lifetime) : List Occurrence → List Deed
  | [] => []
  | occurrence :: later =>
    (x.deed? occurrence).toList ++ (x.apply backend occurrence).deeds backend later

/-- The batches that joined the contents, in order. -/
def joined (backend : Backend) (x : Lifetime) (occurrences : List Occurrence) :
    List (List Message) :=
  (x.deeds backend occurrences).filterMap Deed.batch?

/-- The commits in order: which append shed which segment. -/
def sheds (backend : Backend) (x : Lifetime) (occurrences : List Occurrence) :
    List (Ticket × List Message) :=
  (x.deeds backend occurrences).filterMap Deed.shed?

variable {backend : Backend} {x x' : Lifetime} {occurrence : Occurrence} {deed : Option Deed}

theorem run_append (backend : Backend) (x : Lifetime) (past more : List Occurrence) :
    x.run backend (past ++ more) = (x.run backend past).run backend more :=
  List.foldl_append ..

theorem run_append_singleton (backend : Backend) (x : Lifetime) (past : List Occurrence)
    (occurrence : Occurrence) :
    x.run backend (past ++ [occurrence]) = (x.run backend past).apply backend occurrence :=
  x.run_append backend past [occurrence]

theorem deeds_append_singleton (backend : Backend) (x : Lifetime) (past : List Occurrence)
    (occurrence : Occurrence) :
    x.deeds backend (past ++ [occurrence]) =
      x.deeds backend past ++ ((x.run backend past).deed? occurrence).toList := by
  induction past generalizing x with
  | nil => exact List.append_nil _
  | cons first past ih =>
    rw [List.cons_append, deeds, ih, deeds, List.append_assoc]
    rfl

/-! ## What an occurrence can do -/

/-- An occurrence, what is remembered of it, and what it leads to. -/
inductive Passage (backend : Backend) (x : Lifetime) :
    Occurrence → Option Deed → Lifetime → Prop
  | refused (choice : Choice) : Passage backend x (.choice choice) none x
  | chosen (choice : Choice) (free : x.shared.holder = none) (nobody : x.shared.queue = []) :
    Passage backend x (.choice choice) none { x with setup := x.setup.choose choice }
  | event {event : Event} {deed : Option Deed} {shared : Shared}
    (h : Shared.Transition x.setup backend x.shared event deed shared) :
    Passage backend x (.event event) deed { x with shared }

/-- No occurrence does anything but a passage. -/
theorem passage_apply (backend : Backend) (x : Lifetime) (occurrence : Occurrence) :
    Passage backend x occurrence (x.deed? occurrence) (x.apply backend occurrence) := by
  cases occurrence with
  | event event => exact .event (Shared.transition_apply ..)
  | choice choice =>
    rw [apply, deed?]
    cases quiet : x.isQuiet with
    | false => exact .refused choice
    | true =>
      obtain ⟨free, nobody⟩ := Bool.and_eq_true_iff.mp quiet
      exact .chosen choice (Option.isNone_iff_eq_none.mp free) (List.isEmpty_iff.mp nobody)

theorem Passage.guarded (h : Passage backend x occurrence deed x')
    (g : Shared.Guarded x.setup x.shared) : Shared.Guarded x'.setup x'.shared := by
  cases h with
  | refused => exact g
  | event h => exact g.transition h
  | chosen choice free =>
    refine ⟨g.inside_iff, g.waiting_iff, g.nodup, fun t segment own => ?_⟩
    have inside := Phase.isInside_of_segment? own
    rw [g.outside_of_free free] at inside
    cases inside

theorem Passage.settings (h : Passage backend x occurrence deed x') :
    x'.setup.settings = x.setup.settings := by
  cases h with
  | refused | event => rfl
  | chosen choice => exact x.setup.settings_chooseAll [choice]

/-! ## Whole lives -/

theorem guarded_run (g : Shared.Guarded x.setup x.shared) (backend : Backend)
    (occurrences : List Occurrence) :
    Shared.Guarded (x.run backend occurrences).setup (x.run backend occurrences).shared := by
  induction occurrences generalizing x with
  | nil => exact g
  | cons occurrence later ih => exact ih ((passage_apply backend x occurrence).guarded g)

/-- No choice changes the settings. -/
theorem settings_run (backend : Backend) (x : Lifetime) (occurrences : List Occurrence) :
    (x.run backend occurrences).setup.settings = x.setup.settings := by
  induction occurrences generalizing x with
  | nil => rfl
  | cons occurrence later ih =>
    exact (ih (x.apply backend occurrence)).trans (passage_apply backend x occurrence).settings

/-- What holds at first and is kept by every passage holds after any occurrences; it may speak about
these occurrences. -/
theorem run_induction (P : List Occurrence → Prop) (g : Shared.Guarded x.setup x.shared)
    (backend : Backend) (first : P []) {occurrences : List Occurrence}
    (next : ∀ {past : List Occurrence} {occurrence : Occurrence}, occurrence ∈ occurrences →
      Shared.Guarded (x.run backend past).setup (x.run backend past).shared → P past →
      Passage backend (x.run backend past) occurrence ((x.run backend past).deed? occurrence)
        (x.run backend (past ++ [occurrence])) → P (past ++ [occurrence])) :
    P occurrences := by
  induction occurrences using List.reverseRecOn with
  | nil => exact first
  | append_singleton past occurrence ih =>
    refine next (by simp) (guarded_run g backend past) (ih fun member => next (by simp [member])) ?_
    rw [run_append_singleton]
    exact passage_apply ..

theorem joined_append_singleton (backend : Backend) (x : Lifetime) (past : List Occurrence)
    (occurrence : Occurrence) :
    x.joined backend (past ++ [occurrence]) = x.joined backend past ++
      (((x.run backend past).deed? occurrence).bind Deed.batch?).toList := by
  rw [joined, deeds_append_singleton, Shared.filterMap_append_deed, joined]

theorem sheds_append_singleton (backend : Backend) (x : Lifetime) (past : List Occurrence)
    (occurrence : Occurrence) :
    x.sheds backend (past ++ [occurrence]) = x.sheds backend past ++
      (((x.run backend past).deed? occurrence).bind Deed.shed?).toList := by
  rw [sheds, deeds_append_singleton, Shared.filterMap_append_deed, sheds]

theorem Passage.accounted (h : Passage backend x occurrence deed x')
    (g : Shared.Guarded x.setup x.shared) {before : Contents} {joined gone : List (List Message)}
    (a : Accounted before joined gone x.shared.contents) :
    Accounted before (joined ++ (deed.bind Deed.batch?).toList)
      (gone ++ (deed.bind Deed.shed?).toList.map Prod.snd) x'.shared.contents := by
  rw [Deed.map_snd_shed?]
  cases h with
  | event h => exact Shared.accounted_transition a g h
  | refused | chosen =>
    simp only [Option.bind_none, Option.toList_none, List.append_nil]
    exact a

/-- The first messages and the batches that joined are the segments that went and the live
messages, whatever was chosen between. -/
theorem accounted_run (g : Shared.Guarded x.setup x.shared) (backend : Backend)
    (occurrences : List Occurrence) :
    Accounted x.shared.contents (x.joined backend occurrences)
      ((x.sheds backend occurrences).map Prod.snd)
      (x.run backend occurrences).shared.contents := by
  refine run_induction (fun past => Accounted x.shared.contents (x.joined backend past)
    ((x.sheds backend past).map Prod.snd) (x.run backend past).shared.contents) g backend
    (.refl _) ?_
  intro past occurrence _ g a h
  rw [joined_append_singleton, sheds_append_singleton, List.map_append]
  exact h.accounted g a

theorem Passage.cuts (h : Passage backend x occurrence deed x') (ticket : Ticket) :
    (x'.shared.phases ticket).cuts = (x.shared.phases ticket).cuts +
      (deed.bind Deed.shed?).toList.countP fun shed => shed.1 = ticket := by
  have sheds (deed : Option Deed) : ((deed.bind Deed.shed?).toList.countP fun shed =>
      shed.1 = ticket) = deed.toList.countP (Deed.isShedOf ticket) := by
    rcases deed with _ | ⟨_ | _ | _⟩ <;> rfl
  rw [sheds]
  cases h with
  | event h => exact h.cuts ticket
  | refused | chosen => rfl

/-- An append has shed once if it is finished and not a noop, and else never. -/
theorem cuts_run (setup : Setup) (contents : Contents) (earlier : List Call) (backend : Backend)
    (occurrences : List Occurrence) (ticket : Ticket) :
    (((start setup contents earlier).sheds backend occurrences).countP fun shed =>
        shed.1 = ticket) =
      (((start setup contents earlier).run backend occurrences).shared.phases ticket).cuts := by
  refine run_induction (x := start setup contents earlier)
    (fun past => (((start setup contents earlier).sheds backend past).countP fun shed =>
        shed.1 = ticket) =
      (((start setup contents earlier).run backend past).shared.phases ticket).cuts)
    (.start setup contents earlier) backend rfl ?_
  intro past occurrence _ _ counted h
  rw [sheds_append_singleton, List.countP_append, counted, h.cuts ticket]

end Lifetime

end RollingHistory
