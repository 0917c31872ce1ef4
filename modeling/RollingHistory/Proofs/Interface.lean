import RollingHistory.Capability.Scripted
import RollingHistory.History.Snapshot
import RollingHistory.Proofs.Decoding

/-!
What a history is used through.

Its owner makes it (`Origin`) and chooses its capabilities (`Choice`); its readers look at it
(`Reading`). `settings_build` says which settings a new history has, and that no choice changes
them.
-/

namespace RollingHistory

/-! ## Readers -/

/-- What a reader can ask for. -/
inductive Reading where
  | list
  | live
  | summary
  | report
  | snapshot
  deriving DecidableEq, Repr

/-- What a reader is told. -/
inductive View where
  | messages (messages : List Message)
  | summary (summary : Option String)
  | report (report : Report)
  | snapshot (snapshot : Snapshot)

/-- The view that a reader gets of contents under a setup. -/
def Setup.look (setup : Setup) (contents : Contents) : Reading → View
  | .list => .messages contents.list
  | .live => .messages contents.live
  | .summary => .summary contents.summary
  | .report => .report contents.report
  | .snapshot => .snapshot (History.snapshot ⟨setup, contents⟩)

/-! ## Owners -/

/-- A way to make a history. -/
inductive Origin where
  | empty (settings : Settings)
  | ofMessages (settings : Settings) (live : List Message)
  | ofSnapshot (snapshot : Snapshot) (own : Settings)
  | ofJson (value : Json) (own : Settings)

namespace Origin

/-- The history that is made, if it can be. -/
def build : Origin → Except LoadError History
  | empty settings => (History.empty settings).mapError .thresholds
  | ofMessages settings live => (History.ofMessages settings live).mapError .thresholds
  | ofSnapshot snapshot own => History.restore snapshot own
  | ofJson value own => History.ofJson value own

/-- The settings in effect: a snapshot's thresholds go before the reader's own. -/
def settings : Origin → Except LoadError Settings
  | empty settings | ofMessages settings _ => .ok settings
  | ofSnapshot snapshot own => .ok (snapshot.settings own)
  | ofJson value own => return (← Snapshot.load value).settings own

end Origin

/-- A choice of a capability, or of none. -/
inductive Choice where
  | summarizer (capability : Option String)
  | merger (capability : Option String)

namespace Setup

/-- The setup after one more choice. -/
def choose (setup : Setup) : Choice → Setup
  | .summarizer capability => setup.withSummarizer capability
  | .merger capability => setup.withMerger capability

/-- The setup after some choices in order. -/
def chooseAll (setup : Setup) (choices : List Choice) : Setup := choices.foldl choose setup

/-- Choices that lead to a setup from one without capabilities. -/
def choices (setup : Setup) : List Choice :=
  .summarizer setup.summarizer :: (setup.merger.map Choice.merger).toList

/-- The setup without capabilities. -/
def bare (setup : Setup) : Setup := { setup with summarizer := none, merger := none }

theorem chooseAll_append (setup : Setup) (as bs : List Choice) :
    setup.chooseAll (as ++ bs) = (setup.chooseAll as).chooseAll bs :=
  List.foldl_append ..

theorem settings_chooseAll (setup : Setup) (choices : List Choice) :
    (setup.chooseAll choices).settings = setup.settings := by
  induction choices generalizing setup with
  | nil => rfl
  | cons choice choices ih =>
    have head : (setup.choose choice).settings = setup.settings := by
      cases choice <;> rfl
    exact (ih (setup.choose choice)).trans head

theorem chooseAll_choices (setup : Setup) : setup.bare.chooseAll setup.choices = setup := by
  obtain ⟨settings, summarizer, merger, valid⟩ := setup
  cases merger <;> rfl

theorem ofSettings_of_valid {settings : Settings} (h : settings.Valid) :
    ofSettings settings = .ok { settings, valid := h } := by
  have checked := Thresholds.check_eq_ok_iff.mpr h
  unfold ofSettings
  split
  · rfl
  · rename_i failed
    rw [checked] at failed
    cases failed

theorem settings_ofSettings {settings : Settings} {setup : Setup}
    (h : ofSettings settings = .ok setup) : setup.settings = settings := by
  unfold ofSettings at h
  split at h
  · cases h
    rfl
  · cases h

end Setup

/-! ## Making a history -/

theorem eq_ok_of_mapError_eq_ok {ε ε' α : Type} {x : Except ε α} {f : ε → ε'} {a : α}
    (h : x.mapError f = .ok a) : x = .ok a := by
  cases x with
  | error e => cases h
  | ok b => cases h; rfl

namespace History

theorem settings_ofMessages {settings : Settings} {live : List Message} {h : History}
    (built : ofMessages settings live = .ok h) : h.setup.settings = settings := by
  obtain ⟨setup, made, rest⟩ := bind_eq_ok_iff.mp built
  cases rest
  exact Setup.settings_ofSettings made

theorem settings_restore {snapshot : Snapshot} {own : Settings} {h : History}
    (built : restore snapshot own = .ok h) : h.setup.settings = snapshot.settings own := by
  obtain ⟨setup, made, rest⟩ := bind_eq_ok_iff.mp built
  cases rest
  exact Setup.settings_ofSettings (eq_ok_of_mapError_eq_ok made)

end History

/-- A history has the settings of its origin. -/
theorem Origin.settings_build {origin : Origin} {h : History} (built : origin.build = .ok h) :
    origin.settings = .ok h.setup.settings := by
  cases origin with
  | empty settings =>
    rw [History.settings_ofMessages (eq_ok_of_mapError_eq_ok built)]
    rfl
  | ofMessages settings live =>
    rw [History.settings_ofMessages (eq_ok_of_mapError_eq_ok built)]
    rfl
  | ofSnapshot snapshot own =>
    rw [History.settings_restore built]
    rfl
  | ofJson value own =>
    obtain ⟨snapshot, loaded, restored⟩ := bind_eq_ok_iff.mp built
    rw [History.settings_restore restored]
    simp only [Origin.settings, loaded]
    rfl

/-! ## A small history -/

/-- Keeps one of at most two messages, and asks a capability for summaries. -/
def Setup.narrow : Setup :=
  { settings := { Settings.standard with limit := 2, keep := 1 }, summarizer := some "writer"
    valid := by decide }

/-- Answers every query with nothing but the number of queries so far. -/
def Backend.numbered : Backend := Script.answer ⟨[], Script.numbered⟩

/-- Settings that no history can be made with unless a snapshot has other thresholds. -/
def Settings.unusable : Settings := { Settings.standard with limit := 0 }

end RollingHistory
