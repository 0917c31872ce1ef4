import RollingHistory.History.Append

/-!
What one append sheds.

A history has an excess exactly if it is longer than its limit and may be cut, and the excess is
all but the messages to keep (`excess?_eq_some_iff`). An append either leaves everything
(`append_of_excess_none`) or runs one round over the excess and commits it (`append_of_excess`).
-/

namespace RollingHistory

namespace Outcome

@[simp] theorem ofRound_ne_noop (count : Nat) (round : Round) : ofRound count round ≠ noop := by
  cases round <;> simp [ofRound]

theorem isNoop_iff {outcome : Outcome} : outcome.isNoop = true ↔ outcome = noop := by
  cases outcome <;> simp [isNoop]

end Outcome

namespace Contents

@[simp] theorem live_commit (contents : Contents) (removed : Nat) (round : Round) :
    (contents.commit removed round).live = contents.live.drop removed := rfl

@[simp] theorem tally_commit (contents : Contents) (removed : Nat) (round : Round) :
    (contents.commit removed round).tally = contents.tally.record removed := rfl

@[simp] theorem tally_extend (contents : Contents) (batch : List Message) :
    (contents.extend batch).tally = contents.tally := rfl

end Contents

namespace Setup

variable {setup : Setup} {backend : Backend} {earlier : List Call} {contents : Contents}
  {batch segment : List Message}

/-! ## The excess -/

theorem excess?_eq_some_iff :
    setup.excess? contents = some segment ↔
      setup.settings.enabled = true ∧ setup.settings.limit.toNat < contents.live.length ∧
        segment = contents.live.take (contents.live.length - setup.settings.keep.toNat) := by
  have below := setup.keep_lt_limit
  simp only [excess?, Option.map_eq_some_iff, Thresholds.cut?_eq_some_iff]
  constructor
  · rintro ⟨n, ⟨enabled, tooLong, -, rfl⟩, rfl⟩
    exact ⟨enabled, tooLong, rfl⟩
  · rintro ⟨enabled, tooLong, rfl⟩
    exact ⟨_, ⟨enabled, tooLong, by omega, rfl⟩, rfl⟩

theorem excess?_eq_none_iff :
    setup.excess? contents = none ↔
      (setup.settings.enabled = true → contents.live.length ≤ setup.settings.limit.toNat) := by
  rw [Option.eq_none_iff_forall_ne_some]
  constructor
  · intro h enabled
    exact Nat.le_of_not_lt fun tooLong => h _ (excess?_eq_some_iff.mpr ⟨enabled, tooLong, rfl⟩)
  · intro h segment hs
    obtain ⟨enabled, tooLong, -⟩ := excess?_eq_some_iff.mp hs
    exact absurd (h enabled) (Nat.not_le_of_lt tooLong)

theorem length_of_excess (h : setup.excess? contents = some segment) :
    segment.length = contents.live.length - setup.settings.keep.toNat := by
  obtain ⟨-, -, rfl⟩ := excess?_eq_some_iff.mp h
  rw [List.length_take]
  omega

/-- The excess is what stands in front, and the messages to keep stand behind it. -/
theorem excess_append_drop (h : setup.excess? contents = some segment) :
    segment ++ contents.live.drop segment.length = contents.live := by
  have length := length_of_excess h
  obtain ⟨-, -, rfl⟩ := excess?_eq_some_iff.mp h
  rw [length]
  exact List.take_append_drop ..

theorem length_drop_of_excess (h : setup.excess? contents = some segment) :
    (contents.live.drop segment.length).length = setup.settings.keep.toNat := by
  have below := setup.keep_lt_limit
  obtain ⟨-, tooLong, -⟩ := excess?_eq_some_iff.mp h
  rw [List.length_drop, length_of_excess h]
  omega

/-! ## One append -/

theorem shed_of_excess (h : setup.excess? contents = some segment) (backend : Backend)
    (earlier : List Call) :
    setup.shed backend earlier contents =
      let result := (setup.round contents segment).run backend earlier
      let after := contents.commit segment.length result.1
      ⟨.ofRound segment.length result.1, after, result.2,
        setup.trigger contents segment.length
          :: result.1.records segment.length after.tally.cuts.toNat⟩ := by
  simp only [shed, h]

theorem append_of_excess_none (h : setup.excess? (contents.extend batch) = none)
    (backend : Backend) (earlier : List Call) :
    setup.append backend earlier contents batch = ⟨.noop, contents.extend batch, [], []⟩ :=
  shed_of_excess_none h backend earlier

theorem append_of_excess (h : setup.excess? (contents.extend batch) = some segment)
    (backend : Backend) (earlier : List Call) :
    setup.append backend earlier contents batch =
      let result := (setup.round (contents.extend batch) segment).run backend earlier
      let after := (contents.extend batch).commit segment.length result.1
      ⟨.ofRound segment.length result.1, after, result.2,
        setup.trigger (contents.extend batch) segment.length
          :: result.1.records segment.length after.tally.cuts.toNat⟩ :=
  shed_of_excess h backend earlier

/-- An append that comes to nothing has only joined its batch. -/
theorem append_of_noop (h : (setup.append backend earlier contents batch).outcome = .noop) :
    setup.append backend earlier contents batch = ⟨.noop, contents.extend batch, [], []⟩ := by
  cases excess : setup.excess? (contents.extend batch) with
  | none => exact append_of_excess_none excess backend earlier
  | some segment =>
    rw [append_of_excess excess] at h
    exact absurd h (Outcome.ofRound_ne_noop _ _)

end Setup

end RollingHistory
