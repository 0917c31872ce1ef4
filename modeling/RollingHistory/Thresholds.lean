/-!
When a history is cut, and to what length.

A history longer than `limit` is cut down to its last `keep` messages. `check` refuses thresholds
under which a cut would not shorten; `check_eq_ok_iff` says that it refuses no others. `cut?` is
safe under any thresholds: it never asks for an empty cut (`cut?_eq_some_iff`).
-/

namespace RollingHistory

/-- The length above which a history is cut, the length it is cut to, and whether it is cut. -/
structure Thresholds where
  limit : UInt64
  keep : UInt64
  enabled : Bool
  deriving DecidableEq, Repr

/-- What is wrong with thresholds. -/
inductive ThresholdError where
  | zeroLimit
  | keepsTooMuch (keep limit : UInt64)
  deriving DecidableEq, Repr

/-- The wording. -/
def ThresholdError.message : ThresholdError → String
  | .zeroLimit => "max_messages must be greater than zero"
  | .keepsTooMuch keep limit =>
    "compress_to (" ++ keep.toNat.repr ++ ") must be less than max_messages ("
      ++ limit.toNat.repr ++ ")"

namespace Thresholds

/-- A cut shortens whatever history is too long. -/
def Valid (t : Thresholds) : Prop := t.keep < t.limit

instance (t : Thresholds) : Decidable t.Valid := inferInstanceAs (Decidable (t.keep < t.limit))

/-- Refuses thresholds that are not valid, a limit of zero under its own name. -/
def check (t : Thresholds) : Except ThresholdError Unit :=
  if t.limit = 0 then .error .zeroLimit
  else if t.limit ≤ t.keep then .error (.keepsTooMuch t.keep t.limit)
  else .ok ()

/-- A history of that length is too long. -/
def overflows (t : Thresholds) (length : Nat) : Bool := t.enabled && t.limit.toNat < length

/-- The number of messages to cut off the front of a history of that length. -/
def cut? (t : Thresholds) (length : Nat) : Option Nat :=
  if t.overflows length ∧ t.keep.toNat < length then some (length - t.keep.toNat) else none

theorem check_eq_ok_iff {t : Thresholds} : t.check = .ok () ↔ t.Valid := by
  have zero : t.limit = 0 ↔ t.limit.toNat = 0 := UInt64.toNat_inj.symm
  have atMost : t.limit ≤ t.keep ↔ t.limit.toNat ≤ t.keep.toNat := UInt64.le_iff_toNat_le
  have below : t.Valid ↔ t.keep.toNat < t.limit.toNat := UInt64.lt_iff_toNat_lt
  rw [below, check, ite_congr (propext zero) (fun _ => rfl) (fun _ => rfl),
    ite_congr (propext atMost) (fun _ => rfl) (fun _ => rfl)]
  split
  · exact ⟨nofun, fun _ => by omega⟩
  · split
    · exact ⟨nofun, fun _ => by omega⟩
    · exact ⟨fun _ => by omega, fun _ => rfl⟩

theorem cut?_eq_some_iff {t : Thresholds} {length n : Nat} :
    t.cut? length = some n ↔
      t.enabled ∧ t.limit.toNat < length ∧ t.keep.toNat < length ∧ n = length - t.keep.toNat := by
  simp only [cut?, overflows, Bool.and_eq_true, decide_eq_true_eq]
  split
  · rename_i h
    exact ⟨fun hn => ⟨h.1.1, h.1.2, h.2, (Option.some.inj hn).symm⟩, fun hn => by rw [hn.2.2.2]⟩
  · rename_i h
    exact ⟨nofun, fun hn => absurd ⟨⟨hn.1, hn.2.1⟩, hn.2.2.1⟩ h⟩

end Thresholds

end RollingHistory
