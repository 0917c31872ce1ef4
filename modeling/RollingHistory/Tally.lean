import RollingHistory.Json.Decode

/-!
What a history has been through, in numbers.

A `Tally` counts the cuts and the messages they took away, in 64-bit counters. A `Report` is a
tally together with what there is now.
-/

namespace RollingHistory

/-- The number of cuts, and of the messages cut off. -/
structure Tally where
  cuts : UInt64
  removed : UInt64
  deriving DecidableEq, Repr

namespace Tally

/-- Nothing was cut. -/
def zero : Tally := ⟨0, 0⟩

instance : Inhabited Tally := ⟨zero⟩

/-- One more cut, of `n` messages. -/
def record (tally : Tally) (n : Nat) : Tally :=
  ⟨tally.cuts + 1, tally.removed + UInt64.ofNat n⟩

/-- The tally as an object. -/
def encode (tally : Tally) : Json :=
  .object [("compaction_count", .integer tally.cuts.toNat),
    ("total_compacted_messages", .integer tally.removed.toNat)]

open Decode

/-- The row that holds a tally. -/
def row : Row := ⟨"struct CompactionStats", 2⟩

/-- Reads a tally. -/
def decode : Decoder Tally
  | .object members => do
    let cuts ← member? members "compaction_count" (count64 .count64)
    let removed ← member? members "total_compacted_messages" (count64 .count64)
    return ⟨← required "compaction_count" cuts, ← required "total_compacted_messages" removed⟩
  | .array items => do
    let cuts ← item row items 0 (count64 .count64)
    let removed ← item row items 1 (count64 .count64)
    noMore items row.width
    return ⟨cuts, removed⟩
  | value => mismatch (.record "CompactionStats") value

/-- A tally is read back as it was written. -/
theorem decode_encode (tally : Tally) : decode tally.encode = .ok tally := by
  simp [decode, encode, member?, List.lookup_cons, count64_ofNat, bind, pure, Except.bind,
    Except.pure, Functor.map, Except.map]

end Tally

/-- The numbers of a history: its length, its tally, and its summary's length in characters. -/
structure Report where
  current : Nat
  tally : Tally
  hasSummary : Bool
  summaryLength : Nat
  deriving DecidableEq, Repr

namespace Report

/-- The report as an object. -/
def encode (report : Report) : Json :=
  .object [("compaction_count", .integer report.tally.cuts.toNat),
    ("current_messages", .integer report.current), ("has_summary", .bool report.hasSummary),
    ("summary_length", .integer report.summaryLength),
    ("total_compacted_messages", .integer report.tally.removed.toNat)]

open Decode

/-- The row that holds a report. -/
def row : Row := ⟨"struct StoreStats", 5⟩

/-- Reads a report. -/
def decode : Decoder Report
  | .object members => do
    let cuts ← member? members "compaction_count" (count64 .count64)
    let current ← member? members "current_messages" (count64 .size)
    let hasSummary ← member? members "has_summary" bool
    let summaryLength ← member? members "summary_length" (count64 .size)
    let removed ← member? members "total_compacted_messages" (count64 .count64)
    let current ← required "current_messages" current
    let cuts ← required "compaction_count" cuts
    let removed ← required "total_compacted_messages" removed
    let hasSummary ← required "has_summary" hasSummary
    let summaryLength ← required "summary_length" summaryLength
    return ⟨current.toNat, ⟨cuts, removed⟩, hasSummary, summaryLength.toNat⟩
  | .array items => do
    let current ← item row items 0 (count64 .size)
    let cuts ← item row items 1 (count64 .count64)
    let removed ← item row items 2 (count64 .count64)
    let hasSummary ← item row items 3 bool
    let summaryLength ← item row items 4 (count64 .size)
    noMore items row.width
    return ⟨current.toNat, ⟨cuts, removed⟩, hasSummary, summaryLength.toNat⟩
  | value => mismatch (.record "StoreStats") value

end Report

end RollingHistory
