import RollingHistory.Thresholds
import RollingHistory.Json.Decode

/-!
The settings of a history: its thresholds, and how long a summary may get.

The two hints are passed on to whoever writes the summaries; merging two summaries is allowed
`mergeExtra` more than writing one. As JSON every field may be left out.
-/

namespace RollingHistory

/-- Thresholds, and hints for the length of a summary. -/
structure Settings extends Thresholds where
  summaryTokens : UInt32
  mergeExtra : UInt32
  deriving DecidableEq, Repr

namespace Settings

/-- Fifty messages, of which ten are kept, and summaries of a thousand tokens. -/
def standard : Settings :=
  { limit := 50, keep := 10, enabled := true, summaryTokens := 1000, mergeExtra := 500 }

instance : Inhabited Settings := ⟨standard⟩

/-- The hint for merging two summaries: the sum, or the largest hint if the sum is beyond it. -/
def mergeTokens (s : Settings) : UInt32 :=
  UInt32.ofNat (min (UInt32.size - 1) (s.summaryTokens.toNat + s.mergeExtra.toNat))

theorem toNat_mergeTokens (s : Settings) :
    s.mergeTokens.toNat = min (UInt32.size - 1) (s.summaryTokens.toNat + s.mergeExtra.toNat) := by
  unfold mergeTokens UInt32.size
  rw [UInt32.toNat_ofNat']
  omega

/-- The settings as an object with all five fields. -/
def encode (s : Settings) : Json :=
  .object [("compress_to", .integer s.keep.toNat), ("enable_compression", .bool s.enabled),
    ("max_messages", .integer s.limit.toNat), ("merge_extra_tokens", .integer s.mergeExtra.toNat),
    ("summary_max_tokens", .integer s.summaryTokens.toNat)]

open Decode

/-- Reads settings; a field that is left out has its standard value. -/
def decode : Decoder Settings
  | .object members => do
    let keep ← member? members "compress_to" (count64 .size)
    let enabled ← member? members "enable_compression" bool
    let limit ← member? members "max_messages" (count64 .size)
    let mergeExtra ← member? members "merge_extra_tokens" count32
    let summaryTokens ← member? members "summary_max_tokens" count32
    return {
      limit := limit.getD standard.limit
      keep := keep.getD standard.keep
      summaryTokens := summaryTokens.getD standard.summaryTokens
      mergeExtra := mergeExtra.getD standard.mergeExtra
      enabled := enabled.getD standard.enabled }
  | .array items => do
    let limit ← itemOr standard.limit items 0 (count64 .size)
    let keep ← itemOr standard.keep items 1 (count64 .size)
    let summaryTokens ← itemOr standard.summaryTokens items 2 count32
    let mergeExtra ← itemOr standard.mergeExtra items 3 count32
    let enabled ← itemOr standard.enabled items 4 bool
    noMore items 5
    return { limit, keep, summaryTokens, mergeExtra, enabled }
  | value => mismatch (.record "CompressionConfig") value

/-- Settings are read back as they were written. -/
theorem decode_encode (s : Settings) : decode s.encode = .ok s := by
  simp [decode, encode, member?, List.lookup_cons, count64_ofNat, count32_ofNat, bind, pure,
    Except.bind, Except.pure, Functor.map, Except.map]

end Settings

end RollingHistory
