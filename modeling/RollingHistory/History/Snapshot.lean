import RollingHistory.History.Basic
import RollingHistory.Message.Codec

/-!
Histories as JSON.

A snapshot holds the contents and the two thresholds. Everything but the messages may be missing:
then nothing was ever cut, and the thresholds are the reader's own. The messages may also stand
under the key that a plain archive uses. `History.restore` puts a snapshot's thresholds over those
of the settings and refuses the result only if it is not valid.
-/

namespace RollingHistory

/-- The contents of a history, and its thresholds if they are known. -/
structure Snapshot where
  contents : Contents
  limit : Option UInt64
  keep : Option UInt64
  deriving Inhabited, Repr

/-- Why no history could be made. -/
inductive LoadError where
  | malformed (error : DecodeError)
  | thresholds (error : ThresholdError)
  deriving DecidableEq, Repr

/-- The wording. -/
def LoadError.message : LoadError → String
  | .malformed error => "malformed conversation state: " ++ error.message
  | .thresholds error => error.message

namespace Snapshot

/-- Equality, message by message. -/
def equals (a b : Snapshot) : Bool :=
  a.contents.live.isEqv b.contents.live Message.equals && a.contents.summary == b.contents.summary
    && a.contents.tally == b.contents.tally && a.limit == b.limit && a.keep == b.keep

/-- The snapshot with the roles of its messages in normal form. -/
def normalize (s : Snapshot) : Snapshot :=
  { s with contents := { s.contents with live := s.contents.live.map Message.normalize } }

/-- A threshold as a member, if it is known. -/
def threshold (key : String) (value : Option UInt64) : List (String × Json) :=
  (value.map fun count => (key, Json.integer count.toNat)).toList

/-- The summary, or null. -/
def encodeSummary : Option String → Json
  | none => .null
  | some summary => .string summary

/-- The snapshot as an object. Thresholds that are not known are not written, but a missing summary
is written as null. -/
def encode (s : Snapshot) : Json :=
  .object (threshold "compress_to" s.keep
    ++ [("compression_count", .integer s.contents.tally.cuts.toNat),
      ("compression_summary", encodeSummary s.contents.summary),
      ("liveMessages", .array (s.contents.live.map Message.encode))]
    ++ threshold "max_messages" s.limit
    ++ [("total_compressed_messages", .integer s.contents.tally.removed.toNat)])

open Decode

/-- The row that holds a snapshot. -/
def row : Row := ⟨"struct PersistedState", 6⟩

/-- The messages under their second key. Both keys at once are one field given twice. -/
def otherMessages? (members : List (String × Json)) (live : Option (List Message)) :
    Except DecodeError (Option (List Message)) :=
  match live, members.lookup "messages" with
  | live, none => .ok live
  | some _, some _ => .error (.duplicateField "liveMessages")
  | none, some value => some <$> Decode.list Message.decode value

/-- Reads a snapshot. -/
def decode : Decoder Snapshot
  | .object members => do
    let keep ← member? members "compress_to" (nullable (count64 .size))
    let cuts ← member? members "compression_count" (count64 .count64)
    let summary ← member? members "compression_summary" (nullable string)
    let live ← member? members "liveMessages" (Decode.list Message.decode)
    let limit ← member? members "max_messages" (nullable (count64 .size))
    let live ← otherMessages? members live
    let removed ← member? members "total_compressed_messages" (count64 .count64)
    let live ← required "liveMessages" live
    return ⟨⟨live, summary.join, ⟨cuts.getD 0, removed.getD 0⟩⟩, limit.join, keep.join⟩
  | .array items => do
    let live ← item row items 0 (Decode.list Message.decode)
    let summary ← itemOr none items 1 (nullable string)
    let cuts ← itemOr 0 items 2 (count64 .count64)
    let removed ← itemOr 0 items 3 (count64 .count64)
    let limit ← itemOr none items 4 (nullable (count64 .size))
    let keep ← itemOr none items 5 (nullable (count64 .size))
    noMore items row.width
    return ⟨⟨live, summary, ⟨cuts, removed⟩⟩, limit, keep⟩
  | value => mismatch (.record "PersistedState") value

/-- A snapshot is read back with its roles in normal form, and is otherwise as it was. -/
theorem decode_encode (s : Snapshot) : decode s.encode = .ok s.normalize := by
  obtain ⟨⟨live, summary, ⟨cuts, removed⟩⟩, limit, keep⟩ := s
  have messages := Decode.each_map Message.decode_encode live
  cases summary <;> cases limit <;> cases keep <;>
    simp [decode, encode, threshold, encodeSummary, otherMessages?, Decode.list, nullable,
      count64_ofNat, messages, normalize, member?, List.lookup_cons, bind, pure, Except.bind,
      Except.pure, Functor.map, Except.map]

/-- The settings, with the snapshot's thresholds where it has any. -/
def settings (s : Snapshot) (own : Settings) : Settings :=
  { own with limit := s.limit.getD own.limit, keep := s.keep.getD own.keep }

/-- Reads a snapshot, as a step of making a history. -/
def load (value : Json) : Except LoadError Snapshot := (decode value).mapError .malformed

end Snapshot

namespace History

/-- The snapshot of a history. It holds neither the hints nor the capabilities. -/
def snapshot (h : History) : Snapshot :=
  { contents := h.contents, limit := h.setup.settings.limit, keep := h.setup.settings.keep }

/-- The history of a snapshot, with no capabilities yet. -/
def restore (s : Snapshot) (settings : Settings) : Except LoadError History := do
  let setup ← (Setup.ofSettings (s.settings settings)).mapError .thresholds
  return ⟨setup, s.contents⟩

/-- The snapshot as JSON. -/
def toJson (h : History) : Json := h.snapshot.encode

/-- The history of a snapshot in JSON. -/
def ofJson (value : Json) (settings : Settings) : Except LoadError History := do
  restore (← Snapshot.load value) settings

end History

end RollingHistory
