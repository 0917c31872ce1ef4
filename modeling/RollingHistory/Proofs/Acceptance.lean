import RollingHistory.Proofs.Decoding
import RollingHistory.Proofs.Interface

/-!
Which values a history can be made of.

`Snapshot.Denotes` is the grammar of snapshots, said of the raw value: where each field stands, what
may stand there, and which fields may be missing. A snapshot is read from exactly the values of the
grammar (`decode_eq_ok_iff`), so a value outside of it is malformed whatever the settings are, and
with one inside only the thresholds in effect decide (`ofJson_accepts`).
-/

namespace RollingHistory

namespace Snapshot

/-! ## The grammar -/

section Fields

variable {α : Type}

/-- A field that stands for no value if it is absent or null, and else holds one of the form. -/
inductive Nullable (form : Json → α → Prop) : Option Json → Option α → Prop
  | absent : Nullable form none none
  | null : Nullable form (some .null) none
  | given {value : Json} {a : α} (h : form value a) : Nullable form (some value) (some a)

/-- A field that has a standard value if it is absent, and else holds one of the form. -/
inductive Defaulted (standard : α) (form : Json → α → Prop) : Option Json → α → Prop
  | absent : Defaulted standard form none standard
  | given {value : Json} {a : α} (h : form value a) : Defaulted standard form (some value) a

end Fields

/-- The value is a text. -/
def IsText (value : Json) (text : String) : Prop := value = .string text

/-- The value is an integer from zero to the largest that 64 bits hold. -/
def IsCount (value : Json) (count : UInt64) : Prop := value = .integer count.toNat

/-- The value is an array of messages. -/
def AreMessages (value : Json) (messages : List Message) : Prop :=
  ∃ items, value = .array items ∧ items.map Message.decode = messages.map .ok

/-- The fields of a snapshot, each with the value that it is given if it is given one. -/
structure Fields where
  messages : Json
  summary : Option Json
  cuts : Option Json
  removed : Option Json
  limit : Option Json
  keep : Option Json

/-- The fields hold the parts of a snapshot. -/
structure Fields.Hold (fields : Fields) (s : Snapshot) : Prop where
  messages : AreMessages fields.messages s.contents.live
  summary : Nullable IsText fields.summary s.contents.summary
  cuts : Defaulted 0 IsCount fields.cuts s.contents.tally.cuts
  removed : Defaulted 0 IsCount fields.removed s.contents.tally.removed
  limit : Nullable IsCount fields.limit s.limit
  keep : Nullable IsCount fields.keep s.keep

/-- The messages stand under exactly one of their two keys. -/
inductive HasMessages (members : List (String × Json)) (messages : Json) : Prop
  | own (given : members.lookup "liveMessages" = some messages)
    (other : members.lookup "messages" = none)
  | plain (own : members.lookup "liveMessages" = none)
    (given : members.lookup "messages" = some messages)

/-- Where the fields stand: in an object under their keys, any other member being ignored, or in an
array of at most six items in order. -/
inductive HasFields : Json → Fields → Prop
  | object {members : List (String × Json)} {messages : Json}
    (live : HasMessages members messages) :
    HasFields (.object members)
      { messages
        summary := members.lookup "compression_summary"
        cuts := members.lookup "compression_count"
        removed := members.lookup "total_compressed_messages"
        limit := members.lookup "max_messages"
        keep := members.lookup "compress_to" }
  | row {messages : Json} {rest : List Json} (short : rest.length ≤ 5) :
    HasFields (.array (messages :: rest))
      { messages, summary := rest[0]?, cuts := rest[1]?, removed := rest[2]?, limit := rest[3]?
        keep := rest[4]? }

/-- The value is the written form of a snapshot. -/
def Denotes (value : Json) (s : Snapshot) : Prop := ∃ fields, HasFields value fields ∧ fields.Hold s

/-! ## The decoder reads the grammar -/

open Decode

section Fields

variable {α : Type} {decode : Decoder α} {form : Json → α → Prop} {found : Option Json}

/-- Reads a field if it is there. -/
def field? (found : Option Json) (decode : Decoder α) : Except DecodeError (Option α) :=
  match found with
  | none => .ok none
  | some value => some <$> decode value

theorem member?_eq (members : List (String × Json)) (key : String) (decode : Decoder α) :
    member? members key decode = field? (members.lookup key) decode := by
  unfold member? field?
  cases members.lookup key <;> rfl

theorem itemOr_eq (standard : α) (items : List Json) (i : Nat) (decode : Decoder α) :
    itemOr standard items i decode = (·.getD standard) <$> field? items[i]? decode := by
  unfold itemOr field?
  cases items[i]? with
  | none => rfl
  | some value => cases h : decode value <;> simp [h]

theorem itemOr_nullable_eq (items : List Json) (i : Nat) (decode : Decoder α) :
    itemOr none items i (nullable decode) = Option.join <$> field? items[i]? (nullable decode) := by
  unfold itemOr field?
  cases items[i]? with
  | none => rfl
  | some value => cases h : nullable decode value <;> simp [h]

theorem getD_field?_iff (reads : ∀ value a, decode value = .ok a ↔ form value a) {standard a : α} :
    (·.getD standard) <$> field? found decode = .ok a ↔ Defaulted standard form found a := by
  unfold field?
  cases found with
  | none =>
    constructor
    · intro h
      cases h
      exact .absent
    · rintro ⟨⟩
      rfl
  | some value =>
    simp only [map_eq_ok_iff]
    constructor
    · rintro ⟨_, ⟨b, read, rfl⟩, rfl⟩
      exact .given ((reads value b).mp read)
    · rintro (_ | h)
      exact ⟨_, ⟨a, (reads value a).mpr h, rfl⟩, rfl⟩

theorem join_field?_iff (reads : ∀ value a, decode value = .ok a ↔ form value a)
    (strict : ∀ a, ¬ form .null a) {a : Option α} :
    Option.join <$> field? found (nullable decode) = .ok a ↔ Nullable form found a := by
  unfold field?
  cases found with
  | none =>
    constructor
    · intro h
      cases h
      exact .absent
    · rintro ⟨⟩
      rfl
  | some value =>
    simp only [map_eq_ok_iff]
    constructor
    · rintro ⟨_, ⟨b, read, rfl⟩, rfl⟩
      cases b with
      | none =>
        rw [nullable_eq_none_iff.mp read]
        exact .null
      | some b => exact .given ((reads value b).mp (nullable_eq_some_iff.mp read).2)
    · rintro (_ | _ | h)
      · exact ⟨_, ⟨none, rfl, rfl⟩, rfl⟩
      · refine ⟨_, ⟨some _, nullable_eq_some_iff.mpr ⟨?_, (reads value _).mpr h⟩, rfl⟩, rfl⟩
        rintro rfl
        exact strict _ h

end Fields

theorem count64_reads (expected : Expected) (value : Json) (count : UInt64) :
    count64 expected value = .ok count ↔ IsCount value count := count64_eq_ok_iff

theorem string_reads (value : Json) (text : String) :
    string value = .ok text ↔ IsText value text := string_eq_ok_iff

theorem not_isCount_null (count : UInt64) : ¬ IsCount .null count := nofun

theorem not_isText_null (text : String) : ¬ IsText .null text := nofun

/-- The messages are read under one of their keys if they do not stand under the other. -/
theorem messages_iff {members : List (String × Json)} {messages : List Message} :
    (∃ live, member? members "liveMessages" (Decode.list Message.decode) = .ok live ∧
        otherMessages? members live = .ok (some messages)) ↔
      ∃ value, HasMessages members value ∧ AreMessages value messages := by
  constructor
  · rintro ⟨live, own, read⟩
    unfold otherMessages? at read
    split at read
    · rename_i other
      cases read
      obtain ⟨value, given, read⟩ := member?_eq_some_iff.mp own
      exact ⟨value, .own given other, list_eq_ok_iff.mp read⟩
    · cases read
    · rename_i value given
      obtain ⟨_, read, same⟩ := map_eq_ok_iff.mp read
      cases same
      exact ⟨value, .plain (member?_eq_none_iff.mp own) given, list_eq_ok_iff.mp read⟩
  · rintro ⟨value, live, read⟩
    have read := list_eq_ok_iff.mpr read
    cases live with
    | own given other =>
      refine ⟨some messages, member?_of_lookup given read, ?_⟩
      simp only [otherMessages?, other]
    | plain own given =>
      refine ⟨none, member?_of_lookup_none own _, ?_⟩
      simp only [otherMessages?, given, read]
      rfl

theorem decode_object_eq_ok_iff {members : List (String × Json)} {s : Snapshot} :
    decode (.object members) = .ok s ↔ Denotes (.object members) s := by
  simp only [decode, bind_eq_ok_iff, pure_eq_ok_iff, required_eq_ok_iff, member?_eq]
  constructor
  · rintro ⟨keep, hk, cuts, hc, summary, hs, own, ho, limit, hl, live, hm, removed, hr, messages,
      rfl, rfl⟩
    obtain ⟨value, live, read⟩ := messages_iff.mp ⟨own, by rw [member?_eq, ho], hm⟩
    exact ⟨_, .object live, read,
      (join_field?_iff string_reads not_isText_null).mp (map_eq_ok_iff.mpr ⟨summary, hs, rfl⟩),
      (getD_field?_iff (count64_reads _)).mp (map_eq_ok_iff.mpr ⟨cuts, hc, rfl⟩),
      (getD_field?_iff (count64_reads _)).mp (map_eq_ok_iff.mpr ⟨removed, hr, rfl⟩),
      (join_field?_iff (count64_reads _) not_isCount_null).mp (map_eq_ok_iff.mpr ⟨limit, hl, rfl⟩),
      (join_field?_iff (count64_reads _) not_isCount_null).mp (map_eq_ok_iff.mpr ⟨keep, hk, rfl⟩)⟩
  · rintro ⟨_, ⟨live⟩, hold⟩
    obtain ⟨own, ho, hm⟩ := messages_iff.mpr ⟨_, live, hold.messages⟩
    obtain ⟨summary, hs, summaryEq⟩ :=
      map_eq_ok_iff.mp ((join_field?_iff string_reads not_isText_null).mpr hold.summary)
    obtain ⟨cuts, hc, cutsEq⟩ :=
      map_eq_ok_iff.mp ((getD_field?_iff (count64_reads .count64)).mpr hold.cuts)
    obtain ⟨removed, hr, removedEq⟩ :=
      map_eq_ok_iff.mp ((getD_field?_iff (count64_reads .count64)).mpr hold.removed)
    obtain ⟨limit, hl, limitEq⟩ :=
      map_eq_ok_iff.mp ((join_field?_iff (count64_reads .size) not_isCount_null).mpr hold.limit)
    obtain ⟨keep, hk, keepEq⟩ :=
      map_eq_ok_iff.mp ((join_field?_iff (count64_reads .size) not_isCount_null).mpr hold.keep)
    rw [member?_eq] at ho
    refine ⟨keep, hk, cuts, hc, summary, hs, own, ho, limit, hl, _, hm, removed, hr, _, rfl, ?_⟩
    rw [summaryEq, cutsEq, removedEq, limitEq, keepEq]

theorem decode_array_eq_ok_iff {items : List Json} {s : Snapshot} :
    decode (.array items) = .ok s ↔ Denotes (.array items) s := by
  -- a nullable item first: its standard value would fit the general equation too
  simp only [decode, bind_eq_ok_iff, pure_eq_ok_iff, itemOr_nullable_eq]
  simp only [itemOr_eq, item_eq_ok_iff, noMore_eq_ok_iff, list_eq_ok_iff,
    join_field?_iff string_reads not_isText_null,
    join_field?_iff (count64_reads .size) not_isCount_null,
    getD_field?_iff (count64_reads .count64)]
  constructor
  · rintro ⟨live, ⟨messages, first, read⟩, summary, hs, cuts, hc, removed, hr, limit, hl, keep, hk,
      -, short, rfl⟩
    cases items with
    | nil => cases first
    | cons head rest =>
      cases first
      exact ⟨_, .row (Nat.le_of_succ_le_succ short), read, hs, hc, hr, hl, hk⟩
  · rintro ⟨_, _ | ⟨short⟩, hold⟩
    exact ⟨_, ⟨_, rfl, hold.messages⟩, _, hold.summary, _, hold.cuts, _, hold.removed, _,
      hold.limit, _, hold.keep, (), Nat.succ_le_succ short, rfl⟩

/-- A snapshot is read from its written forms and from nothing else. -/
theorem decode_eq_ok_iff {value : Json} {s : Snapshot} :
    decode value = .ok s ↔ Denotes value s := by
  cases value with
  | object members => exact decode_object_eq_ok_iff
  | array items => exact decode_array_eq_ok_iff
  | _ =>
    refine iff_of_false nofun ?_
    rintro ⟨_, _ | _, -⟩

end Snapshot

/-! ## What the thresholds decide -/

theorem Thresholds.check_eq_zeroLimit_iff {t : Thresholds} :
    t.check = .error .zeroLimit ↔ t.limit = 0 := by
  unfold check
  split
  · exact iff_of_true rfl ‹_›
  · refine iff_of_false ?_ ‹_›
    split <;> exact nofun

theorem Thresholds.check_eq_keepsTooMuch_iff {t : Thresholds} :
    t.check = .error (.keepsTooMuch t.keep t.limit) ↔ 0 < t.limit ∧ t.limit ≤ t.keep := by
  have positive : 0 < t.limit ↔ t.limit ≠ 0 := UInt64.pos_iff_ne_zero
  rw [positive]
  unfold check
  split
  · exact iff_of_false nofun fun h => h.1 ‹_›
  · split
    · exact iff_of_true rfl ⟨‹_›, ‹_›⟩
    · exact iff_of_false nofun fun h => absurd h.2 ‹_›

namespace Setup

theorem ofSettings_eq_error_iff {settings : Settings} {error : ThresholdError} :
    ofSettings settings = .error error ↔ settings.check = .error error := by
  unfold ofSettings
  split <;> simp_all

end Setup

namespace History

theorem restore_eq_error_iff {s : Snapshot} {own : Settings} {error : ThresholdError} :
    restore s own = .error (.thresholds error) ↔ (s.settings own).check = .error error := by
  rw [← Setup.ofSettings_eq_error_iff]
  unfold restore
  cases Setup.ofSettings (s.settings own) with
  | error other =>
    constructor
    · intro h
      cases h
      rfl
    · intro h
      cases h
      rfl
  | ok setup => exact ⟨nofun, nofun⟩

theorem restore_ne_malformed (s : Snapshot) (own : Settings) (error : DecodeError) :
    restore s own ≠ .error (.malformed error) := by
  unfold restore
  cases Setup.ofSettings (s.settings own) with
  | error other => exact nofun
  | ok setup => exact nofun

theorem restore_of_valid {s : Snapshot} {own : Settings} (valid : (s.settings own).Valid) :
    restore s own = .ok ⟨{ settings := s.settings own, valid }, s.contents⟩ := by
  unfold restore
  rw [Setup.ofSettings_of_valid valid]
  rfl

theorem ofJson_of_denotes {value : Json} {s : Snapshot} (denotes : Snapshot.Denotes value s)
    (own : Settings) : ofJson value own = restore s own := by
  unfold ofJson Snapshot.load
  rw [Snapshot.decode_eq_ok_iff.mpr denotes]
  rfl

theorem ofJson_eq_malformed_iff {value : Json} {own : Settings} :
    (∃ error, ofJson value own = .error (.malformed error)) ↔ ¬ ∃ s, Snapshot.Denotes value s := by
  constructor
  · rintro ⟨error, malformed⟩ ⟨s, denotes⟩
    rw [ofJson_of_denotes denotes] at malformed
    exact restore_ne_malformed s own error malformed
  · intro outside
    cases read : Snapshot.decode value with
    | ok s => exact absurd ⟨s, Snapshot.decode_eq_ok_iff.mp read⟩ outside
    | error error =>
      refine ⟨error, ?_⟩
      unfold ofJson Snapshot.load
      rw [read]
      rfl

/-- What becomes of a value that is a snapshot: the thresholds in effect are the snapshot's, or the
reader's own where it has none, and they decide. -/
structure Decided (value : Json) (own : Settings) (s : Snapshot) : Prop where
  zero_iff : ofJson value own = .error (.thresholds .zeroLimit) ↔ s.limit.getD own.limit = 0
  keepsTooMuch_iff : ofJson value own = .error (.thresholds (.keepsTooMuch (s.keep.getD own.keep)
      (s.limit.getD own.limit))) ↔
    0 < s.limit.getD own.limit ∧ s.limit.getD own.limit ≤ s.keep.getD own.keep
  made_iff : (∃ h, ofJson value own = .ok h) ↔ s.keep.getD own.keep < s.limit.getD own.limit
  /-- The history holds what the snapshot does, uncut, and has no capability that could have been
  asked. -/
  made : ∀ h, ofJson value own = .ok h → h.contents = s.contents ∧
    h.setup.settings = { own with limit := s.limit.getD own.limit, keep := s.keep.getD own.keep } ∧
    h.setup.summarizer = none ∧ h.setup.merger = none
  /-- Thresholds of the reader's own that are not in effect do not matter, valid or not. -/
  own_irrelevant : ∀ limit keep, (s.limit = none → limit = own.limit) →
    (s.keep = none → keep = own.keep) →
      ofJson value { own with limit, keep } = ofJson value own

/-- A value is malformed exactly if it is not a snapshot's written form, and what becomes of any
other is decided by the thresholds in effect. -/
theorem ofJson_accepts (value : Json) (own : Settings) :
    ((∃ error, ofJson value own = .error (.malformed error)) ↔
        ¬ ∃ s, Snapshot.Denotes value s) ∧
      ∀ s, Snapshot.Denotes value s → Decided value own s := by
  refine ⟨ofJson_eq_malformed_iff, fun s denotes => ?_⟩
  have valid_iff : (s.settings own).Valid ↔ s.keep.getD own.keep < s.limit.getD own.limit := Iff.rfl
  have loaded := ofJson_of_denotes denotes
  refine ⟨?_, ?_, ?_, ?_, ?_⟩
  · rw [loaded, restore_eq_error_iff, Thresholds.check_eq_zeroLimit_iff]
    rfl
  · rw [loaded, restore_eq_error_iff]
    exact Thresholds.check_eq_keepsTooMuch_iff
  · rw [loaded, ← valid_iff]
    constructor
    · rintro ⟨h, made⟩
      rw [← settings_restore made]
      exact h.setup.valid
    · exact fun valid => ⟨_, restore_of_valid valid⟩
  · intro h made
    rw [loaded] at made
    have valid : (s.settings own).Valid := by
      rw [← settings_restore made]
      exact h.setup.valid
    rw [restore_of_valid valid] at made
    cases made
    exact ⟨rfl, rfl, rfl, rfl⟩
  · intro limit keep sameLimit sameKeep
    have same : s.settings { own with limit, keep } = s.settings own := by
      unfold Snapshot.settings
      cases hl : s.limit <;> cases hk : s.keep <;> simp_all
    rw [loaded, ofJson_of_denotes denotes]
    unfold restore
    rw [same]

/-- A snapshot as an array that ends before the last of its fields, with settings that alone would
be refused: it keeps ten messages, the reader's own number, and that is too many. -/
theorem ofJson_accepts_row :
    Decided
      (.array [.array [Message.encode (.user "a")], .null, .integer 3, .integer 7, .integer 2])
      .unusable ⟨⟨[.user "a"], none, ⟨3, 7⟩⟩, some 2, none⟩ := by
  exact (ofJson_accepts _ _).2 _ ⟨_, .row (by decide), ⟨_, rfl, rfl⟩, .null, .given rfl, .given rfl,
    .given rfl, .absent⟩

/-- With both keys for the messages a value is no snapshot, whatever they hold. -/
example (live : Json) (own : Settings) :
    ofJson (.object [("liveMessages", .array []), ("messages", live)]) own =
      .error (.malformed (.duplicateField "liveMessages")) := rfl

end History

end RollingHistory
