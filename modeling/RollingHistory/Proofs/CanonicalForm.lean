import Mathlib.Data.List.Forall2
import RollingHistory.Proofs.Acceptance
import RollingHistory.Proofs.WireFormat

/-!
The canonical form of a snapshot.

A snapshot may be written in many ways: under either key for the messages, as an object or a row,
with fields left out or null or with members that nobody reads. What it is written back as is one of
them. It tells everything but whether a role is the known one of its name, and a snapshot that was
read has no such role, so two values stand for the same snapshot exactly if they are written back as
the same value (`Snapshot.load_canonical`). Equality is meant twice: of the values themselves, and
where numbers are compared as numbers.
-/

namespace RollingHistory

/-! ## Everything equals itself -/

namespace Json

mutual

theorem equals_self : ∀ value : Json, value.equals value = true
  | .null => rfl
  | .bool _ | .integer _ | .string _ => beq_self_eq_true _
  | .double x => by simp [equals, Decimal.Binary64.equals]
  | .array items => equalItems_self items
  | .object members => equalMembers_self members

theorem equalItems_self : ∀ items : List Json, equalItems items items = true
  | [] => rfl
  | value :: items => by simp [equalItems, equals_self value, equalItems_self items]

theorem equalMembers_self : ∀ members : List (String × Json), equalMembers members members = true
  | [] => rfl
  | (key, value) :: members => by
    simp [equalMembers, equals_self value, equalMembers_self members]

end

end Json

theorem isEqv_self {α : Type} {same : α → α → Bool} (refl : ∀ a, same a a = true) (as : List α) :
    as.isEqv as same = true := by
  induction as with
  | nil => rfl
  | cons a as ih =>
    rw [List.isEqv, refl, ih]
    rfl

theorem Part.equals_self (part : Part) : part.equals part = true := by
  cases part <;> simp [equals, Json.equals_self]

theorem Content.equals_self (content : Content) : content.equals content = true := by
  cases content with
  | plain t => exact beq_self_eq_true t
  | parts ps => exact isEqv_self Part.equals_self ps

theorem Message.equals_self (message : Message) : message.equals message = true := by
  simp [equals, Content.equals_self]

namespace Message

/-! ## Messages in normal form -/

/-- A message that had another role of a known name has the known role of that name, and nothing
else is changed. -/
structure Renamed (before after : Message) : Prop where
  content : after.content = before.content
  known : ∀ role : Role, (∀ name, role ≠ .other name) → before.role = .other role.name →
    after.role = role
  kept : (∀ name ∈ Role.names, before.role ≠ .other name) → after.role = before.role

theorem renamed_normalize (message : Message) : Renamed message message.normalize where
  content := rfl
  known role known held := by
    show Role.ofName message.role.name = role
    rw [held]
    exact Role.ofName_name known
  kept := Role.normalize_eq_self

/-- Messages that equal their normal forms are in normal form. -/
theorem map_normalize_eq_self_of_isEqv {messages : List Message}
    (same : (messages.map normalize).isEqv messages equals = true) :
    messages.map normalize = messages := by
  induction messages with
  | nil => rfl
  | cons message messages ih =>
    rw [List.map_cons, List.isEqv, Bool.and_eq_true] at same
    obtain ⟨head, rest⟩ := same
    have role : message.role.normalize = message.role := by
      simp only [equals, Bool.and_eq_true, beq_iff_eq] at head
      exact head.1
    rw [List.map_cons, ih rest, normalize, role]

end Message

namespace Snapshot

theorem equals_self (s : Snapshot) : s.equals s = true := by
  simp [equals, isEqv_self Message.equals_self]

/-! ## Equality of written forms -/

theorem toNat_beq (a b : UInt64) : ((a.toNat : Int) == (b.toNat : Int)) = (a == b) := by
  rw [Bool.eq_iff_iff, beq_iff_eq, beq_iff_eq, Int.ofNat_inj, UInt64.toNat_inj]

/-- A threshold is written as the same members exactly if it is the same, where no other member has
its key. -/
theorem equalMembers_threshold {key : String} {as bs : List (String × Json)}
    (ha : ∀ head ∈ as.head?, head.1 ≠ key) (hb : ∀ head ∈ bs.head?, head.1 ≠ key)
    (a b : Option UInt64) :
    Json.equalMembers (threshold key a ++ as) (threshold key b ++ bs) =
      (a == b && Json.equalMembers as bs) := by
  cases a with
  | none =>
    cases b with
    | none => rfl
    | some b =>
      cases as with
      | nil => rfl
      | cons head as =>
        have other : (head.1 == key) = false := beq_false_of_ne (ha head rfl)
        simp [threshold, Json.equalMembers, other]
  | some a =>
    cases b with
    | none =>
      cases bs with
      | nil => rfl
      | cons head bs =>
        have other : (key == head.1) = false := beq_false_of_ne (Ne.symm (hb head rfl))
        simp [threshold, Json.equalMembers, other]
    | some b => simp [threshold, Json.equalMembers, Json.equals, toNat_beq]

theorem equals_encodeSummary (a b : Option String) :
    (encodeSummary a).equals (encodeSummary b) = (a == b) := by
  cases a <;> cases b <;> simp [encodeSummary, Json.equals]

theorem equalItems_encode (as bs : List Message) :
    Json.equalItems (as.map Message.encode) (bs.map Message.encode) =
      (as.map Message.normalize).isEqv (bs.map Message.normalize) Message.equals := by
  induction as generalizing bs with
  | nil => cases bs <;> rfl
  | cons a as ih =>
    cases bs with
    | nil => rfl
    | cons b bs =>
      simp only [List.map_cons, Json.equalItems, List.isEqv, Message.equals_encode, ih]

/-- Two snapshots are written as equal values exactly if they are equal in normal form. -/
theorem equals_encode (s t : Snapshot) :
    s.encode.equals t.encode = s.normalize.equals t.normalize := by
  obtain ⟨⟨live, summary, ⟨cuts, removed⟩⟩, limit, keep⟩ := s
  obtain ⟨⟨live', summary', ⟨cuts', removed'⟩⟩, limit', keep'⟩ := t
  have tallies : ((⟨cuts, removed⟩ : Tally) == ⟨cuts', removed'⟩) =
      (cuts == cuts' && removed == removed') := by
    rw [Bool.eq_iff_iff, beq_iff_eq, Tally.mk.injEq, Bool.and_eq_true, beq_iff_eq, beq_iff_eq]
  simp only [encode, List.append_assoc, List.cons_append, List.nil_append, Json.equals]
  rw [equalMembers_threshold (by simp) (by simp)]
  simp only [Json.equalMembers]
  rw [equalMembers_threshold (by simp) (by simp)]
  simp only [Json.equalMembers, Json.equals, equals_encodeSummary, equalItems_encode,
    toNat_beq, beq_self_eq_true, Bool.true_and, Bool.and_true, normalize, equals, tallies]
  ac_rfl

/-! ## Reading back -/

theorem load_eq_ok_iff {value : Json} {s : Snapshot} :
    load value = .ok s ↔ decode value = .ok s := by
  unfold load
  cases decode value with
  | error error => exact ⟨nofun, nofun⟩
  | ok t => simp [Except.mapError]

/-- The written form is a snapshot, and is read as the one in normal form. -/
theorem load_encode (s : Snapshot) : load s.encode = .ok s.normalize :=
  load_eq_ok_iff.mpr (decode_encode s)

/-- Whatever snapshot is read is in normal form. -/
theorem normalize_of_load {value : Json} {s : Snapshot} (read : load value = .ok s) :
    s.normalize = s := by
  obtain ⟨fields, -, hold⟩ := decode_eq_ok_iff.mp (load_eq_ok_iff.mp read)
  obtain ⟨items, -, messages⟩ := hold.messages
  have normal : ∀ message ∈ s.contents.live, message.normalize = message := by
    intro message member
    have listed : .ok message ∈ items.map Message.decode := by
      rw [messages]
      exact List.mem_map_of_mem member
    obtain ⟨item, -, read⟩ := List.mem_map.mp listed
    exact Message.normalize_of_decode read
  unfold normalize
  rw [List.map_congr_left normal, List.map_id']

theorem normalize_eq_self_iff {s : Snapshot} :
    s.normalize = s ↔
      ∀ message ∈ s.contents.live, ∀ name ∈ Role.names, message.role ≠ .other name := by
  refine ⟨?_, normalize_eq_self⟩
  intro same message member
  have live : s.contents.live.map Message.normalize = s.contents.live.map id := by
    rw [List.map_id]
    exact congrArg (fun t => t.contents.live) same
  exact Message.normalize_eq_self_iff.mp (List.map_inj_left.mp live message member)

/-- A snapshot that equals its normal form has no other role, for roles have just one value. -/
theorem normalize_eq_self_of_equals {s : Snapshot} (same : s.normalize.equals s = true) :
    s.normalize = s := by
  have messages : (s.contents.live.map Message.normalize).isEqv s.contents.live
      Message.equals = true := by
    simp only [equals, Bool.and_eq_true] at same
    exact same.1.1.1.1
  unfold normalize
  rw [Message.map_normalize_eq_self_of_isEqv messages]

/-- What the written form of a snapshot tells. -/
structure Canonical (s : Snapshot) : Prop where
  /-- It is read back, whichever of the fields are known, and only roles may have changed. -/
  read : ∃ t, load s.encode = .ok t ∧
    List.Forall₂ Message.Renamed s.contents.live t.contents.live ∧
    t.contents.summary = s.contents.summary ∧ t.contents.tally = s.contents.tally ∧
    t.limit = s.limit ∧ t.keep = s.keep
  /-- So a snapshot is read back as it was unless a message has such a role, also where numbers are
  compared as numbers. -/
  whole_iff : load s.encode = .ok s ↔
    ∀ message ∈ s.contents.live, ∀ name ∈ Role.names, message.role ≠ .other name
  equal_iff : (∃ t, load s.encode = .ok t ∧ t.equals s = true) ↔
    ∀ message ∈ s.contents.live, ∀ name ∈ Role.names, message.role ≠ .other name
  /-- If it was read from any value at all, it is read back as it was. -/
  again : ∀ value, load value = .ok s → load s.encode = .ok s
  /-- And then any other value stands for the same snapshot exactly if what that one is written back
  as is the same. -/
  same_iff : ∀ value written other, load value = .ok s → load written = .ok other →
    (s = other ↔ s.encode = other.encode)
  equals_iff : ∀ value written other, load value = .ok s → load written = .ok other →
    (s.equals other = true ↔ s.encode.equals other.encode = true)

/-- The written form of any snapshot is its canonical form. -/
theorem load_canonical (s : Snapshot) : Canonical s where
  read := by
    refine ⟨s.normalize, load_encode s, ?_, rfl, rfl, rfl, rfl⟩
    show List.Forall₂ Message.Renamed s.contents.live (s.contents.live.map Message.normalize)
    rw [List.forall₂_map_right_iff, List.forall₂_same]
    exact fun message _ => message.renamed_normalize
  whole_iff := by
    rw [load_encode, Except.ok.injEq, normalize_eq_self_iff]
  equal_iff := by
    rw [← normalize_eq_self_iff]
    constructor
    · rintro ⟨t, read, same⟩
      cases (load_encode s).symm.trans read
      exact normalize_eq_self_of_equals same
    · intro same
      exact ⟨s, (load_encode s).trans (congrArg Except.ok same), equals_self s⟩
  again value read := by
    rw [load_encode, normalize_of_load read]
  same_iff value written other read read' := by
    refine ⟨congrArg encode, fun same => ?_⟩
    have back := load_encode s
    rw [same, load_encode, normalize_of_load read, normalize_of_load read'] at back
    exact (Except.ok.inj back).symm
  equals_iff value written other read read' := by
    rw [equals_encode, normalize_of_load read, normalize_of_load read']

/-- Under the key of an archive, with a member that nobody reads and a threshold that is null; and
as a row that ends early. -/
example :
    load (.object [("max_messages", .null), ("messages", .array []), ("note", .bool true)]) =
      load (.array [.array [], .null, .integer 0]) := rfl

end Snapshot

end RollingHistory
