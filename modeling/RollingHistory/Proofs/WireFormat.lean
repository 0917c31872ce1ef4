import RollingHistory.Message.Codec
import RollingHistory.Proofs.Decoding
import RollingHistory.Proofs.Restoration

/-!
The written form of messages.

A message is read back in its normal form, which differs only in a role that was held under
another's name. So the written form tells everything else, and whatever a reader takes from any
value, in whichever of the forms, is normal already (`encode_faithful`). The forms do not capture
each other: a content is a string or an array, and the first key of a part tells its kind.
-/

namespace RollingHistory

/-! ## Roles -/

namespace Role

theorem name_normalize (role : Role) : role.normalize.name = role.name := name_ofName role.name

theorem normalize_eq_iff {a b : Role} : a.normalize = b.normalize ↔ a.name = b.name := by
  constructor
  · intro h
    rw [← name_normalize a, h, name_normalize]
  · intro h
    unfold normalize
    rw [h]

/-- A role that is not held under a name is the known one of its name. -/
theorem ofName_name {role : Role} (known : ∀ name, role ≠ .other name) :
    ofName role.name = role := by
  cases role with
  | user | assistant | system | tool => rfl
  | other name => exact absurd rfl (known name)

theorem normalize_eq_self_iff {role : Role} :
    role.normalize = role ↔ ∀ name ∈ names, role ≠ .other name := by
  refine ⟨?_, normalize_eq_self⟩
  rintro same name member rfl
  simp only [names, List.mem_cons, List.not_mem_nil, or_false] at member
  obtain rfl | rfl | rfl | rfl := member <;> cases same

/-- Whatever role is read is a normal one. -/
theorem normalize_of_decode {value : Json} {role : Role} (read : decode value = .ok role) :
    role.normalize = role := by
  unfold decode at read
  split at read
  · cases read
    exact normalize_ofName _
  · rename_i name
    cases h : known? name with
    | none =>
      rw [h] at read
      cases read
    | some known =>
      have named : ofName name = known := by rw [ofName, h]; rfl
      rw [h] at read
      cases read
      rw [← named, normalize_ofName]
  · cases read

end Role

/-! ## Equality of written forms -/

namespace Part

/-- Two parts are written as equal values exactly if they are equal. -/
theorem equals_encode (a b : Part) : a.encode.equals b.encode = a.equals b := by
  cases a with
  | toolResult _ _ isError =>
    cases b with
    | toolResult _ _ isError' =>
      -- a mark that is not there is not written
      cases isError <;> cases isError' <;>
        simp [encode, equals, Json.equals, Json.equalMembers, Bool.and_comm, Bool.and_left_comm]
    | _ => simp [encode, equals, Json.equals, Json.equalMembers]
  | _ =>
    cases b <;>
      simp [encode, equals, Json.equals, Json.equalMembers, Bool.and_assoc, Bool.and_comm]

end Part

namespace Content

theorem equalItems_encode (as bs : List Part) :
    Json.equalItems (as.map Part.encode) (bs.map Part.encode) = as.isEqv bs Part.equals := by
  induction as generalizing bs with
  | nil => cases bs <;> rfl
  | cons a as ih =>
    cases bs with
    | nil => rfl
    | cons b bs =>
      rw [List.map_cons, List.map_cons, Json.equalItems, Part.equals_encode, ih]
      rfl

theorem equals_encode (a b : Content) : a.encode.equals b.encode = a.equals b := by
  cases a <;> cases b <;> simp [encode, equals, Json.equals, equalItems_encode]

end Content

/-! ## Messages -/

namespace Message

theorem encode_normalize (message : Message) : message.normalize.encode = message.encode := by
  simp only [encode, normalize, Role.encode, Role.name_normalize]

theorem equals_encode (a b : Message) :
    a.encode.equals b.encode = a.normalize.equals b.normalize := by
  have roles : (a.role.name == b.role.name) = (a.role.normalize == b.role.normalize) := by
    rw [Bool.eq_iff_iff, beq_iff_eq, beq_iff_eq, Role.normalize_eq_iff]
  simp [encode, equals, normalize, Role.encode, Json.equals, Json.equalMembers,
    Content.equals_encode, roles, Bool.and_comm]

open Decode in
/-- The role of a message that was read was read itself, in whichever form the message was. -/
theorem exists_role_of_decode {value : Json} {message : Message}
    (read : decode value = .ok message) : ∃ written, Role.decode written = .ok message.role := by
  cases value with
  | object members =>
    simp only [decode, bind_eq_ok_iff, pure_eq_ok_iff, required_eq_ok_iff] at read
    obtain ⟨content, -, _, found, role, rfl, content, -, rfl⟩ := read
    obtain ⟨written, -, read⟩ := member?_eq_some_iff.mp found
    exact ⟨written, read⟩
  | array items =>
    simp only [decode, bind_eq_ok_iff, pure_eq_ok_iff, item_eq_ok_iff] at read
    obtain ⟨role, ⟨written, -, read⟩, content, -, -, -, rfl⟩ := read
    exact ⟨written, read⟩
  | _ => cases read

/-- Whatever message is read is a normal one. -/
theorem normalize_of_decode {value : Json} {message : Message}
    (read : decode value = .ok message) : message.normalize = message := by
  obtain ⟨written, role⟩ := exists_role_of_decode read
  unfold normalize
  rw [Role.normalize_of_decode role]

theorem normalize_eq_self_iff {message : Message} :
    message.normalize = message ↔ ∀ name ∈ Role.names, message.role ≠ .other name := by
  rw [← Role.normalize_eq_self_iff]
  constructor
  · exact congrArg role
  · intro same
    unfold normalize
    rw [same]

/-- What the written form of a message tells. -/
structure Faithful (message : Message) : Prop where
  /-- The written form is read back, in normal form. -/
  read : decode message.encode = .ok message.normalize
  /-- In it a role that is held under the name of a known one is that role, and nothing else is
  changed. -/
  renamed : ∀ role : Role, (∀ name, role ≠ .other name) → message.role = .other role.name →
    message.normalize.role = role
  kept : (∀ name ∈ Role.names, message.role ≠ .other name) → message.normalize.role = message.role
  content : message.normalize.content = message.content
  /-- So a message is read back as it was unless it has such a role. -/
  whole_iff : decode message.encode = .ok message ↔
    ∀ name ∈ Role.names, message.role ≠ .other name
  /-- The written form is that of the messages with the same normal form and of no others, also
  where numbers are compared as numbers. -/
  encode_eq_iff : ∀ other : Message,
    message.encode = other.encode ↔ message.normalize = other.normalize
  equals_iff : ∀ other : Message,
    message.encode.equals other.encode = true ↔ message.normalize.equals other.normalize = true
  /-- If the message was read from any value at all, it is normal and is read back as it was. -/
  normal : ∀ value, decode value = .ok message →
    message.normalize = message ∧ decode message.encode = .ok message

/-- The written form of any message tells everything but whether its role is the known one of its
name. -/
theorem encode_faithful (message : Message) : Faithful message where
  read := decode_encode message
  renamed role known held := by
    show Role.ofName message.role.name = role
    rw [held]
    exact Role.ofName_name known
  kept other := Role.normalize_eq_self other
  content := rfl
  whole_iff := by
    rw [decode_encode, Except.ok.injEq, normalize_eq_self_iff]
  encode_eq_iff other := by
    constructor
    · intro same
      have read := decode_encode message
      rw [same, decode_encode] at read
      exact (Except.ok.inj read).symm
    · intro same
      rw [← encode_normalize, same, encode_normalize]
  equals_iff other := by rw [equals_encode]
  normal value read := by
    have same := normalize_of_decode read
    refine ⟨same, ?_⟩
    rw [decode_encode, same]

/-- An array for a message, a role as an object, a part as an array, and a mark that is null. -/
example : decode (.array [.object [("user", .null)],
    .array [.array [.string "tool_result", .string "t1", .string "results", .null]]]) =
      .ok ⟨.user, .parts [.toolResult "t1" "results" none]⟩ := rfl

end Message

end RollingHistory
