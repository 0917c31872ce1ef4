import RollingHistory.Message.PartCodec

/-!
Messages as JSON.

A role is its name, a content a string or an array of parts, a message an object. Besides these
written forms a reader also takes a message as the array of its fields, and a known role as an
object with that one key. `Message.decode_encode` says that nothing of a message is lost but the
difference between a known role and another role of the same name.
-/

namespace RollingHistory

/-! ## Roles -/

namespace Role

/-- The name of the role. -/
def encode (role : Role) : Json := .string role.name

/-- A string is the role of that name; an object with a known name for its only key, and null
under it, is that role. -/
def decode : Decoder Role
  | .string name => .ok (ofName name)
  | .object [(name, .null)] => (known? name).elim (.error (.noVariant "Role")) .ok
  | _ => .error (.noVariant "Role")

/-- A role is read back in its normal form. -/
theorem decode_encode (role : Role) : decode role.encode = .ok role.normalize := rfl

end Role

/-! ## Contents -/

namespace Content

/-- A string, or an array of parts. -/
def encode : Content → Json
  | .plain t => .string t
  | .parts ps => .array (ps.map Part.encode)

/-- Whatever is wrong with a content, the error is that it is of no known form. -/
def decode : Decoder Content
  | .string t => .ok (.plain t)
  | .array items =>
    match Decode.each Part.decodeWithin items with
    | .ok ps => .ok (.parts ps)
    | .error _ => .error (.noVariant "Content")
  | _ => .error (.noVariant "Content")

theorem decode_encode (content : Content) : decode content.encode = .ok content := by
  cases content with
  | plain t => rfl
  | parts ps =>
    have read : Decode.each Part.decodeWithin (ps.map Part.encode) = .ok (ps.map id) :=
      Decode.each_map Part.decodeWithin_encode ps
    simp only [encode, decode, read, List.map_id]

end Content

/-! ## Messages -/

namespace Message

/-- The message as an object. -/
def encode (message : Message) : Json :=
  .object [("content", message.content.encode), ("role", message.role.encode)]

/-- The row that holds a message. -/
def row : Row := ⟨"struct Message", 2⟩

open Decode

/-- Reads a message from an object or from the array of its role and content. -/
def decode : Decoder Message
  | .object members => do
    let content ← member? members "content" Content.decode
    let role ← member? members "role" Role.decode
    return ⟨← required "role" role, ← required "content" content⟩
  | .array items => do
    let role ← item row items 0 Role.decode
    let content ← item row items 1 Content.decode
    noMore items row.width
    return ⟨role, content⟩
  | value => mismatch (.record "Message") value

/-- A message is read back with its role in normal form, and is otherwise as it was. -/
theorem decode_encode (message : Message) : decode message.encode = .ok message.normalize := by
  have content : member? [("content", message.content.encode), ("role", message.role.encode)]
      "content" Content.decode = .ok (some message.content) :=
    member?_of_lookup rfl (Content.decode_encode _)
  have role : member? [("content", message.content.encode), ("role", message.role.encode)]
      "role" Role.decode = .ok (some message.role.normalize) :=
    member?_of_lookup rfl (Role.decode_encode _)
  simp only [decode, encode, content, role]
  rfl

end Message

end RollingHistory
