import RollingHistory.Message.Codec

/-!
A plain archive: messages, and nothing is ever cut.

Its JSON is an object with the messages only, which a rolling history can also start from.
-/

namespace RollingHistory

/-- All the messages of a conversation. -/
structure Archive where
  messages : List Message
  deriving Inhabited, Repr

namespace Archive

/-- No messages yet. -/
def empty : Archive := ⟨[]⟩

/-- The messages join. -/
def add (archive : Archive) (batch : List Message) : Archive := ⟨archive.messages ++ batch⟩

/-- The number of messages. -/
def count (archive : Archive) : Nat := archive.messages.length

/-- The archive as an object. -/
def encode (archive : Archive) : Json :=
  .object [("messages", .array (archive.messages.map Message.encode))]

open Decode

/-- The row that holds an archive. -/
def row : Row := ⟨"struct PlainState", 1⟩

/-- Reads an archive. -/
def decode : Decoder Archive
  | .object members => do
    let messages ← member? members "messages" (Decode.list Message.decode)
    return ⟨← required "messages" messages⟩
  | .array items => do
    let messages ← item row items 0 (Decode.list Message.decode)
    noMore items row.width
    return ⟨messages⟩
  | value => mismatch (.record "PlainState") value

/-- An archive is read back with its roles in normal form. -/
theorem decode_encode (archive : Archive) :
    decode archive.encode = .ok ⟨archive.messages.map Message.normalize⟩ := by
  simp [decode, encode, Decode.list, Decode.each_map Message.decode_encode, member?,
    bind, pure, Except.bind, Except.pure, Functor.map, Except.map]

/-- The wording for an archive that cannot be read. -/
def loadMessage (error : DecodeError) : String := "invalid message store state: " ++ error.message

end Archive

end RollingHistory
