import RollingHistory.Message.Basic
import RollingHistory.Json.Decode

/-!
Parts of messages as JSON.

A part is an object tagged by its `type`, or an array that begins with the tag. The error mark of a
tool's result may be left out of an object but not out of an array. Inside a content, though not of
a part by itself, the tag may also be the position of the kind. `decode_encode` and
`decodeWithin_encode` say that both readers read what is written.
-/

namespace RollingHistory

namespace Part

/-- The kinds of part, by the name each is tagged with. -/
inductive Kind where
  | text
  | image
  | toolUse
  | toolResult
  deriving DecidableEq, Repr

namespace Kind

/-- The tag of a kind. -/
def tag : Kind → String
  | .text => "text"
  | .image => "image"
  | .toolUse => "tool_use"
  | .toolResult => "tool_result"

/-- The kinds in the order in which an error lists them. -/
def all : List Kind := [.text, .image, .toolUse, .toolResult]

/-- The kind with that tag. -/
def ofTag? (tag : String) : Option Kind := all.find? fun kind => kind.tag = tag

/-- Reads a tag by name. -/
def decode : Decoder Kind
  | .string tag => (ofTag? tag).elim (.error (.unknownVariant tag (all.map Kind.tag))) .ok
  | value => Decode.mismatch .tag value

/-- Reads a tag by name, or by the position of its kind among all. -/
def decodeNumbered : Decoder Kind
  | .integer position =>
    match (Decode.below? all.length position).bind (all[·]?) with
    | some kind => .ok kind
    | none => .error (.outOfRange position .tag)
  | value => decode value

@[simp] theorem decode_tag (kind : Kind) : decode (.string kind.tag) = .ok kind := by
  cases kind <;> rfl

@[simp] theorem decodeNumbered_tag (kind : Kind) :
    decodeNumbered (.string kind.tag) = .ok kind :=
  decode_tag kind

/-- The row that holds a part of this kind behind its tag. -/
def row : Kind → Row
  | .text => ⟨"struct variant ContentPart::Text", 1⟩
  | .image => ⟨"struct variant ContentPart::Image", 2⟩
  | .toolUse => ⟨"struct variant ContentPart::ToolUse", 3⟩
  | .toolResult => ⟨"struct variant ContentPart::ToolResult", 3⟩

end Kind

/-- The kind of a part. -/
def kind : Part → Kind
  | .text .. => .text
  | .image .. => .image
  | .toolUse .. => .toolUse
  | .toolResult .. => .toolResult

/-- The part as an object. An error mark that is not there is not written. -/
def encode : Part → Json
  | .text t => .object [("text", .string t), ("type", .string Kind.text.tag)]
  | .image mediaType data =>
    .object [("data", .string data), ("media_type", .string mediaType),
      ("type", .string Kind.image.tag)]
  | .toolUse id name input =>
    .object [("id", .string id), ("input", input), ("name", .string name),
      ("type", .string Kind.toolUse.tag)]
  | .toolResult toolUseId content isError =>
    .object (("content", .string content)
      :: (isError.map fun flag => ("is_error", Json.bool flag)).toList
      ++ [("tool_use_id", .string toolUseId), ("type", .string Kind.toolResult.tag)])

open Decode

/-- The fields of a part in an object. Members are read in the order of their keys, and one that
is missing counts only after all that are there have been read. -/
def decodeMembers (members : List (String × Json)) : Kind → Except DecodeError Part
  | .text => do
    let t ← member? members "text" string
    return .text (← required "text" t)
  | .image => do
    let data ← member? members "data" string
    let mediaType ← member? members "media_type" string
    return .image (← required "media_type" mediaType) (← required "data" data)
  | .toolUse => do
    let id ← member? members "id" string
    let input ← member? members "input" .ok
    let name ← member? members "name" string
    return .toolUse (← required "id" id) (← required "name" name) (← required "input" input)
  | .toolResult => do
    let content ← member? members "content" string
    let isError ← member? members "is_error" (nullable bool)
    let toolUseId ← member? members "tool_use_id" string
    return .toolResult (← required "tool_use_id" toolUseId) (← required "content" content)
      isError.join

/-- The fields of a part in an array, behind the tag. Here an error mark cannot be left out. -/
def decodeItems (items : List Json) (kind : Kind) : Except DecodeError Part :=
  match kind with
  | .text => do
    return .text (← item kind.row items 0 string)
  | .image => do
    return .image (← item kind.row items 0 string) (← item kind.row items 1 string)
  | .toolUse => do
    return .toolUse (← item kind.row items 0 string) (← item kind.row items 1 string)
      (← item kind.row items 2 .ok)
  | .toolResult => do
    return .toolResult (← item kind.row items 0 string) (← item kind.row items 1 string)
      (← item kind.row items 2 (nullable bool))

/-- The fields of a part in an array that holds nothing else. -/
def decodeItemsOnly (items : List Json) (kind : Kind) : Except DecodeError Part := do
  let part ← decodeItems items kind
  if items.length ≤ kind.row.width then return part
  else throw (.tooLongFor items.length kind.row.width)

/-- Reads a part: the tag first, in the way it is given, then the fields. -/
def decodeBy (tag : Decoder Kind) : Decoder Part
  | .object members => do
    let kind ← member? members "type" tag
    decodeMembers members (← required "type" kind)
  | .array [] => .error (.missingField "type")
  | .array (first :: items) => do decodeItemsOnly items (← tag first)
  | value => mismatch (.tagged "ContentPart") value

/-- Reads a part by itself. -/
def decode : Decoder Part := decodeBy Kind.decode

/-- Reads a part of a content. There the tag may also be a number. -/
def decodeWithin : Decoder Part := decodeBy Kind.decodeNumbered

/-- A reader that knows the written tags reads every written part. -/
theorem decodeBy_encode {tag : Decoder Kind}
    (known : ∀ kind : Kind, tag (.string kind.tag) = .ok kind) (part : Part) :
    decodeBy tag part.encode = .ok part := by
  cases part with
  | toolResult toolUseId content isError =>
    cases isError <;>
      simp [decodeBy, decodeMembers, encode, member?, List.lookup_cons, known, nullable, bind, pure,
        Except.bind, Except.pure, Functor.map, Except.map]
  | _ =>
    simp [decodeBy, decodeMembers, encode, member?, List.lookup_cons, known, bind, pure,
      Except.bind, Except.pure, Functor.map, Except.map]

theorem decode_encode (part : Part) : decode part.encode = .ok part :=
  decodeBy_encode Kind.decode_tag part

theorem decodeWithin_encode (part : Part) : decodeWithin part.encode = .ok part :=
  decodeBy_encode Kind.decodeNumbered_tag part

end Part

end RollingHistory
