import RollingHistory.Json.Basic

/-!
Messages: who speaks, and what is said.

A content is a text or a list of parts, and a part may be text, an image, or one side of a tool
call. `Message.text` is what of a message can be read: the text parts, a space between any two.
-/

namespace RollingHistory

/-- The speaker of a message. A role this library has no name for is kept under its own. -/
inductive Role where
  | user
  | assistant
  | system
  | tool
  | other (name : String)
  deriving DecidableEq, Repr, Inhabited

namespace Role

/-- The name a role goes by. -/
def name : Role → String
  | .user => "user"
  | .assistant => "assistant"
  | .system => "system"
  | .tool => "tool"
  | .other name => name

/-- The known role of that name. -/
def known? (name : String) : Option Role :=
  if name = "user" then some .user
  else if name = "assistant" then some .assistant
  else if name = "system" then some .system
  else if name = "tool" then some .tool
  else none

/-- The role of that name, known or not. -/
def ofName (name : String) : Role := (known? name).getD (.other name)

/-- The role that goes by the same name and is a known one if it can be. -/
def normalize (role : Role) : Role := ofName role.name

theorem name_ofName (name : String) : (ofName name).name = name := by
  unfold ofName known?
  (repeat' split) <;> simp_all [Role.name]

@[simp] theorem normalize_ofName (name : String) : (ofName name).normalize = ofName name := by
  rw [normalize, name_ofName]

end Role

/-- A piece of a message. The input of a tool call is opaque. -/
inductive Part where
  | text (text : String)
  | image (mediaType data : String)
  | toolUse (id name : String) (input : Json)
  | toolResult (toolUseId content : String) (isError : Option Bool)
  deriving Inhabited, Repr

namespace Part

/-- The text of a text part. -/
def text? : Part → Option String
  | .text t => some t
  | _ => none

/-- The texts of the text parts in order, a space between any two. -/
def joined (parts : List Part) : String := " ".intercalate (parts.filterMap text?)

/-- Equality, the inputs of tool calls compared as JSON values. -/
def equals : Part → Part → Bool
  | .text a, .text b => a == b
  | .image a b, .image c d => a == c && b == d
  | .toolUse a b input, .toolUse c d input' => a == c && b == d && input.equals input'
  | .toolResult a b e, .toolResult c d f => a == c && b == d && e == f
  | _, _ => false

end Part

/-- What is said. -/
inductive Content where
  | plain (text : String)
  | parts (parts : List Part)
  deriving Inhabited, Repr

namespace Content

/-- The text that can be read. -/
def text : Content → String
  | .plain t => t
  | .parts ps => Part.joined ps

/-- Equality, part by part; a text never equals a list of parts. -/
def equals : Content → Content → Bool
  | .plain a, .plain b => a == b
  | .parts as, .parts bs => as.isEqv bs Part.equals
  | _, _ => false

end Content

/-- One turn of a conversation. -/
structure Message where
  role : Role
  content : Content
  deriving Inhabited, Repr

namespace Message

/-- A text said by the user. -/
def user (text : String) : Message := ⟨.user, .plain text⟩

/-- A text said by the assistant. -/
def assistant (text : String) : Message := ⟨.assistant, .plain text⟩

/-- A text said by the system. -/
def system (text : String) : Message := ⟨.system, .plain text⟩

/-- The text of a message that can be read. -/
def text (message : Message) : String := message.content.text

/-- Nothing of the message can be read. -/
def isSilent (message : Message) : Bool := message.text.isEmpty

/-- The message with its role under the known name, if it has one. -/
def normalize (message : Message) : Message := { message with role := message.role.normalize }

/-- Equality of role and content. -/
def equals (a b : Message) : Bool := a.role == b.role && a.content.equals b.content

theorem isSilent_iff {message : Message} : message.isSilent = true ↔ message.text = "" :=
  String.isEmpty_iff

end Message

end RollingHistory
