import RollingHistory.Capability.Chat
import RollingHistory.Text.Lines

/-!
A chat model that only copies.

It answers with the lines of its prompt that look like a turn of a conversation or like a bullet,
each as a bullet.
-/

namespace RollingHistory

namespace Extractive

/-- The line has a colon and a space in it, as between a speaker and a text. -/
def holdsTurn : List Char → Bool
  | [] => false
  | ':' :: ' ' :: _ => true
  | _ :: rest => holdsTurn rest

/-- The mark of a bullet. -/
def bulletMark : List Char := ['-', ' ']

/-- The line holds a turn or is a bullet. -/
def isKept (line : List Char) : Bool := holdsTurn line || bulletMark.isPrefixOf line

/-- The line without the bullet marks in front of it. -/
def dropMarks : List Char → List Char
  | '-' :: ' ' :: rest => dropMarks rest
  | line => line

/-- The line as a bullet, whatever number of marks it had. -/
def bullet (line : List Char) : List Char := bulletMark ++ dropMarks line

/-- The kept lines of a text as bullets. -/
def bullets (text : String) : List String :=
  ((Text.charLines text.toList).filter isKept).map fun line => String.ofList (bullet line)

/-- The bullets of a prompt, one on each line. -/
def extract (prompt : String) : String := "\n".intercalate (bullets prompt)

/-- Copies out of the texts of the request's messages. -/
def model : ChatModel where
  provider := "local"
  model := "extractive-v1"
  chat := fun _ request =>
    .ok (.success [.text (extract ("\n".intercalate (request.messages.map Message.text)))])

end Extractive

end RollingHistory
