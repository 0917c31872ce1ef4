import RollingHistory.Capability.Basic
import RollingHistory.Message.Basic

/-!
A capability on top of a chat model.

One query is one request to the model: a system prompt, the prompt as the only message, and the
hint. The answer counts only if its texts, joined, are not empty, so a chat model that has nothing
to say never yields an empty summary.
-/

namespace RollingHistory

/-- What a chat model is asked. -/
structure ChatQuery where
  system : String
  messages : List Message
  maxTokens : UInt32
  deriving Inhabited, Repr

/-- What a chat model answers if it can be reached. -/
inductive ChatAnswer where
  | success (parts : List Part)
  | rateLimited
  | invalidRequest (detail : String)
  | serverError (detail : String)
  deriving Inhabited, Repr

/-- A chat model: its name and its provider's, and what it answers after earlier requests. -/
structure ChatModel where
  provider : String
  model : String
  chat : List ChatQuery → ChatQuery → Except Failure ChatAnswer

/-- The system prompt of a summarizer. -/
def summarizerPrompt : String :=
  "You are a precise summarizer. You condense conversations into complete, faithful summaries "
    ++ "without inventing details."

namespace ChatModel

/-- The request for a query. -/
def request (system : String) (query : Query) : ChatQuery :=
  { system, messages := [.user query.prompt], maxTokens := query.maxTokens }

/-- The text of an answer, or what kept the model from giving one. -/
def read (m : ChatModel) : Except Failure ChatAnswer → Reply
  | .error failure =>
    .error (failure.within
      ("Failed to call " ++ m.provider ++ " (" ++ m.model ++ ") for summarization"))
  | .ok (.success parts) =>
    let text := Part.joined parts
    if text.isEmpty then .error (.of "No text in summarization response") else .ok text
  | .ok .rateLimited => .error (.of "Rate limited during summarization")
  | .ok (.invalidRequest detail) =>
    .error (.of ("Invalid request during summarization: " ++ detail))
  | .ok (.serverError detail) => .error (.of ("Server error during summarization: " ++ detail))

/-- Answers one query by one request. -/
def converse (m : ChatModel) (system : String) (query : Query) :
    Dialogue ChatQuery (Except Failure ChatAnswer) Reply := do
  return m.read (← .query (request system query))

/-- The chat model as a capability. The model remembers the requests that the earlier queries
were turned into. -/
def capability (m : ChatModel) (system : String) : Capability :=
  fun earlier query => ((m.converse system query).run m.chat (earlier.map (request system))).1

theorem capability_eq (m : ChatModel) (system : String) (earlier : List Query) (query : Query) :
    m.capability system earlier query =
      m.read (m.chat (earlier.map (request system)) (request system query)) := rfl

end ChatModel

end RollingHistory
