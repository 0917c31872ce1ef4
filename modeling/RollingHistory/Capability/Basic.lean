import RollingHistory.Capability.Dialogue

/-!
Capabilities: who turns a prompt into text.

A capability may remember, so what it answers depends on the queries it was given before. Several
of them stand behind one `Backend`, under names; `Backend.ofCapabilities` hands each one only its
own queries. Any other backend is allowed too.
-/

namespace RollingHistory

/-- Why a query got no text: the outermost cause, and the causes behind it. -/
structure Failure where
  outermost : String
  causes : List String
  deriving DecidableEq, Repr, Inhabited

namespace Failure

/-- A failure with no cause behind it. -/
def of (cause : String) : Failure := ⟨cause, []⟩

/-- The same failure, seen from further out. -/
def within (context : String) (failure : Failure) : Failure :=
  ⟨context, failure.outermost :: failure.causes⟩

/-- The causes from the outermost in, a colon between any two. -/
def message (failure : Failure) : String :=
  ": ".intercalate (failure.outermost :: failure.causes)

end Failure

/-- A prompt, and a hint for the length of the answer. -/
structure Query where
  prompt : String
  maxTokens : UInt32
  deriving DecidableEq, Repr, Inhabited

/-- A text, or why there is none. -/
abbrev Reply := Except Failure String

/-- Answers a query, knowing the queries answered before it. -/
abbrev Capability := List Query → Query → Reply

/-- A query put to the capability of that name. -/
structure Call where
  capability : String
  query : Query
  deriving DecidableEq, Repr, Inhabited

/-- Answers a call, knowing all calls answered before it. -/
abbrev Backend := List Call → Call → Reply

/-- The queries of the calls to one capability. -/
def Call.queriesTo (capability : String) (calls : List Call) : List Query :=
  (calls.filter fun call => call.capability = capability).map Call.query

/-- The capabilities of a directory, each with a memory of its own. -/
def Backend.ofCapabilities (directory : String → Capability) : Backend :=
  fun earlier call => directory call.capability (Call.queriesTo call.capability earlier) call.query

end RollingHistory
