import RollingHistory.Capability.Basic

/-!
Answers read off a list.

The first query gets the first answer, and so on; what comes after the list depends only on how
many queries there have been.
-/

namespace RollingHistory

/-- The answers in order, and an answer for the `n`-th query after they are used up, counted from
one over all queries. -/
structure Script (R : Type) where
  answers : List R
  afterwards : Nat → R

namespace Script

/-- Answers by the number of earlier queries, and looks at nothing else. -/
def answer {Q R : Type} (script : Script R) (earlier : List Q) (_ : Q) : R :=
  script.answers.getD earlier.length (script.afterwards (earlier.length + 1))

/-- A summary that tells only its number. -/
def numbered (n : Nat) : Reply := .ok ("summary #" ++ n.repr)

end Script

end RollingHistory
