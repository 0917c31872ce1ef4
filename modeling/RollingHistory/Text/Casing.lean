import RollingHistory.Text.CaseTable

/-!
Full case mapping of single characters, and capitalization of a word.

A letter may have a form of several characters (`ß` has the capital `SS`). Each character is
mapped on its own: nothing depends on its neighbours, so a final sigma is like any other.
-/

namespace RollingHistory.Text

/-- The long form, else the counterpart in a run, else the character itself. -/
def mapCase (long : List (Nat × List Nat)) (runs : List CaseRun) (c : Char) : List Char :=
  match long.lookup c.toNat with
  | some codes => codes.map Char.ofNat
  | none => [(CaseRun.counterpart? runs c.toNat).elim c Char.ofNat]

/-- The capital form of a character. -/
def capital (c : Char) : List Char := mapCase longCapitals (capitalRunsLow ++ capitalRunsHigh) c

/-- The small form of a character. -/
def small (c : Char) : List Char := mapCase longSmalls (smallRunsLow ++ smallRunsHigh) c

/-- The first character in its capital form, every other one in its small form. -/
def capitalize (word : String) : String :=
  match word.toList with
  | [] => ""
  | first :: rest => String.ofList (capital first ++ rest.flatMap small)

end RollingHistory.Text
