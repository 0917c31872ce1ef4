/-!
The lines of a text.

A line ends at a line feed, or at a carriage return and a line feed; a carriage return elsewhere
is part of its line. What follows the last line feed is a line only if it is not empty.
`charLines_append_feed` says that text up to a line feed is a line by itself.
-/

namespace RollingHistory.Text

/-- The character joins the first line, or makes one if there is none. -/
def extendFirst (c : Char) : List (List Char) → List (List Char)
  | [] => [[c]]
  | line :: others => (c :: line) :: others

/-- The lines of a text, given by its characters. -/
def charLines : List Char → List (List Char)
  | [] => []
  | '\r' :: '\n' :: rest => [] :: charLines rest
  | '\n' :: rest => [] :: charLines rest
  | c :: rest => extendFirst c (charLines rest)

theorem charLines_return_feed (rest : List Char) :
    charLines ('\r' :: '\n' :: rest) = [] :: charLines rest := by
  simp [charLines]

theorem charLines_feed (rest : List Char) : charLines ('\n' :: rest) = [] :: charLines rest := by
  simp [charLines]

/-- Away from carriage returns and line feeds a character only extends its line. -/
theorem charLines_cons {c : Char} (hr : c ≠ '\r') (hn : c ≠ '\n') (rest : List Char) :
    charLines (c :: rest) = extendFirst c (charLines rest) := by
  rw [charLines.eq_4] <;> simp_all

/-- A line feed separates: the text before it, if free of line breaks, is one line. -/
theorem charLines_append_feed (line rest : List Char) (h : ∀ c ∈ line, c ≠ '\r' ∧ c ≠ '\n') :
    charLines (line ++ '\n' :: rest) = line :: charLines rest := by
  induction line with
  | nil => exact charLines_feed rest
  | cons c line ih =>
    obtain ⟨hr, hn⟩ := h c (by simp)
    rw [List.cons_append, charLines_cons hr hn, ih fun d hd => h d (by simp [hd])]
    rfl

end RollingHistory.Text
