import RollingHistory.Decimal.Shortest

/-!
The text of a decimal number.

`Notation` says where positional writing ends; `Scientific.written` lays out digits under it, and
`Binary64.text` is the text of a double in JSON: its shortest digits, a sign in front.
-/

namespace RollingHistory.Decimal

/-- The powers of ten of the leading digit between which a number is written positionally. Outside
them it is written with one digit before the point and a signed exponent. -/
structure Notation where
  leastPositional : Int
  greatestPositional : Int

/-- JSON numbers are positional from `0.00001` up to sixteen digits before the point. -/
def Notation.json : Notation := ⟨-5, 15⟩

namespace Scientific

/-- `n` zeros. -/
def zeros (n : Nat) : List Char := List.replicate n '0'

/-- The digits, with a point before the last `-power` of them; a whole number keeps `.0`. -/
def positional (digits : List Char) (power : Int) : List Char :=
  if 0 ≤ power then digits ++ zeros power.toNat ++ ['.', '0']
  else
    let decimals := (-power).toNat
    if decimals < digits.length then
      digits.take (digits.length - decimals) ++ '.' :: digits.drop (digits.length - decimals)
    else '0' :: '.' :: zeros (decimals - digits.length) ++ digits

/-- One digit, a point before the others if there are any, and the exponent with its sign. -/
def exponential (digits : List Char) (leading : Int) : List Char :=
  let mantissa := match digits with
    | [] => []
    | [d] => [d]
    | d :: rest => d :: '.' :: rest
  mantissa ++ 'e' :: (if 0 ≤ leading then '+' else '-') :: Nat.toDigits 10 leading.natAbs

/-- The text of `digits · 10^power`. -/
def written (layout : Notation) (s : Scientific) : String :=
  let digits := Nat.toDigits 10 s.digits
  let leading := s.power + digits.length - 1
  String.ofList <|
    if layout.leastPositional ≤ leading ∧ leading ≤ layout.greatestPositional then
      positional digits s.power
    else exponential digits leading

end Scientific

/-- The text of a double in JSON. The sign of zero is kept. -/
def Binary64.text (x : Binary64) : String :=
  (if x.isNegative then "-" else "") ++ x.shortest.written .json

end RollingHistory.Decimal
