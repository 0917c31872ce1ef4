import RollingHistory.Decimal.Binary64

/-!
The fewest decimal digits that still name one double.

Around `m · 2^q` lies the interval of reals that round to it; its ends belong to it iff `m` is
even. `shortest` looks for the coarsest power of ten with a multiple in that interval, and of the
two neighbours of the value on that grid takes the nearer one, a tie going to the even digit.
-/

namespace RollingHistory.Decimal

/-- An unsigned decimal: `digits · 10^power`. -/
structure Scientific where
  digits : Nat
  power : Int
  deriving DecidableEq, Repr, Inhabited

namespace Binary64

/-- The reals that round to one positive double, in units of a quarter of its last place:
`value` is the double itself, `low` and `high` are the ends, each counted `2^unit`. -/
structure Interval where
  low : Nat
  value : Nat
  high : Nat
  unit : Int
  closed : Bool

/-- The lower end is half as far away where the significand is the least of its binade, since the
next double below is that much closer. -/
def interval (x : Binary64) : Interval :=
  let m := x.significand
  let step := if m = leadingWeight ∧ 1 < x.biasedExponent then 1 else 2
  { low := 4 * m - step, value := 4 * m, high := 4 * m + 2, unit := x.exponent - 2
    closed := m % 2 = 0 }

/-- The multiple of `10^power` nearest to the value, if one of its two neighbours on that grid is
in the interval. Both are compared on the scale where `10^power` is `g` and the interval's unit
is `u`. -/
def Interval.nearestOnGrid (i : Interval) (power : Int) : Option Nat :=
  let (u, g) := scale 1 1 i.unit
  let (u, g) :=
    if 0 ≤ power then (u, g * Nat.pow 10 power.toNat) else (u * Nat.pow 10 (-power).toNat, g)
  let below := i.value * u / g
  let reached (edge point : Nat) : Bool := if i.closed then edge ≤ point else edge < point
  let lowerFits := reached (i.low * u) (below * g)
  let upperFits := reached ((below + 1) * g) (i.high * u)
  if lowerFits && upperFits then
    let toLower := i.value * u - below * g
    let toUpper := (below + 1) * g - i.value * u
    if toLower < toUpper then some below
    else if toUpper < toLower then some (below + 1)
    else some (below + below % 2)
  else if lowerFits then some below
  else if upperFits then some (below + 1)
  else none

/-- The powers of ten that can carry a double's last digit, coarsest first. -/
def powers : List Int := (List.range 634).map fun (i : Nat) => 309 - (i : Int)

/-- The shortest decimal that reads back as `x`, sign aside, nearest to it among those. -/
def shortest (x : Binary64) : Scientific :=
  if x.isZero then ⟨0, 0⟩
  else
    (powers.findSome? fun power =>
      (x.interval.nearestOnGrid power).map fun digits => ⟨digits, power⟩).getD ⟨0, 0⟩

end Binary64

end RollingHistory.Decimal
