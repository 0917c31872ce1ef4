/-!
Double-precision numbers as their 64 bits.

A finite double is `m · 2^q` with a sign: `significand` and `exponent` read the two off the bits.
`ofRatio` goes the other way, from an exact fraction to the nearest double, a half to the even
neighbour; `ofDecimal` is the case of a decimal literal.
-/

namespace RollingHistory.Decimal

/-- A double, held as its bit pattern. Two of them are the same value here iff they have the same
bits; `Binary64.equals` compares the numbers they stand for. -/
structure Binary64 where
  bits : UInt64
  deriving DecidableEq, Repr, Inhabited

namespace Binary64

/-- The weight of the sign bit. -/
def signWeight : Nat := 1 <<< 63

/-- The weight of the leading bit of a normal number's significand. -/
def leadingWeight : Nat := 1 <<< 52

/-- The sign bit. -/
def isNegative (x : Binary64) : Bool := signWeight ≤ x.bits.toNat

/-- The bits below the sign. They order the finite doubles of one sign by size. -/
def magnitude (x : Binary64) : Nat := x.bits.toNat % signWeight

/-- The eleven bits of the biased exponent. -/
def biasedExponent (x : Binary64) : Nat := x.magnitude / leadingWeight

/-- The integer `m` of `m · 2^q`, with the leading bit that a normal number leaves unwritten. -/
def significand (x : Binary64) : Nat :=
  x.magnitude % leadingWeight + if x.biasedExponent = 0 then 0 else leadingWeight

/-- The exponent `q` of `m · 2^q`. -/
def exponent (x : Binary64) : Int := (max x.biasedExponent 1 : Nat) - 1075

/-- The number is zero, of either sign. -/
def isZero (x : Binary64) : Bool := x.magnitude = 0

/-- Equality of the numbers: the two zeros are equal, all else goes by bits. -/
def equals (x y : Binary64) : Bool := (x.isZero && y.isZero) || x == y

/-- The double of a given sign and magnitude bits. -/
def ofMagnitude (negative : Bool) (magnitude : Nat) : Binary64 :=
  ⟨UInt64.ofNat (magnitude + if negative then signWeight else 0)⟩

/-- `n / d` to the nearest integer, a half to the even one. -/
def roundDiv (n d : Nat) : Nat :=
  let quotient := n / d
  let twice := 2 * (n % d)
  if twice < d then quotient
  else if twice = d then quotient + quotient % 2
  else quotient + 1

/-- `n / d` as a fraction times `2^k`, `k` of either sign. -/
def scale (n d : Nat) (k : Int) : Nat × Nat :=
  if 0 ≤ k then (n <<< k.toNat, d) else (n, d <<< (-k).toNat)

/-- The largest `e` with `2^e ≤ n / d`, for positive `n` and `d`. -/
def floorLog2 (n d : Nat) : Int :=
  let e : Int := (Nat.log2 n : Int) - Nat.log2 d
  let (n', d') := scale n d (-e)
  if n' < d' then e - 1 else e

/-- The double nearest to `n / d`, a half to the even neighbour; what exceeds the finite range is
an infinity. The carry of a significand rounded up to `2^53` moves into the exponent by itself,
because the exponent bits stand right above it. -/
def ofRatio (negative : Bool) (n d : Nat) : Binary64 :=
  if n = 0 then ofMagnitude negative 0
  else
    let q : Int := max (floorLog2 n d - 52) (-1074)
    let (n', d') := scale n d (-q)
    let magnitude := roundDiv n' d' + (q + 1074).toNat * leadingWeight
    ofMagnitude negative (min magnitude (2047 * leadingWeight))

/-- The double nearest to `± digits · 10^power`. -/
def ofDecimal (negative : Bool) (digits : Nat) (power : Int) : Binary64 :=
  if 0 ≤ power then ofRatio negative (digits * Nat.pow 10 power.toNat) 1
  else ofRatio negative digits (Nat.pow 10 (-power).toNat)

end Binary64

end RollingHistory.Decimal
