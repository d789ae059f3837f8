/-!
# Binary floating-point numbers in parts

A finite number in the 64-bit format is `m * 2 ^ q` for a natural number `m` below `2 ^ 53`. This
module takes a number apart and finds the nearest number to a ratio, ties going to the even
neighbour.
-/

namespace QueryClient.Number

/-- A number of the 64-bit format. -/
inductive Binary64 where
  /-- The value `m * 2 ^ q`, negated when `negative`. -/
  | finite (negative : Bool) (m : Nat) (q : Int)
  | infinite (negative : Bool)
  | nan
deriving Repr, DecidableEq

def Binary64.ofFloat (x : Float) : Binary64 :=
  let bits : Nat := x.toBits.toNat
  let negative := bits / Nat.pow 2 63 == 1
  let exponent : Nat := bits / Nat.pow 2 52 % Nat.pow 2 11
  let fraction : Nat := bits % Nat.pow 2 52
  if exponent == 2047 then
    if fraction == 0 then .infinite negative else .nan
  else if exponent == 0 then .finite negative fraction (-1074)
  else .finite negative (fraction + Nat.pow 2 52) (exponent - 1075)

/-- The number with the given parts; a finite value needs `m < 2 ^ 53` and its exponent in range. -/
def Binary64.toFloat : Binary64 → Float
  | .nan => Float.ofBits 0x7ff8000000000000
  | .infinite negative =>
    Float.ofBits (0x7ff0000000000000 + if negative then 0x8000000000000000 else 0)
  | .finite negative m q =>
    let sign := if negative then Nat.pow 2 63 else 0
    let bits := if m < Nat.pow 2 52 then m else (q + 1075).toNat * Nat.pow 2 52 + (m - Nat.pow 2 52)
    Float.ofBits (sign + bits).toUInt64

/-- The whole number nearest to a quotient; a tie goes to the even one. -/
def roundHalfEven (numerator denominator : Nat) : Nat :=
  let quotient := numerator / denominator
  let twice := 2 * (numerator % denominator)
  if twice < denominator || (twice == denominator && quotient % 2 == 0) then quotient
  else quotient + 1

/-- A power of two as a ratio of natural numbers. -/
def powTwo (q : Int) : Nat × Nat :=
  (Nat.pow 2 q.toNat, Nat.pow 2 (-q).toNat)

/-- The number nearest to the ratio of two positive numbers, with a sign. -/
def Binary64.nearest (negative : Bool) (numerator denominator : Nat) : Binary64 :=
  if numerator == 0 then .finite negative 0 (-1074)
  else
    let guess : Int := (numerator.log2 : Int) - denominator.log2 - 52
    let (a, b) := powTwo guess
    let low := numerator * b < denominator * a * Nat.pow 2 52
    let q := max (if low then guess - 1 else guess) (-1074)
    let (a, b) := powTwo q
    let m := roundHalfEven (numerator * b) (denominator * a)
    let (m, q) := if m == Nat.pow 2 53 then (Nat.pow 2 52, q + 1) else (m, q)
    if q > 971 then .infinite negative else .finite negative m q

end QueryClient.Number
