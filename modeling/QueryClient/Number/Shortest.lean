import QueryClient.Number.Binary64

/-!
# The shortest decimal that reads back

Of the decimals that round to a given binary number, the shortest are those with the fewest digits;
of these the nearest is taken, of two equally near the even one. For each number of digits the two
neighbours of the value on that decimal grid are tried in exact arithmetic.
-/

namespace QueryClient.Number

/-- The value `digits * 10 ^ exponent`. -/
structure Digits where
  digits : Nat
  exponent : Int
deriving Repr, DecidableEq

/-- The least `k` with `numerator * 10 ^ k ≥ denominator`, as long as `fuel` allows. -/
def leadingZeros (numerator denominator : Nat) : Nat → Nat
  | 0 => 0
  | fuel + 1 =>
    if numerator ≥ denominator then 0 else leadingZeros (numerator * 10) denominator fuel + 1

/-- The exponent of ten of the leading digit of a positive ratio. -/
def leadingExponent (numerator denominator : Nat) : Int :=
  if numerator ≥ denominator then
    (toString (numerator / denominator)).length - 1
  else
    -(leadingZeros numerator denominator (4 * denominator.log2 + 4) : Int)

/-- The interval of the values that round to `m * 2 ^ q`, as numerators over `4 * 2 ^ -q`; its ends
belong to it when `m` is even. -/
structure Rounding where
  low : Nat
  value : Nat
  high : Nat
  scale : Nat × Nat
  closed : Bool

/-- The interval of values that round to a positive finite number. -/
def Rounding.of (m : Nat) (q : Int) : Rounding where
  low := if m == Nat.pow 2 52 && q > -1074 then 4 * m - 1 else 4 * m - 2
  value := 4 * m
  high := 4 * m + 2
  scale := powTwo (q - 2)
  closed := m % 2 == 0

/-- A decimal lies in the interval. -/
def Rounding.contains (r : Rounding) (d : Digits) : Bool :=
  let above := d.digits * Nat.pow 10 d.exponent.toNat * r.scale.2
  let below := Nat.pow 10 (-d.exponent).toNat * r.scale.1
  if r.closed then r.low * below ≤ above && above ≤ r.high * below
  else r.low * below < above && above < r.high * below

/-- The decimal of one digit count that reads back, if there is one. -/
def Rounding.decimal? (r : Rounding) (exponent : Int) : Option Digits :=
  let numerator := r.value * r.scale.1 * Nat.pow 10 (-exponent).toNat
  let denominator := r.scale.2 * Nat.pow 10 exponent.toNat
  let floor := numerator / denominator
  let down : Digits := ⟨floor, exponent⟩
  let up : Digits := ⟨floor + 1, exponent⟩
  match r.contains down, r.contains up with
  | true, true => some ⟨roundHalfEven numerator denominator, exponent⟩
  | true, false => some down
  | false, true => some up
  | false, false => none

/-- The digits without the zeros at their end. -/
def Digits.stripZeros (d : Digits) : Nat → Digits
  | 0 => d
  | fuel + 1 =>
    if d.digits != 0 && d.digits % 10 == 0 then
      Digits.stripZeros ⟨d.digits / 10, d.exponent + 1⟩ fuel
    else d

/-- The shortest decimal that reads back as the positive finite number `m * 2 ^ q`. -/
def shortest (m : Nat) (q : Int) : Digits :=
  let r := Rounding.of m q
  let leading := leadingExponent (r.value * r.scale.1) r.scale.2
  let found := (List.range 17).findSome? fun (count : Nat) => r.decimal? (leading - count)
  (found.getD ⟨m, 0⟩).stripZeros 20

end QueryClient.Number
