import ChartParsing.Decimal.Binary64

/-!
# The shortest decimal that reads back

A binary number stands for the whole interval of reals that round to it. Among the decimals in that interval
one with the fewest digits is chosen, and of those the nearest to the number itself. On the grid of multiples of
`10 ^ k` only the two neighbours of the number have to be tried: if any multiple lies in the interval, one of
these two does. Everything is exact arithmetic on natural numbers.
-/

namespace ChartParsing.Decimal

/-- A decimal `coefficient * 10 ^ exponent`. -/
structure Scientific where
  coefficient : Nat
  exponent : Int
  deriving DecidableEq, Repr

/-- The reals that round to `value / unit`: those between `low / unit` and `high / unit`, the two ends included
when the range is closed. -/
structure RoundingRange where
  unit : Nat
  low : Nat
  value : Nat
  high : Nat
  closed : Bool
  deriving DecidableEq, Repr

namespace RoundingRange

/-- The range of a positive double. The ends lie half a step away; below a power of two the step is half as
long, except at the least exponent. Ties between doubles go to even mantissas, so just those own their ends. -/
def ofBinary (mantissa : Nat) (exponent : Int) : RoundingRange :=
  let below := if mantissa = Nat.pow 2 52 ∧ exponent ≠ -1074 then 1 else 2
  let scale := Nat.pow 2 (exponent - 2).toNat
  { unit := Nat.pow 2 (2 - exponent).toNat
    low := (4 * mantissa - below) * scale
    value := 4 * mantissa * scale
    high := (4 * mantissa + 2) * scale
    closed := mantissa % 2 == 0 }

/-- The same range counted in steps of `10 ^ k`. -/
def inSteps (r : RoundingRange) : Int → RoundingRange
  | .ofNat k => { r with unit := r.unit * Nat.pow 10 k }
  | .negSucc k =>
    let scale := Nat.pow 10 (k + 1)
    { r with low := r.low * scale, value := r.value * scale, high := r.high * scale }

/-- Whether the whole number `n` lies in the range. -/
def contains (r : RoundingRange) (n : Nat) : Bool :=
  let x := n * r.unit
  if r.closed then r.low ≤ x && x ≤ r.high else r.low < x && x < r.high

/-- The whole number in the range that is next to the value; of two equally near ones the larger. -/
def neighbour? (r : RoundingRange) : Option Nat :=
  let below := r.value / r.unit
  let above := below + 1
  match r.contains below, r.contains above with
  | true, true => some (if 2 * (r.value % r.unit) < r.unit then below else above)
  | true, false => some below
  | false, true => some above
  | false, false => none

/-- The number of digits before the point, or, for a value below one, minus the number of zeros that follow
the point: the least `e` with `value < 10 ^ e`. -/
def magnitude (r : RoundingRange) : Int :=
  if r.unit ≤ r.value then (Nat.repr (r.value / r.unit)).length
  else 1 - (Nat.repr ((r.unit - 1) / r.value)).length

/-- The decimal with the fewest digits in the range. Seventeen digits always suffice for a double. -/
def shortest (r : RoundingRange) : Scientific :=
  let e := r.magnitude
  let grid (digits : Nat) : Option Scientific :=
    (r.inSteps (e - digits)).neighbour?.map (⟨·, e - digits⟩)
  ((List.range' 1 17).findSome? grid).getD ⟨r.value / r.unit, 0⟩

example : (ofBinary (Nat.pow 2 52) (-52)).shortest = ⟨1, 0⟩ := by decide +kernel
example : (ofBinary 7205759403792794 (-56)).shortest = ⟨1, -1⟩ := by decide +kernel

end RoundingRange

end ChartParsing.Decimal
