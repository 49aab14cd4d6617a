/-!
# Binary floating-point numbers, taken apart

A double is a sign and a magnitude `mantissa * 2 ^ exponent`, an infinity or not a number. The mantissa stays
below `2 ^ 53`, and it reaches `2 ^ 52` unless the exponent is the least one, `-1074`.
-/

namespace ChartParsing.Decimal

/-- What the 64 bits of a double stand for. -/
inductive Binary64 where
  | nan
  | infinite (negative : Bool)
  | finite (negative : Bool) (mantissa : Nat) (exponent : Int)
  deriving DecidableEq, Repr

namespace Binary64

/-- The sign is the top bit, the biased exponent the next eleven, the fraction the lowest 52. The least biased
exponent has no implied leading bit; the greatest marks infinities and not-a-numbers. -/
def ofBits (bits : Nat) : Binary64 :=
  let negative := bits / Nat.pow 2 63 % 2 == 1
  let biased : Nat := bits / Nat.pow 2 52 % Nat.pow 2 11
  let fraction : Nat := bits % Nat.pow 2 52
  if biased = 0 then .finite negative fraction (-1074)
  else if biased = 2047 then (if fraction = 0 then .infinite negative else .nan)
  else .finite negative (Nat.pow 2 52 + fraction) ((biased : Int) - 1075)

def ofFloat (x : Float) : Binary64 := ofBits x.toBits.toNat

end Binary64

end ChartParsing.Decimal
