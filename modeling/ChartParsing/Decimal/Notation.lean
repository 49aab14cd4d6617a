import ChartParsing.Decimal.Shortest

/-!
# Written forms of floating-point numbers

The digits are the shortest that read back; a style says where the positional notation ends and whether a whole
number keeps a fraction. With positional notation the digits stand around the point and zeros fill the gap;
otherwise one digit stands before the point and the power of ten follows an `e`.
-/

namespace ChartParsing.Decimal

/-- How a number is written. -/
structure Style where
  /-- The powers of ten of the first digit that are written without an exponent. -/
  positional : Int → Bool
  /-- What follows a whole number in positional notation. -/
  wholeTail : List Char

/-- Plain text: no exponent ever, and no fraction on a whole number. -/
def Style.plain : Style := ⟨fun _ => true, []⟩

/-- A number that shows that it is not an integer: `.0` on whole numbers, and an exponent from `10 ^ 16` upward
and below `10 ^ -4`. -/
def Style.marked : Style := ⟨fun e => -5 < e && e < 16, ['.', '0']⟩

/-- The digits of a number without its trailing zeros; zero keeps one digit. -/
def significant (n : Nat) : List Char :=
  match ((Nat.toDigits 10 n).reverse.dropWhile (· == '0')).reverse with
  | [] => ['0']
  | ds => ds

/-- The digits `ds` with the point after the first `point` of them; zeros fill the gap on either side. -/
def positional (style : Style) (ds : List Char) (point : Int) : List Char :=
  if point ≤ 0 then '0' :: '.' :: List.replicate (-point).toNat '0' ++ ds
  else
    let whole := ds.take point.toNat
    let padded := whole ++ List.replicate (point.toNat - whole.length) '0'
    match ds.drop point.toNat with
    | [] => padded ++ style.wholeTail
    | fraction => padded ++ '.' :: fraction

/-- One digit before the point, the others behind it, and the power of ten of the first digit. -/
def exponential (ds : List Char) (e : Int) : List Char :=
  let mantissa := match ds with
    | d :: f :: fs => d :: '.' :: f :: fs
    | ds => ds
  mantissa ++ 'e' :: (toString e).toList

/-- The written form of a positive number. -/
def magnitudeText (style : Style) (x : Scientific) : List Char :=
  let point : Int := x.exponent + (Nat.toDigits 10 x.coefficient).length
  let ds := significant x.coefficient
  if style.positional (point - 1) then positional style ds point else exponential ds (point - 1)

/-- The written form of a double. Zero keeps its sign. -/
def Binary64.chars (style : Style) : Binary64 → List Char
  | .nan => ['N', 'a', 'N']
  | .infinite negative => (if negative then ['-'] else []) ++ ['i', 'n', 'f']
  | .finite negative mantissa exponent =>
    (if negative then ['-'] else []) ++
      if mantissa = 0 then positional style ['0'] 1
      else magnitudeText style (RoundingRange.ofBinary mantissa exponent).shortest

/-- The written form of a floating-point number. -/
def floatText (style : Style) (x : Float) : String :=
  String.ofList ((Binary64.ofFloat x).chars style)

example : (Binary64.finite false (Nat.pow 2 52) (-52)).chars .plain = ['1'] := by decide +kernel
example : (Binary64.finite false (Nat.pow 2 52) (-52)).chars .marked = ['1', '.', '0'] := by decide +kernel
example : (Binary64.finite true 0 (-1074)).chars .plain = ['-', '0'] := by decide +kernel
example : (Binary64.finite false 5000000000000000 1).chars .marked = ['1', 'e', '1', '6'] := by decide +kernel
example : (Binary64.finite false (Nat.pow 2 52) (-53)).chars .plain = ['0', '.', '5'] := by decide +kernel

end ChartParsing.Decimal
