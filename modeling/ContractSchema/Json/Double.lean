/-!
# Binary floating-point numbers

JSON numbers which are no integers of 64 bits are held in double precision: a sign,
a significand below `2 ^ 53` and a power of two. Here these numbers are pairs of
integers, and every operation is exact arithmetic on natural numbers followed by
one rounding.

* `ContractSchema.Double.ofRatio` rounds a quotient to the nearest double, a tie going to
  the even significand.
* `ContractSchema.Double.mul` and `ContractSchema.Double.div` are the rounded product and
  quotient.
* `ContractSchema.Double.text` is the shortest decimal that rounds back to the number.
-/

namespace ContractSchema

/-- **A finite double**: `significand * 2 ^ exponent` with a sign. -/
structure Double where
  /-- Whether the sign is negative; zero has both signs. -/
  negative : Bool
  /-- The integer in front of the power of two. -/
  significand : Nat
  /-- The exponent of two. -/
  exponent : Int
deriving DecidableEq, Repr

namespace Double

/-! ### Rounding -/

/-- The smallest exponent of two of a double. -/
def minExponent : Int := -1074

/-- The greatest exponent of two of a double. -/
def maxExponent : Int := 971

/-- The smallest significand of 53 bits, `2 ^ 52`; those of 53 bits are below its double. -/
def minSignificand : Nat := Nat.pow 2 52

/-- Zero with a sign. -/
def zero (negative : Bool) : Double := ⟨negative, 0, minExponent⟩

/-- Divides and rounds to the nearest integer, a tie going to the even one. -/
def divideToEven (num den : Nat) : Nat :=
  let quotient := num / den
  let twice := 2 * (num % den)
  if twice < den then quotient
  else if den < twice then quotient + 1
  else quotient + quotient % 2

/-- The two factors of `num / den / 2 ^ exponent`, both of them integers. -/
def scaled (num den : Nat) (exponent : Int) : Nat × Nat :=
  (num * Nat.pow 2 (-exponent).toNat, den * Nat.pow 2 exponent.toNat)

/-- The exponent of two at which a positive quotient has a significand of 53 bits, or the
smallest exponent if that is greater. -/
def exponentOf (num den : Nat) : Int :=
  let guess := (num.log2 : Int) - den.log2 - 52
  let (n, d) := scaled num den guess
  let exact := if n < d * minSignificand then guess - 1 else guess
  max exact minExponent

/-- **Rounding a quotient** of natural numbers to the nearest double, a tie going to the
even significand; `none` if the result would exceed all doubles. -/
def ofRatio (negative : Bool) (num den : Nat) : Option Double :=
  if num = 0 then some (zero negative)
  else
    let exponent := exponentOf num den
    let (n, d) := scaled num den exponent
    let significand := divideToEven n d
    let (significand, exponent) :=
      if significand = 2 * minSignificand then (minSignificand, exponent + 1)
      else (significand, exponent)
    if maxExponent < exponent then none else some ⟨negative, significand, exponent⟩

/-! ### Arithmetic -/

/-- The numerator and the denominator of the absolute value. -/
def ratio (x : Double) : Nat × Nat :=
  (x.significand * Nat.pow 2 x.exponent.toNat, Nat.pow 2 (-x.exponent).toNat)

/-- The nearest double to a natural number. -/
def ofNat (n : Nat) : Option Double := ofRatio false n 1

/-- The rounded product. -/
def mul (x y : Double) : Option Double :=
  ofRatio (x.negative != y.negative) (x.ratio.1 * y.ratio.1) (x.ratio.2 * y.ratio.2)

/-- The rounded quotient. -/
def div (x y : Double) : Option Double :=
  ofRatio (x.negative != y.negative) (x.ratio.1 * y.ratio.2) (x.ratio.2 * y.ratio.1)

/-- The number with the given sign. -/
def withSign (negative : Bool) (x : Double) : Double := { x with negative }

/-- Whether the number is a zero of either sign. -/
def isZero (x : Double) : Bool := x.significand == 0

/-- Whether the number is an integer. -/
def isIntegral (x : Double) : Bool := x.ratio.1 % x.ratio.2 == 0

/-! ### Decimal text -/

/-- Whether `digits * 10 ^ power` rounds to the positive number `x`: it lies between the
midpoints to the neighbours of `x`, which count if the significand of `x` is even. -/
def accepts (x : Double) (digits : Nat) (power : Int) : Bool :=
  -- everything is measured in quarters of the last place of `x`
  let below := if x.significand = minSignificand ∧ minExponent < x.exponent then 1 else 2
  let low := 4 * x.significand - below
  let high := 4 * x.significand + 2
  let unit := x.exponent - 2
  let decimal := digits * Nat.pow 10 power.toNat * Nat.pow 2 (-unit).toNat
  let scale := Nat.pow 10 (-power).toNat * Nat.pow 2 unit.toNat
  if x.significand % 2 = 0 then low * scale ≤ decimal && decimal ≤ high * scale
  else low * scale < decimal && decimal < high * scale

/-- The decimal exponent of the leading digit of a positive number. -/
def leadingPower (x : Double) : Int :=
  let (num, den) := x.ratio
  if den ≤ num then ((Nat.toDigits 10 (num / den)).length : Int) - 1
  else
    -- the quotient `den / num`, rounded up, has as many digits as there are places to skip
    -((Nat.toDigits 10 ((den + num - 1) / num - 1)).length : Int)

/-- The decimal of `count` digits which rounds to `x`, if there is one; of two the nearer,
and of two equally near the even one. -/
def roundedTo (x : Double) (count : Nat) : Option (Nat × Int) :=
  let power := x.leadingPower - count + 1
  let (num, den) := x.ratio
  let n := num * Nat.pow 10 (-power).toNat
  let d := den * Nat.pow 10 power.toNat
  let down := n / d
  let nearest := divideToEven n d
  let other := if nearest = down then down + 1 else down
  if accepts x nearest power then some (nearest, power)
  else if accepts x other power then some (other, power)
  else none

/-- **The shortest decimal** which rounds to a positive number, as its digits and the power
of ten of the last one. Seventeen digits are always enough. -/
def shortest (x : Double) : Nat × Int :=
  ((List.range 17).findSome? fun i => roundedTo x (i + 1)).getD (0, 0)

/-- Drops trailing zeros of the digits. -/
def trimZeros (digits : List Char) : List Char :=
  (digits.reverse.dropWhile (· == '0')).reverse

/-- Writes digits, the first of which stands for `10 ^ power`: with a point and at least one
digit on both sides of it for powers from -5 to 15, else with an exponent. -/
def layout (digits : List Char) (power : Int) : String :=
  if power < -5 ∨ 15 < power then
    let mantissa := match digits with
      | [d] => [d]
      | d :: rest => d :: '.' :: rest
      | [] => []
    let mark := if power < 0 then "e-" else "e+"
    String.ofList mantissa ++ mark ++ toString power.natAbs
  else if power < 0 then
    "0." ++ String.ofList (List.replicate (power.natAbs - 1) '0' ++ digits)
  else
    let whole := digits.take (power.toNat + 1)
    let fraction := digits.drop (power.toNat + 1)
    let whole := whole ++ List.replicate (power.toNat + 1 - whole.length) '0'
    String.ofList (whole ++ '.' :: (if fraction.isEmpty then ['0'] else fraction))

/-- **The text of a double.** -/
def text (x : Double) : String :=
  let sign := if x.negative then "-" else ""
  if x.isZero then sign ++ "0.0"
  else
    let (digits, power) := x.shortest
    let written := Nat.toDigits 10 digits
    sign ++ layout (trimZeros written) (power + written.length - 1)

end Double

end ContractSchema
