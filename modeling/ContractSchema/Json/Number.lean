import ContractSchema.Json.Double

/-!
# JSON numbers

A JSON number is held exactly if it is written as an integer of 64 bits, signed or
not, and as a double otherwise.

* `ContractSchema.Json.Number` is such a number, `ContractSchema.Json.Number.text` its text.
* `ContractSchema.Json.Numeral` is a number as it is written: a sign, digits, a fraction
  and an exponent.
* `ContractSchema.Json.Numeral.value?` is the number a numeral stands for, or `none` if it
  exceeds all doubles.

A numeral is turned into a double by collecting its digits into an integer of 64
bits and multiplying or dividing it by a power of ten, with a rounding at each of
these steps. Digits which do not fit are dropped.
-/

namespace ContractSchema.Json

/-! ### Numbers -/

/-- How many negative integers have 64 bits: `2 ^ 63`. -/
abbrev negativeCount : Nat := 0x8000000000000000

/-- **A JSON number.** -/
inductive Number
  /-- An integer which is not negative. -/
  | natural (n : UInt64)
  /-- The negative integer `-(n + 1)`. -/
  | negative (n : Fin negativeCount)
  /-- Any other number. -/
  | double (x : Double)
deriving DecidableEq, Repr

namespace Number

/-- The text of a number. -/
def text : Number → String
  | .natural n => toString n.toNat
  | .negative n => "-" ++ toString (n.val + 1)
  | .double x => x.text

/-- The integer a number holds, if it holds one which is not negative. -/
def natural? : Number → Option UInt64
  | .natural n => some n
  | _ => none

/-- The value of a number as a fraction. -/
def ratio : Number → Int × Nat
  | .natural n => (n.toNat, 1)
  | .negative n => (-(n.val + 1 : Nat), 1)
  | .double x => (if x.negative then -(x.ratio.1 : Int) else x.ratio.1, x.ratio.2)

/-- Whether the value is an integer, whatever its form. -/
def isIntegral : Number → Bool
  | .natural _ => true
  | .negative _ => true
  | .double x => x.isIntegral

/-- Whether the value of one number is below that of another. Integers and doubles are
compared exactly. -/
def less (x y : Number) : Bool :=
  x.ratio.1 * y.ratio.2 < y.ratio.1 * x.ratio.2

end Number

/-! ### Numerals -/

/-- The exponent of a numeral. -/
structure Exponent where
  /-- Whether a minus is in front of the digits. -/
  negative : Bool
  /-- The digits, at least one. -/
  digits : List Nat
deriving DecidableEq, Repr

/-- **A number as it is written.** -/
structure Numeral where
  /-- Whether a minus is in front. -/
  negative : Bool
  /-- The digits before the point, at least one. -/
  whole : List Nat
  /-- The digits behind the point, if there is one. -/
  fraction : Option (List Nat)
  /-- The exponent, if there is one. -/
  exponent : Option Exponent
deriving DecidableEq, Repr

namespace Numeral

/-- The number that digits stand for. -/
def ofDigits (digits : List Nat) : Nat :=
  digits.foldl (fun n digit => 10 * n + digit) 0

/-- Collects digits behind `significand` as long as the result has 64 bits; the second part of
the result holds the digits which did not fit. -/
def collect (significand : Nat) : List Nat → Nat × List Nat
  | [] => (significand, [])
  | digit :: rest =>
    let next := 10 * significand + digit
    if next < UInt64.size then collect next rest else (significand, digit :: rest)

/-- The double nearest to a power of ten, for exponents up to 308. -/
def powerOfTen (exponent : Nat) : Option Double :=
  Double.ofNat (Nat.pow 10 exponent)

/-- Divides by ten to the given power, in steps of at most `10 ^ 308`. -/
def divideByTens (x : Double) (count : Nat) : Option Double :=
  if _long : 308 < count then
    if x.isZero then some x
    else do divideByTens (← x.div (← powerOfTen 308)) (count - 308)
  else do x.div (← powerOfTen count)
termination_by count
decreasing_by omega

/-- The double of an integer times a power of ten. -/
def toDouble (negative : Bool) (significand : Nat) (power : Int) : Option Double := do
  let x ← Double.ofNat significand
  let y ←
    if power < 0 then divideByTens x power.natAbs
    else if power.toNat ≤ 308 then x.mul (← powerOfTen power.toNat)
    else if x.isZero then some x
    else none
  return y.withSign negative

/-- The greatest exponent which is taken as it is; a greater one stands for a number beyond
all doubles, or for zero. -/
def maxExponent : Nat := 2147483647

/-- The double of an integer, a power of ten and a written exponent. -/
def withExponent (negative : Bool) (significand : Nat) (power : Int) :
    Option Exponent → Option Double
  | none => toDouble negative significand power
  | some exponent =>
    let n := ofDigits exponent.digits
    if maxExponent < n then
      if significand ≠ 0 ∧ !exponent.negative then none else some (Double.zero negative)
    else
      toDouble negative significand (if exponent.negative then power - n else power + n)

/-- The integer a numeral without fraction and exponent stands for, if it has 64 bits. There
is no negative zero among the integers. -/
def integer? (negative : Bool) (n : Nat) : Option Number :=
  if negative then
    if h : 0 < n ∧ n ≤ negativeCount then some (.negative ⟨n - 1, by omega⟩) else none
  else if n < UInt64.size then some (.natural (UInt64.ofNat n))
  else none

/-- The double a numeral stands for. -/
def double? (numeral : Numeral) : Option Double :=
  let (significand, dropped) := collect 0 numeral.whole
  let (significand, kept) :=
    match numeral.fraction with
    | none => (significand, 0)
    | some digits =>
      let (longer, rest) := collect significand digits
      (longer, digits.length - rest.length)
  withExponent numeral.negative significand ((dropped.length : Int) - kept) numeral.exponent

/-- **The number a numeral stands for.** -/
def value? (numeral : Numeral) : Option Number :=
  let integer :=
    match numeral.fraction, numeral.exponent with
    | none, none => integer? numeral.negative (ofDigits numeral.whole)
    | _, _ => none
  match integer with
  | some number => some number
  | none => numeral.double?.map .double

end Numeral

end ContractSchema.Json
