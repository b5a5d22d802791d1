/-!
Numbers of the 64-bit binary format: a sign and a multiple of a power of two, or an infinity. A
decimal number stands for the nearest of them.
-/

namespace DocMarkup

/-- The number `digits * 10 ^ exponent`. -/
structure Decimal where
  digits : Nat
  exponent : Int
  deriving DecidableEq

/-- A number of the format. A finite one is `mantissa * 2 ^ exponent`, with its sign. -/
inductive Binary64 where
  | finite (negative : Bool) (mantissa : Nat) (exponent : Int)
  | infinite (negative : Bool)
  deriving DecidableEq

/-- A fraction of whole numbers. -/
structure Ratio where
  num : Nat
  den : Nat

namespace Ratio

/-- The fraction times a power of a base. -/
def scale (r : Ratio) (base : Nat) (power : Int) : Ratio :=
  ⟨r.num * Nat.pow base power.toNat, r.den * Nat.pow base (-power).toNat⟩

/-- Whether a fraction is below one. -/
def isSmall (r : Ratio) : Bool := r.num < r.den

/-- The nearest whole number; of two, the even one. -/
def nearest (r : Ratio) : Nat :=
  let floor := r.num / r.den
  let twice := 2 * (r.num % r.den)
  if twice < r.den || (twice == r.den && floor % 2 == 0) then floor else floor + 1

/-- The exponent of the greatest power of two that a positive fraction reaches. -/
def log2 (r : Ratio) : Int :=
  let guess : Int := r.num.log2 - r.den.log2
  if (r.scale 2 (-guess)).isSmall then guess - 1 else guess

end Ratio

/-- The decimal as a fraction. -/
def Decimal.ratio (d : Decimal) : Ratio := Ratio.scale ⟨d.digits, 1⟩ 10 d.exponent

namespace Binary64

/-- The exponent of the smallest numbers. -/
def minExponent : Int := -1074

/-- The exponent of the greatest numbers. -/
def maxExponent : Int := 971

def zero (negative : Bool) : Binary64 := .finite negative 0 minExponent

/-- The number nearest to a positive fraction; of two, the one with an even mantissa. -/
def ofRatio (negative : Bool) (r : Ratio) : Binary64 :=
  let ideal := r.log2 - 52
  let exponent := if ideal < minExponent then minExponent else ideal
  let mantissa := (r.scale 2 (-exponent)).nearest
  let (mantissa, exponent) :=
    if mantissa == Nat.pow 2 53 then (Nat.pow 2 52, exponent + 1) else (mantissa, exponent)
  if maxExponent < exponent then .infinite negative else .finite negative mantissa exponent

/-- The number nearest to a decimal. Far outside the range of the format the digits do not
matter. -/
def ofDecimal (negative : Bool) (d : Decimal) : Binary64 :=
  if d.digits == 0 then zero negative
  else
    let point := (Nat.toDigits 10 d.digits).length + d.exponent
    if 310 < point then .infinite negative
    else if point < -330 then zero negative
    else ofRatio negative d.ratio

def isZero : Binary64 → Bool
  | .finite _ mantissa _ => mantissa == 0
  | .infinite _ => false

/-- The size of a finite number. -/
def ratio (mantissa : Nat) (exponent : Int) : Ratio := Ratio.scale ⟨mantissa, 1⟩ 2 exponent

/-- Whether two numbers are equal; the sign of zero does not matter. -/
def same (a b : Binary64) : Bool := (a.isZero && b.isZero) || a == b

/-- The whole number that a number equals, if there is one. -/
def toInt? : Binary64 → Option Int
  | .finite negative mantissa exponent =>
    let r := ratio mantissa exponent
    if r.num % r.den == 0 then some ((if negative then -1 else 1) * Int.ofNat (r.num / r.den))
    else none
  | .infinite _ => none

end Binary64

end DocMarkup
