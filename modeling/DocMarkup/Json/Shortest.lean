import DocMarkup.Json.Binary64

/-!
The written form of a number of the 64-bit binary format: the fewest digits that stand for it, and
of those the nearest, laid out with a point or with an exponent.
-/

namespace DocMarkup

/-! ## Digits -/

/-- How many digits a positive fraction has before its point; negative for zeros after it. -/
def Ratio.point (r : Ratio) : Int :=
  let guess : Int := (Nat.toDigits 10 r.num).length - (Nat.toDigits 10 r.den).length
  if (r.scale 10 (-guess)).isSmall then guess else guess + 1

namespace Binary64

/-- The decimal with a number of digits that stands for a number, if there is one: of the two next
to it, the one that reads back, and the nearer if both do. -/
def withDigits? (mantissa : Nat) (exponent : Int) (count : Nat) : Option Decimal :=
  let value := ratio mantissa exponent
  let unit := value.point - count
  let scaled := value.scale 10 (-unit)
  let below : Decimal := ⟨scaled.num / scaled.den, unit⟩
  let above : Decimal := ⟨scaled.num / scaled.den + 1, unit⟩
  let readsBack (d : Decimal) : Bool := ofDecimal false d == .finite false mantissa exponent
  match readsBack below, readsBack above with
  | true, true => some ⟨scaled.nearest, unit⟩
  | true, false => some below
  | false, true => some above
  | false, false => none

/-- The first decimal among those with 1, 2, and so on up to 17 digits that stands for a number.
Seventeen digits are always enough. -/
def shortest (mantissa : Nat) (exponent : Int) : Decimal :=
  ((List.range 17).findSome? fun n => withDigits? mantissa exponent (n + 1)).getD ⟨mantissa, 0⟩

end Binary64

/-! ## Layout -/

namespace Decimal

/-- An exponent with its sign and at least two digits. -/
def exponentText (n : Int) : List Char :=
  let digits := Nat.toDigits 10 n.natAbs
  (if n < 0 then '-' else '+') :: (if digits.length < 2 then '0' :: digits else digits)

/-- A positive number with a point between 10⁻⁴ and 10¹⁶, and with an exponent elsewhere. -/
def text (d : Decimal) : List Char :=
  let all := Nat.toDigits 10 d.digits
  let digits := (all.reverse.dropWhile (· == '0')).reverse
  let point := all.length + d.exponent
  if -4 < point && point ≤ 16 then
    if point ≤ 0 then
      '0' :: '.' :: List.replicate (-point).toNat '0' ++ digits
    else
      let whole := digits.take point.toNat
      let fraction := digits.drop point.toNat
      whole ++ List.replicate (point.toNat - whole.length) '0' ++ '.' ::
        (if fraction.isEmpty then ['0'] else fraction)
  else
    let fraction := digits.drop 1
    digits.take 1 ++ (if fraction.isEmpty then [] else '.' :: fraction) ++ 'e' ::
      exponentText (point - 1)

end Decimal

namespace Binary64

def signText (negative : Bool) : List Char := if negative then ['-'] else []

def text : Binary64 → String
  | .finite negative 0 _ => String.ofList (signText negative ++ ['0', '.', '0'])
  | .finite negative mantissa exponent =>
    String.ofList (signText negative ++ (shortest mantissa exponent).text)
  | .infinite negative => String.ofList (signText negative ++ ['i', 'n', 'f'])

end Binary64

end DocMarkup
