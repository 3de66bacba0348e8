import LambdaStack.Decimal.Shortest

/-!
# Decimal notations

The two ways in which a binary number is written: as a number of a JSON text, with an exponent
where the positional form would be long, and plainly, always positional.
-/

namespace LambdaStack
namespace Decimal

/-- A run of zeros. -/
def zeros (count : Int) : String :=
  String.ofList (List.replicate count.toNat '0')

/-- Digits of the coefficient. -/
def digits (value : Decimal) : List Char :=
  Nat.toDigits 10 value.coefficient

/-- Power of ten of the first digit. -/
def leadingExponent (value : Decimal) : Int :=
  value.exponent + value.digits.length - 1

/-- Positional form; `whole` is what follows the digits of a whole number. -/
def positional (whole : String) (value : Decimal) : String :=
  if 0 ≤ value.exponent then String.ofList value.digits ++ zeros value.exponent ++ whole
  else if 0 ≤ value.leadingExponent then
    let places := (value.leadingExponent + 1).toNat
    String.ofList (value.digits.take places) ++ "." ++ String.ofList (value.digits.drop places)
  else "0." ++ zeros (-value.leadingExponent - 1) ++ String.ofList value.digits

/-- Form with one digit before the point and an exponent that always has a sign. -/
def scientific (value : Decimal) : String :=
  let mantissa :=
    match value.digits with
    | [] => ""
    | [lead] => String.singleton lead
    | lead :: rest => String.singleton lead ++ "." ++ String.ofList rest
  let sign := if value.leadingExponent < 0 then "-" else "+"
  mantissa ++ "e" ++ sign ++ toString value.leadingExponent.natAbs

end Decimal

namespace Binary64

/-- The minus sign of a negative number. -/
def signText (negative : Bool) : String :=
  if negative then "-" else ""

/-- Text of a finite number in a JSON document: fewest digits, ties to even, positional with at
least one decimal while the first digit stands between `10 ^ (-5)` and `10 ^ 15`. -/
def Finite.jsonText (value : Finite) : String :=
  signText value.negative ++
    if value.isZero then "0.0"
    else
      let decimal := value.shortest .toEven
      if -5 ≤ decimal.leadingExponent ∧ decimal.leadingExponent ≤ 15 then decimal.positional ".0"
      else decimal.scientific

/-- Plain text of a number: fewest digits, ties away from zero, always positional and without
decimals when whole. -/
def plainText : Binary64 → String
  | .nan => "NaN"
  | .infinite negative => signText negative ++ "inf"
  | .finite value =>
    signText value.negative ++
      if value.isZero then "0" else (value.shortest .awayFromZero).positional ""

end Binary64
end LambdaStack
