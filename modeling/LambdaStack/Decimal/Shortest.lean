import LambdaStack.Binary64

/-!
# Shortest decimals

The decimal with the fewest digits that still rounds to a given binary number. Of two such decimals
of the same length the nearer one is taken, and a rule decides between two that are equally near.
-/

namespace LambdaStack

/-- Choice between two equally near neighbours. -/
inductive TieRule where
  /-- The neighbour whose last digit is even. -/
  | toEven
  /-- The neighbour farther from zero. -/
  | awayFromZero
  deriving DecidableEq

/-- A coefficient times a power of ten. -/
structure Decimal where
  /-- The digits, read as a whole number. -/
  coefficient : Nat
  /-- Power of ten of the last digit. -/
  exponent : Int
  deriving DecidableEq

namespace Binary64
namespace Finite

/-- Least magnitude that rounds to the number, as far as bounds are included. -/
def lowerBound (value : Finite) : Rat :=
  if value.significand = Nat.pow 2 52 ∧ -1074 < value.exponent then
    (4 * value.significand - 1 : Rat) * twoPow (value.exponent - 2)
  else (2 * value.significand - 1 : Rat) * twoPow (value.exponent - 1)

/-- Greatest magnitude that rounds to the number, as far as bounds are included. -/
def upperBound (value : Finite) : Rat :=
  (2 * value.significand + 1 : Rat) * twoPow (value.exponent - 1)

/-- A magnitude rounds to the number. The bounds do exactly when the significand is even. -/
def roundsFrom (value : Finite) (magnitude : Rat) : Bool :=
  if value.significand % 2 = 0 then
    value.lowerBound ≤ magnitude && magnitude ≤ value.upperBound
  else value.lowerBound < magnitude && magnitude < value.upperBound

/-- The coefficient at one power of ten that reads back as the number and is nearest to it. -/
def coefficientAt? (tie : TieRule) (value : Finite) (exponent : Int) : Option Nat :=
  let scaled := value.magnitude / tenPow exponent
  let low := scaled.floor.toNat
  let excess := scaled - scaled.floor
  let lowReads := 0 < low && value.roundsFrom ((low : Rat) * tenPow exponent)
  let highReads := value.roundsFrom (((low + 1 : Nat) : Rat) * tenPow exponent)
  match lowReads, highReads with
  | false, false => none
  | true, false => some low
  | false, true => some (low + 1)
  | true, true =>
    if excess < mkRat 1 2 then some low
    else if mkRat 1 2 < excess then some (low + 1)
    else
      match tie with
      | .toEven => some (if low % 2 = 0 then low else low + 1)
      | .awayFromZero => some (low + 1)

/-- The decimal with the fewest digits that reads back as the magnitude of a number. Powers of ten
are tried downwards from the length of the whole part to that of the least positive number. -/
def shortest (tie : TieRule) (value : Finite) : Decimal :=
  let width := (Nat.toDigits 10 value.magnitude.floor.toNat).length
  let found := (List.range (width + 325)).findSome? fun (step : Nat) =>
    let exponent : Int := (width : Int) - (step : Int)
    (value.coefficientAt? tie exponent).map fun coefficient => Decimal.mk coefficient exponent
  found.getD ⟨0, 0⟩

end Finite
end Binary64
end LambdaStack
