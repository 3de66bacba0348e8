/-!
# Binary64 numbers

The 64-bit binary floating-point numbers as exact values: a finite one is a sign, a significand and
a power of two, so that reading, comparing and rounding are rational arithmetic. Each finite number
has one form, and both zeros are kept apart.
-/

namespace LambdaStack

/-- Two to an integer power. -/
def twoPow : Int → Rat
  | .ofNat n => (Nat.pow 2 n : Rat)
  | .negSucc n => mkRat 1 (Nat.pow 2 (n + 1))

/-- Ten to an integer power. -/
def tenPow : Int → Rat
  | .ofNat n => (Nat.pow 10 n : Rat)
  | .negSucc n => mkRat 1 (Nat.pow 10 (n + 1))

/-- The nearest integer, a tie going to the even neighbour. -/
def roundHalfEven (value : Rat) : Int :=
  let low := value.floor
  let excess := value - low
  if excess < mkRat 1 2 then low
  else if mkRat 1 2 < excess then low + 1
  else if low % 2 = 0 then low
  else low + 1

namespace Binary64

/-- The one admitted form of a magnitude: a significand of full width, or the least exponent. -/
def Canonical (significand : Nat) (exponent : Int) : Prop :=
  significand < Nat.pow 2 53 ∧ -1074 ≤ exponent ∧ exponent ≤ 971 ∧
    (Nat.pow 2 52 ≤ significand ∨ exponent = -1074)

instance (significand : Nat) (exponent : Int) : Decidable (Canonical significand exponent) := by
  unfold Canonical
  infer_instance

/-- A finite number: a signed significand times a power of two. -/
structure Finite where
  /-- The sign, which a zero has as well. -/
  negative : Bool
  /-- The significand. -/
  significand : Nat
  /-- Power of two by which the significand is scaled. -/
  exponent : Int
  /-- The magnitude has its canonical form. -/
  canonical : Canonical significand exponent
  deriving DecidableEq

namespace Finite

/-- Zero with a sign. -/
def zero (negative : Bool) : Finite :=
  ⟨negative, 0, -1074, by decide⟩

instance : Inhabited Finite := ⟨zero false⟩

/-- The number is a zero of either sign. -/
def isZero (value : Finite) : Bool :=
  value.significand == 0

/-- Distance from zero. -/
def magnitude (value : Finite) : Rat :=
  (value.significand : Rat) * twoPow value.exponent

/-- The rational number that is denoted. -/
def toRat (value : Finite) : Rat :=
  if value.negative then -value.magnitude else value.magnitude

end Finite

end Binary64

/-- A 64-bit binary floating-point number. -/
inductive Binary64 where
  /-- Not a number. -/
  | nan
  /-- An infinity of either sign. -/
  | infinite (negative : Bool)
  /-- A finite number. -/
  | finite (value : Binary64.Finite)
  deriving DecidableEq

namespace Binary64

/-- The finite number of a sign and a scaled significand, or the infinity beyond the range. -/
def ofParts (negative : Bool) (significand : Nat) (exponent : Int) : Binary64 :=
  if canonical : Canonical significand exponent then
    .finite ⟨negative, significand, exponent, canonical⟩
  else .infinite negative

/-- The exponent at which a positive magnitude has a significand of at most 53 bits. -/
def roundingExponent (magnitude : Rat) : Int :=
  let estimate : Int := (magnitude.num.natAbs.log2 : Int) - (magnitude.den.log2 : Int)
  max (if magnitude < twoPow estimate then estimate - 53 else estimate - 52) (-1074)

/-- The number nearest to a magnitude with a sign, a tie going to the even significand. -/
def round (negative : Bool) (magnitude : Rat) : Binary64 :=
  let exponent := roundingExponent magnitude
  let significand := (roundHalfEven (magnitude / twoPow exponent)).toNat
  if significand = 0 then .finite (.zero negative)
  else if significand = Nat.pow 2 53 then ofParts negative (Nat.pow 2 52) (exponent + 1)
  else ofParts negative significand exponent

/-- The number nearest to a rational. -/
def ofRat (value : Rat) : Binary64 :=
  if value < 0 then round true (-value) else round false value

/-- The number nearest to an integer. -/
def ofInt (value : Int) : Binary64 :=
  ofRat (value : Rat)

instance (n : Nat) : OfNat Binary64 n := ⟨ofInt n⟩

/-- The rational number that a finite number denotes. -/
def toRat? : Binary64 → Option Rat
  | .finite value => some value.toRat
  | _ => none

/-- The usual order, in which a number that is none compares with nothing. -/
def less : Binary64 → Binary64 → Bool
  | .finite left, .finite right => left.toRat < right.toRat
  | .infinite true, .finite _ => true
  | .infinite true, .infinite false => true
  | .finite _, .infinite false => true
  | _, _ => false

/-- Less than or equal in value. -/
def lessEq : Binary64 → Binary64 → Bool
  | .finite left, .finite right => left.toRat ≤ right.toRat
  | .infinite left, .infinite right => left || !right
  | .infinite true, .finite _ => true
  | .finite _, .infinite false => true
  | _, _ => false

instance : LT Binary64 := ⟨fun left right => less left right = true⟩

instance : LE Binary64 := ⟨fun left right => lessEq left right = true⟩

instance (left right : Binary64) : Decidable (left < right) :=
  inferInstanceAs (Decidable (less left right = true))

instance (left right : Binary64) : Decidable (left ≤ right) :=
  inferInstanceAs (Decidable (lessEq left right = true))

/-- The number less its remainder by a step: the nearest multiple of the step that is not above. -/
def floorTo (step : Nat) : Binary64 → Binary64
  | .finite value =>
    let quotient := value.toRat / (step : Rat)
    ofRat (value.toRat - (step : Rat) * (quotient - quotient.floor))
  | value => value

end Binary64
end LambdaStack
