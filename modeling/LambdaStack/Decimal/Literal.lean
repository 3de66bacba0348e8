import LambdaStack.Binary64

/-!
# Decimal literals

The binary number that a literal with a fraction or an exponent stands for. Its digits are gathered
into a significand of 64 bits, which is rounded and then scaled by a rounded power of ten, so the
result may differ from the nearest number in the last bits.
-/

namespace LambdaStack

/-- A number as it is spelled: digits before and after the point, and an exponent. -/
structure Literal where
  /-- A minus sign comes first. -/
  negative : Bool
  /-- Digits before the point. -/
  whole : List Char
  /-- Digits after the point, if there is one. -/
  fraction : Option (List Char)
  /-- Sign and digits of the exponent, if there is one. -/
  exponent : Option (Bool × List Char)

namespace Literal

/-- Number that a run of digits denotes. -/
def digitsValue (digits : List Char) : Nat :=
  Nat.ofDigitChars 10 digits 0

/-- Digits gathered so far. -/
structure Gathered where
  /-- The digits, as a number below `2 ^ 64`. -/
  significand : Nat
  /-- Power of ten of the last gathered digit. -/
  exponent : Int
  /-- A digit did not fit, so that no further one is taken. -/
  full : Bool

namespace Gathered

/-- Take a digit before the point; one that does not fit only raises the exponent. -/
def pushWhole (state : Gathered) (digit : Char) : Gathered :=
  let significand := state.significand * 10 + digitsValue [digit]
  if state.full ∨ Nat.pow 2 64 ≤ significand then
    { state with exponent := state.exponent + 1, full := true }
  else { state with significand }

/-- Take a digit after the point; one that does not fit is dropped. -/
def pushFraction (state : Gathered) (digit : Char) : Gathered :=
  let significand := state.significand * 10 + digitsValue [digit]
  if state.full ∨ Nat.pow 2 64 ≤ significand then { state with full := true }
  else { state with significand, exponent := state.exponent - 1 }

end Gathered

/-- The significand of a literal and its power of ten, before the written exponent. -/
def gather (literal : Literal) : Gathered :=
  let whole := literal.whole.foldl Gathered.pushWhole ⟨0, 0, false⟩
  (literal.fraction.getD []).foldl Gathered.pushFraction { whole with full := false }

/-- Greatest exponent that is read in full. -/
def exponentLimit : Nat := Nat.pow 2 31 - 1

/-- Length of the shortest start of the exponent digits that exceeds the limit. -/
def excessLength? (digits : List Char) : Option Nat :=
  (List.range (digits.length + 1)).find? fun count =>
    exponentLimit < digitsValue (digits.take count)

/-- A number times the binary number nearest to a power of ten, unless it is out of range. -/
def raise (value : Rat) (power : Nat) : Option Binary64.Finite :=
  match Binary64.ofInt (Nat.pow 10 power) with
  | .finite scale =>
    match Binary64.ofRat (value * scale.toRat) with
    | .finite result => some result
    | _ => none
  | _ => none

/-- A number divided by the binary number nearest to a power of ten. -/
def lower (value : Rat) (power : Nat) : Binary64.Finite :=
  match Binary64.ofInt (Nat.pow 10 power) with
  | .finite scale =>
    match Binary64.ofRat (value / scale.toRat) with
    | .finite result => result
    | _ => .zero false
  | _ => .zero false

/-- A rounded significand scaled by a power of ten, `none` when it is too large. Powers below
`10 ^ (-308)` are divided out in two steps. -/
def scale (significand : Nat) (exponent : Int) : Option Binary64.Finite :=
  match Binary64.ofInt significand with
  | .finite value =>
    if value.isZero then some value
    else if 308 < exponent then none
    else if 0 ≤ exponent then raise value.toRat exponent.toNat
    else if -308 ≤ exponent then some (lower value.toRat (-exponent).toNat)
    else if -616 ≤ exponent then
      some (lower (lower value.toRat 308).toRat (-exponent - 308).toNat)
    else some (.zero false)
  | _ => none

/-- The binary number that a literal stands for, `none` when it is too large. -/
def toFinite? (literal : Literal) : Option Binary64.Finite :=
  let gathered := literal.gather
  let magnitude :=
    match literal.exponent with
    | none => scale gathered.significand gathered.exponent
    | some (falling, digits) =>
      if (excessLength? digits).isSome then
        if gathered.significand = 0 ∨ falling then some (.zero false) else none
      else if falling then scale gathered.significand (gathered.exponent - digitsValue digits)
      else scale gathered.significand (gathered.exponent + digitsValue digits)
  magnitude.map fun value => { value with negative := literal.negative }

end Literal
end LambdaStack
