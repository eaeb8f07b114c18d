namespace CampaignCheck.Decimal

def twoTo (n : Nat) : Nat := Nat.pow 2 n

def tenTo (n : Nat) : Nat := Nat.pow 10 n

/-- A finite value `(-1)^negative * significand * 2^exponent`. -/
structure Binary where
  negative : Bool
  significand : Nat
  exponent : Int
  /-- The gap to the value below is half the gap to the value above. -/
  narrowBelow : Bool
deriving DecidableEq, Repr, Inhabited

/-- What a floating-point value is. -/
inductive Reading where
  | finite (value : Binary)
  | infinite (negative : Bool)
  | notANumber
deriving DecidableEq, Repr, Inhabited

/-- The value that sixty-four bits stand for. -/
def Reading.ofBits (bits : UInt64) : Reading :=
  let negative := bits >>> 63 != 0
  let exponent := ((bits >>> 52) &&& 0x7FF).toNat
  let fraction := (bits &&& 0xFFFFFFFFFFFFF).toNat
  if exponent = 0x7FF then
    if fraction = 0 then .infinite negative else .notANumber
  else if exponent = 0 then .finite ⟨negative, fraction, -1074, false⟩
  else .finite ⟨negative, twoTo 52 + fraction, exponent - 1075, fraction == 0 && exponent > 1⟩

/-- The exact value of a float. -/
def Reading.of (x : Float) : Reading := .ofBits x.toBits

/-- A quotient rounded to the nearest integer, a half to the even one. -/
def roundDiv (num den : Nat) : Nat :=
  let q := num / den
  let r := num % den
  if 2 * r < den then q
  else if den < 2 * r then q + 1
  else if q % 2 = 0 then q else q + 1

namespace Binary

/-- The magnitude in units of `10^(-places)`, rounded. -/
def inUnits (x : Binary) (places : Nat) : Nat :=
  roundDiv (x.significand * twoTo x.exponent.toNat * tenTo places) (twoTo (-x.exponent).toNat)

/-- The value has no fractional part. -/
def isIntegral (x : Binary) : Bool :=
  x.significand % twoTo (-x.exponent).toNat == 0

/-- The value without its fractional part. -/
def truncate (x : Binary) : Int :=
  let n := x.significand * twoTo x.exponent.toNat / twoTo (-x.exponent).toNat
  if x.negative then -(n : Int) else n

end Binary

/-- The magnitude of a float in units of `10^(-places)`, rounded; none if it is not finite. -/
def inUnits? (x : Float) (places : Nat) : Option Nat :=
  match Reading.of x with
  | .finite b => some (b.inUnits places)
  | _ => none

/-- Digits with a point before the last `places` of them. -/
def withPoint (places : Nat) (digits : List Char) : List Char :=
  if places = 0 then digits
  else
    let padded := List.replicate (places + 1 - digits.length) '0' ++ digits
    padded.take (padded.length - places) ++ '.' :: padded.drop (padded.length - places)

/-- A count of units of `10^(-places)` in positional notation. -/
def ofUnits (places units : Nat) : String :=
  String.ofList (withPoint places (Nat.toDigits 10 units))

/-- A non-negative float with a fixed number of places, rounded from its exact value. -/
def fixed (places : Nat) (x : Float) : String := ofUnits places ((inUnits? x places).getD 0)

end CampaignCheck.Decimal
