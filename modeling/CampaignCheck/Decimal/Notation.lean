import CampaignCheck.Decimal.Binary

namespace CampaignCheck.Decimal

/-- The number `digits * 10^exponent`. -/
structure Scaled where
  digits : Nat
  exponent : Int
deriving DecidableEq, Repr, Inhabited

/-- Compare `a * 10^i` with `n * 2^j`. -/
def compareScaled (a : Nat) (i : Int) (n : Nat) (j : Int) : Ordering :=
  compare (a * tenTo i.toNat * twoTo (-j).toNat) (n * twoTo j.toNat * tenTo (-i).toNat)

namespace Binary

/-- The decimal lies among the numbers that are rounded to this value. -/
def readsBack (x : Binary) (d : Scaled) : Bool :=
  let low := if x.narrowBelow then 4 * x.significand - 1 else 4 * x.significand - 2
  let closed := x.significand % 2 == 0
  let below := compareScaled d.digits d.exponent low (x.exponent - 2)
  let above := compareScaled d.digits d.exponent (4 * x.significand + 2) (x.exponent - 2)
  (below == .gt || (closed && below == .eq)) && (above == .lt || (closed && above == .eq))

/-- The whole part of the value in units of `10^grid`. -/
def floorOn (x : Binary) (grid : Int) : Nat :=
  x.significand * twoTo x.exponent.toNat * tenTo (-grid).toNat /
    (twoTo (-x.exponent).toNat * tenTo grid.toNat)

/-- The value is nearer to the upper of its neighbours on a grid, or halfway with an odd lower. -/
def preferUpper (x : Binary) (grid : Int) (lower : Nat) : Bool :=
  match compareScaled (2 * lower + 1) grid (2 * x.significand) x.exponent with
  | .lt => true
  | .eq => lower % 2 == 1
  | .gt => false

/-- The better neighbour of the value on a grid that reads back. -/
def onGrid? (x : Binary) (grid : Int) : Option Scaled :=
  let lower := x.floorOn grid
  let down : Scaled := ⟨lower, grid⟩
  let up : Scaled := ⟨lower + 1, grid⟩
  match x.readsBack down, x.readsBack up with
  | true, true => some (if x.preferUpper grid lower then up else down)
  | true, false => some down
  | false, true => some up
  | false, false => none

/-- The first exponent from `k` on whose power of ten exceeds the value. -/
def scaleFrom (x : Binary) : Nat → Int → Int
  | 0, k => k
  | n + 1, k =>
    if compareScaled 1 k x.significand x.exponent == .gt then k else scaleFrom x n (k + 1)

/-- The number of digits before the point, negative for zeros behind it. -/
def scale (x : Binary) : Int :=
  let bits : Int := x.significand.log2 + x.exponent
  x.scaleFrom 8 (Int.fdiv (bits * 30103) 100000 - 2)

def exact (x : Binary) : Scaled :=
  ⟨x.significand * twoTo x.exponent.toNat * Nat.pow 5 (-x.exponent).toNat, min 0 x.exponent⟩

end Binary

/-- Move zeros at the end of the digits into the exponent. -/
def Scaled.stripZeros : Nat → Scaled → Scaled
  | 0, d => d
  | n + 1, d =>
    if d.digits ≠ 0 && d.digits % 10 == 0 then stripZeros n ⟨d.digits / 10, d.exponent + 1⟩ else d

/-- The shortest decimal that reads back as a value other than zero. Among several it is the nearest
to the value; a tie goes to the even digits. -/
def Binary.shortest (x : Binary) : Scaled :=
  let grids := (List.range 17).map fun n => x.scale - (n + 1 : Nat)
  ((grids.findSome? x.onGrid?).getD x.exact).stripZeros 20

/-- The exponents of the leading digit that are written positionally. -/
def isPositional (leading : Int) : Bool := -4 ≤ leading && leading < 16

/-- Digits in positional notation, with at least one digit behind the point. -/
def positional (digits : List Char) (exponent : Int) : List Char :=
  if 0 ≤ exponent then digits ++ List.replicate exponent.toNat '0' ++ ['.', '0']
  else
    let behind := (-exponent).toNat
    let padded := List.replicate (behind + 1 - digits.length) '0' ++ digits
    padded.take (padded.length - behind) ++ '.' :: padded.drop (padded.length - behind)

def exponential (digits : List Char) (leading : Int) : List Char :=
  let mantissa := match digits with
    | [] => []
    | [d] => [d]
    | d :: ds => d :: '.' :: ds
  let power := Nat.toDigits 10 leading.natAbs
  mantissa ++ ['e', if leading < 0 then '-' else '+'] ++
    List.replicate (2 - power.length) '0' ++ power

/-- A decimal in natural notation: positional from a ten-thousandth up to sixteen digits, otherwise
with a signed exponent of at least two digits. -/
def Scaled.natural (d : Scaled) : List Char :=
  let digits := Nat.toDigits 10 d.digits
  let leading := d.exponent + (digits.length : Int) - 1
  if isPositional leading then positional digits d.exponent else exponential digits leading

/-- How values that are no finite numbers are spelled. -/
structure Spelling where
  notANumber : String
  infinite : String

def render (spelling : Spelling) (x : Float) : String :=
  match Reading.of x with
  | .notANumber => spelling.notANumber
  | .infinite negative => (if negative then "-" else "") ++ spelling.infinite
  | .finite b =>
    (if b.negative then "-" else "") ++
      (if b.significand = 0 then "0.0" else String.ofList b.shortest.natural)

end CampaignCheck.Decimal
