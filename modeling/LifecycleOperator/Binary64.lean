/-!
# Binary floating point numbers

A number is kept as the 64 bits of its binary form, so that equality is
decidable and two numbers are told apart exactly when their bits differ.  The
decimal text of a number has the fewest digits that read back as the same
number; of two candidates with that many digits the nearer one is written, and
a tie goes to the even digit.
-/

namespace LifecycleOperator

/-- A binary floating point number, given by its bits. -/
structure Binary64 where
  /-- Sign bit, eleven bits of exponent and fifty-two bits of fraction. -/
  bits : UInt64
  deriving DecidableEq, Repr, Inhabited

namespace Binary64

/-- The number that the arithmetic of the machine calculated. -/
def ofFloat (value : Float) : Binary64 :=
  ⟨value.toBits⟩

/-- The number as the arithmetic of the machine takes it. -/
def toFloat (number : Binary64) : Float :=
  Float.ofBits number.bits

def zero : Binary64 := ⟨0⟩

/-- The sum, rounded as the machine rounds it. -/
def plus (first second : Binary64) : Binary64 :=
  ofFloat (first.toFloat + second.toFloat)

/-- The sign bit, also of zero. -/
def isNegative (number : Binary64) : Bool :=
  number.bits.toNat >>> 63 == 1

/-- The eleven bits of the exponent. -/
def exponentField (number : Binary64) : Nat :=
  (number.bits.toNat >>> 52) % 0x800

/-- The fifty-two bits of the fraction. -/
def fractionField (number : Binary64) : Nat :=
  number.bits.toNat % 0x10000000000000

/-- Both zeros, and nothing else. -/
def isZero (number : Binary64) : Bool :=
  number.exponentField == 0 && number.fractionField == 0

/-- The largest exponent marks the infinities and what is not a number. -/
def isFinite (number : Binary64) : Bool :=
  number.exponentField != 2047

/-- The whole number `m` of the magnitude `m * 2 ^ q`. -/
def significand (number : Binary64) : Nat :=
  if number.exponentField == 0 then number.fractionField
  else 0x10000000000000 + number.fractionField

/-- The exponent `q` of the magnitude `m * 2 ^ q`. -/
def exponent (number : Binary64) : Int :=
  (max number.exponentField 1 : Nat) - 1075

/-- A decimal magnitude `digits * 10 ^ exponent`. -/
structure Decimal where
  /-- The digits, read as a whole number. -/
  digits : Nat
  /-- The power of ten of the last digit. -/
  exponent : Int
  deriving DecidableEq, Repr, Inhabited

/--
The point of the grid `10 ^ gridExponent` that reads back as the number, if
there is one.  The reals that read back reach half way to both neighbours; the
ends belong to them exactly when the significand is even.  Everything is
multiplied by four and by powers of two and ten, so that only whole numbers are
compared.
-/
def gridPoint (number : Binary64) (gridExponent : Int) : Option Nat :=
  let significand := number.significand
  let below :=
    if number.fractionField == 0 && number.exponentField > 1 then 1 else 2
  let twos := number.exponent - 2
  let scale := Nat.pow 2 twos.toNat * Nat.pow 10 (-gridExponent).toNat
  let unit := Nat.pow 10 gridExponent.toNat * Nat.pow 2 (-twos).toNat
  let exact := 4 * significand * scale
  let lower := (4 * significand - below) * scale
  let upper := (4 * significand + 2) * scale
  let inside (point : Nat) : Bool :=
    if significand % 2 == 0 then lower ≤ point * unit && point * unit ≤ upper
    else lower < point * unit && point * unit < upper
  let floor := exact / unit
  let toFloor := exact - floor * unit
  let toCeiling := (floor + 1) * unit - exact
  match inside floor, inside (floor + 1) with
  | false, false => none
  | true, false => some floor
  | false, true => some (floor + 1)
  | true, true =>
      if toFloor < toCeiling || (toFloor == toCeiling && floor % 2 == 0) then
        some floor
      else some (floor + 1)

/-- The shortest decimal magnitude that reads back as the number. -/
def shortest (number : Binary64) : Decimal :=
  if number.isZero then ⟨0, 0⟩
  else
    let bits : Int := number.significand.log2 + 1 + number.exponent
    let start := bits * 30103 / 100000 + 1
    let grids := (List.range 24).map fun (step : Nat) => start - (step : Int)
    let found := grids.findSome? fun grid =>
      (number.gridPoint grid).map fun point => (⟨point, grid⟩ : Decimal)
    found.getD ⟨0, 0⟩

/--
How far from the first digit the point may stand in a number that is written without a
power of ten, counted in places to the right.
-/
structure Layout where
  /-- The point stands farther to the right than this; zeros fill what is in between. -/
  least : Int
  /-- The point stands no farther to the right than this. -/
  most : Int
  deriving DecidableEq, Repr, Inhabited

/--
The text of a finite number: with a fraction part when it is written without a power of
ten, and with a single digit in front of the point otherwise.
-/
def textIn (layout : Layout) (number : Binary64) : String :=
  let decimal := number.shortest
  let digits := toString decimal.digits
  let point : Int := digits.length + decimal.exponent
  let zeros (count : Nat) : String := String.ofList (List.replicate count '0')
  let magnitude :=
    if number.isZero then "0.0"
    else if 0 ≤ decimal.exponent && point ≤ layout.most then
      digits ++ zeros decimal.exponent.toNat ++ ".0"
    else if 0 < point && point ≤ layout.most then
      (digits.take point.toNat).toString ++ "." ++
        (digits.drop point.toNat).toString
    else if layout.least < point && point ≤ 0 then
      "0." ++ zeros (-point).toNat ++ digits
    else if digits.length == 1 then
      digits ++ "e" ++ toString (point - 1)
    else
      (digits.take 1).toString ++ "." ++ (digits.drop 1).toString ++
        "e" ++ toString (point - 1)
  if number.isNegative then "-" ++ magnitude else magnitude

/-- The text of a finite number: positional from `1e-5` up to below `1e16`. -/
def text (number : Binary64) : String := number.textIn ⟨-5, 16⟩

/--
The value `significand * 10 ^ exponent`, each of the two steps rounded on its
own: the whole number first, then the product or the quotient with a power of
ten.  Exponents below the range of the powers are taken off in steps of 308.
-/
def scaled (value : Float) (exponent : Int) : Float :=
  if 308 < exponent then
    if value == 0.0 then value else value * 1e308 * 1e308
  else if 0 ≤ exponent then
    value * Float.ofScientific 1 false exponent.toNat
  else if -308 ≤ exponent then
    value / Float.ofScientific 1 false (-exponent).toNat
  else if value == 0.0 then value
  else scaled (value / 1e308) (exponent + 308)
termination_by (-exponent).toNat
decreasing_by omega

end Binary64

end LifecycleOperator
