import LifecycleOperator.Json.Basic

/-!
# Numbers as written

A numeral is an optional minus sign, a whole part without superfluous zeros, an
optional fraction and an optional exponent.  It denotes an exact integer when it
has neither fraction nor exponent and fits into 64 bits, signed for negative
numerals and unsigned for the others; minus zero is not an integer.  Everything
else denotes a binary floating point number, or nothing when that would be
infinite.
-/

namespace LifecycleOperator

/-- The parts of a written number. -/
structure Numeral where
  negative : Bool
  whole : List Nat
  fraction : List Nat
  /-- The power of ten, when one was written. -/
  exponent : Option Int
  deriving DecidableEq, Repr, Inhabited

namespace Numeral

def digit? (char : Char) : Option Nat :=
  if char.isDigit then some (char.toNat - '0'.toNat) else none

/-- Take the leading digits off a text. -/
def digits : List Char → List Nat × List Char
  | [] => ([], [])
  | char :: rest =>
      match digit? char with
      | some value =>
          let (values, remaining) := digits rest
          (value :: values, remaining)
      | none => ([], char :: rest)

def ofDigits (values : List Nat) : Nat :=
  values.foldl (fun total value => total * 10 + value) 0

/-- Read what follows the fraction: nothing, or a whole exponent. -/
def exponent? : List Char → Option (Option Int)
  | [] => some none
  | mark :: rest =>
      if mark = 'e' ∨ mark = 'E' then
        let (sign, magnitude) : Int × List Char :=
          match rest with
          | '+' :: more => (1, more)
          | '-' :: more => (-1, more)
          | more => (1, more)
        match digits magnitude with
        | ([], _) => none
        | (values, []) => some (some (sign * ofDigits values))
        | _ => none
      else none

def read? (text : List Char) : Option Numeral :=
  let (negative, unsigned) :=
    match text with
    | '-' :: rest => (true, rest)
    | rest => (false, rest)
  match digits unsigned with
  | ([], _) => none
  | (0 :: _ :: _, _) => none
  | (whole, '.' :: rest) =>
      match digits rest with
      | ([], _) => none
      | (fraction, remaining) =>
          (exponent? remaining).map fun exponent =>
            ⟨negative, whole, fraction, exponent⟩
  | (whole, remaining) =>
      (exponent? remaining).map fun exponent =>
        ⟨negative, whole, [], exponent⟩

/--
Append digits to a significand as long as it fits into 64 bits.  The first digit
that does not fit ends this; it and the digits behind it are given back.
-/
def absorb : Nat → List Nat → Nat × List Nat
  | significand, [] => (significand, [])
  | significand, value :: rest =>
      let next := significand * 10 + value
      if next < 0x10000000000000000 then absorb next rest
      else (significand, value :: rest)

/--
The floating point value.  Digits of the whole part that do not fit into the
significand still count for the magnitude, those of the fraction are dropped.
-/
def binary? (numeral : Numeral) : Option Binary64 :=
  let (wholePart, beyond) := absorb 0 numeral.whole
  let (significand, dropped) := absorb wholePart numeral.fraction
  let kept : Nat := numeral.fraction.length - dropped.length
  let exponent : Int := beyond.length - kept + numeral.exponent.getD 0
  let magnitude :=
    Binary64.scaled (UInt64.ofNat significand).toFloat exponent
  let value := Binary64.ofFloat (if numeral.negative then -magnitude else magnitude)
  if value.isFinite then some value else none

def number? (numeral : Numeral) : Option Number :=
  let value := ofDigits numeral.whole
  if numeral.fraction.isEmpty && numeral.exponent.isNone then
    if numeral.negative then
      if 0 < value && value ≤ 0x8000000000000000 then some (.integer (-value))
      else numeral.binary?.map .binary
    else if value < 0x10000000000000000 then some (.integer value)
    else numeral.binary?.map .binary
  else numeral.binary?.map .binary

end Numeral

end LifecycleOperator
