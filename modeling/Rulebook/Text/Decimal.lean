/-
This file reads decimal numerals. A numeral that fits is an integer; otherwise it is rounded
to the nearest double. An exponent so large or so small that the result is certainly
infinite or nought is never multiplied out.
-/

namespace Rulebook.Decimal

/-- The number that decimal digits write. -/
def ofDigits (digits : List Char) : Nat :=
  digits.foldl (fun value c => 10 * value + (c.toNat - '0'.toNat)) 0

/-- An integer fits in sixty-four bits, one of them for its sign. -/
def fitsWord (value : Int) : Bool :=
  -9223372036854775808 ≤ value && value < 9223372036854775808

/-- A numeral in scientific form: `digits · 10 ^ exponent`, with a sign. -/
structure Numeral where
  negative : Bool
  digits : Nat
  exponent : Int
  deriving DecidableEq, Repr

/-- How many decimal digits a number has; nought has none. -/
def digitCount (number : Nat) : Nat :=
  if number = 0 then 0 else (Nat.toDigits 10 number).length

/-- The double nearest to the absolute value of a numeral. A double has at most 309 digits
before the point, and one below `10 ^ -324` rounds to nought. -/
def Numeral.magnitude (numeral : Numeral) : Float :=
  let leading := Int.ofNat (digitCount numeral.digits) + numeral.exponent
  if numeral.digits = 0 then 0.0
  else if 400 < leading then 1.0 / 0.0
  else if leading < -400 then 0.0
  else if 0 ≤ numeral.exponent then
    Float.ofScientific numeral.digits false numeral.exponent.toNat
  else Float.ofScientific numeral.digits true (-numeral.exponent).toNat

/-- The double nearest to a numeral. -/
def Numeral.toFloat (numeral : Numeral) : Float :=
  if numeral.negative then -numeral.magnitude else numeral.magnitude

/-- A fixed number of digits in some base, the most significant first. -/
def padded (base width number : Nat) : String :=
  let digits := Nat.toDigits base number
  String.ofList (List.replicate (width - digits.length) '0' ++ digits)

/-- The sixty-four bits of a double in hexadecimal. -/
def bits (value : Float) : String :=
  padded 16 16 value.toBits.toNat

end Rulebook.Decimal
