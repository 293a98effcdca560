import ProseLinter.Number.Shortest

/-!
Reading decimals: the floating-point number nearest to a whole number times a power of ten.
-/

namespace ProseLinter

def decimalValue (digits : List Char) : Nat :=
  digits.foldl (fun value digit => value * 10 + (digit.toNat - '0'.toNat)) 0

/-- The floating-point number nearest to `mantissa * 10 ^ exponent`. Decimals beyond the range of
the format are infinite, and those too small for it are zero. -/
def floatOfDecimal (mantissa : Nat) (exponent : Int) : Float :=
  let magnitude := exponent + Binary.digitCount mantissa
  if mantissa == 0 ∨ magnitude < -330 then 0.0
  else if 310 < magnitude then 1.0 / 0.0
  else Float.ofScientific mantissa (decide (exponent < 0)) exponent.natAbs

/-- The floating-point number nearest to a whole number; none if it is beyond the range of the
format. -/
def floatOfInt? (n : Int) : Option Float :=
  let magnitude := floatOfDecimal n.natAbs 0
  if magnitude.isInf then none else some (if n < 0 then -magnitude else magnitude)

/-- What remains of a decimal after its digits before the point: the digits after the point and the
power of ten. -/
structure DecimalTail where
  fraction : Option (List Char)
  exponent : Option Int

def DecimalTail.value (tail : DecimalTail) (whole : List Char) : Float :=
  let fraction := tail.fraction.getD []
  floatOfDecimal (decimalValue (whole ++ fraction)) (tail.exponent.getD 0 - fraction.length)

end ProseLinter
