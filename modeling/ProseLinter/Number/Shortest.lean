/-!
The shortest decimal of a floating-point number: the fewest digits that read back as the same
number, and among those the decimal nearest to it. A finite number is a whole number times a power
of two, so the search is exact.
-/

namespace ProseLinter

def twoTo (exponent : Nat) : Nat := Nat.pow 2 exponent

def tenTo (exponent : Nat) : Nat := Nat.pow 10 exponent

/-- A decimal: the digits `digits`, without a zero at the end, times a power of ten such that the
first digit stands for `10 ^ exponent`. -/
structure Decimal where
  digits : List Char
  exponent : Int
deriving Repr, DecidableEq

/-- A positive finite floating-point number: `significand * 2 ^ power`. The numbers next to it are
`2 ^ power` away, except that the one below a power of two is half as far if `narrow`. -/
structure Binary where
  significand : Nat
  power : Int
  narrow : Bool
deriving Repr, DecidableEq

/-- What the bits of a floating-point number say. -/
inductive FloatClass where
  | zero (negative : Bool)
  | finite (negative : Bool) (magnitude : Binary)
  | infinite (negative : Bool)
  | undefined
deriving Repr, DecidableEq

namespace FloatClass

def ofBits (bits : UInt64) : FloatClass :=
  let negative := bits >>> 63 == 1
  let exponent := ((bits >>> 52) &&& 0x7FF).toNat
  let fraction := (bits &&& 0xFFFFFFFFFFFFF).toNat
  if exponent == 0x7FF then if fraction == 0 then .infinite negative else .undefined
  else if exponent == 0 then
    if fraction == 0 then .zero negative else .finite negative ⟨fraction, -1074, false⟩
  else .finite negative
    ⟨twoTo 52 + fraction, (exponent : Int) - 1075, fraction == 0 && 1 < exponent⟩

end FloatClass

namespace Binary

def digitCount (n : Nat) : Nat := (Nat.toDigits 10 n).length

def quotient (x : Binary) : Nat × Nat :=
  if 0 ≤ x.power then (x.significand * twoTo x.power.toNat, 1)
  else (x.significand, twoTo (-x.power).toNat)

def leadingExponent (x : Binary) : Int :=
  let (top, bottom) := x.quotient
  let guess : Int := digitCount top - digitCount bottom
  let reached :=
    if 0 ≤ guess then decide (bottom * tenTo guess.toNat ≤ top)
    else decide (bottom ≤ top * tenTo (-guess).toNat)
  if reached then guess else guess - 1

/-- The multiple of `10 ^ place` nearest to the number, if it reads back as the number: it then lies
between the middles to the neighbours of the number, the middles included if the significand is
even. Of two equally near the even one wins. -/
def onGrid? (x : Binary) (place : Int) : Option Nat :=
  let up := twoTo x.power.toNat * tenTo (-place).toNat
  let unit := 4 * (twoTo (-x.power).toNat * tenTo place.toNat)
  let value := 4 * x.significand * up
  let low := value - (if x.narrow then up else 2 * up)
  let high := value + 2 * up
  let inside (n : Nat) : Bool :=
    if x.significand % 2 == 0 then low ≤ n * unit && n * unit ≤ high
    else low < n * unit && n * unit < high
  let below := value / unit
  let above := below + 1
  let belowDistance := value - below * unit
  let aboveDistance := above * unit - value
  let belowFirst :=
    belowDistance < aboveDistance || (belowDistance == aboveDistance && below % 2 == 0)
  match inside below, inside above with
  | true, true => some (if belowFirst then below else above)
  | true, false => some below
  | false, true => some above
  | false, false => none

/-- The first grid, of those with `count`, `count + 1`, … digits, that has a multiple which reads
back. -/
def search (x : Binary) (lead : Int) : Nat → Nat → Nat × Int
  | 0, _ => (x.quotient.1, 0)
  | tries + 1, count =>
      let place := lead - count + 1
      match x.onGrid? place with
      | some n => (n, place)
      | none => search x lead tries (count + 1)

/-- The fewest digits that read back as the number; seventeen always do. -/
def shortest (x : Binary) : Decimal :=
  let (n, place) := search x x.leadingExponent 17 1
  let all := Nat.toDigits 10 n
  let significant := (all.reverse.dropWhile (· == '0')).reverse
  ⟨significant, place + all.length - 1⟩

end Binary

/-- How a floating-point number is written: how the numbers without a decimal are spelt, and the
exponents between which the point is placed among the digits. -/
structure FloatStyle where
  undefined : String
  infinite : String
  leastPositional : Int
  mostPositional : Int

namespace FloatStyle

/-- Digits with the point placed among them, and a zero where a side of the point would be empty. -/
def positional (decimal : Decimal) : String :=
  let digits := decimal.digits
  if decimal.exponent < 0 then
    "0." ++ String.ofList (List.replicate (-decimal.exponent - 1).toNat '0' ++ digits)
  else
    let whole := decimal.exponent.toNat + 1
    let before := digits.take whole ++ List.replicate (whole - digits.length) '0'
    let after := digits.drop whole
    String.ofList before ++ "." ++ String.ofList (if after.isEmpty then ['0'] else after)

/-- One digit before the point, and the exponent with its sign and at least two digits. -/
def scientific (decimal : Decimal) : String :=
  let first := decimal.digits.take 1
  let more := decimal.digits.drop 1
  let size := toString decimal.exponent.natAbs
  String.ofList first ++ (if more.isEmpty then "" else "." ++ String.ofList more) ++ "e" ++
    (if decimal.exponent < 0 then "-" else "+") ++ (if size.length < 2 then "0" ++ size else size)

def write (style : FloatStyle) (x : Float) : String :=
  let signed (negative : Bool) (magnitude : String) :=
    if negative then "-" ++ magnitude else magnitude
  match FloatClass.ofBits x.toBits with
  | .undefined => style.undefined
  | .infinite negative => signed negative style.infinite
  | .zero negative => signed negative "0.0"
  | .finite negative magnitude =>
      let decimal := magnitude.shortest
      let inside :=
        style.leastPositional ≤ decimal.exponent ∧ decimal.exponent ≤ style.mostPositional
      signed negative (if inside then positional decimal else scientific decimal)

end FloatStyle

end ProseLinter
