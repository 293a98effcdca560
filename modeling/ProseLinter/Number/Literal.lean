import ProseLinter.Number.Reading
import ProseLinter.Text.Blank
import ProseLinter.Text.CharClass
import ProseLinter.Text.Quoted

/-!
Numbers in words of their own: a text that is to be read as a number and nothing else. White space
around the number does not count, and the digits may be those of any script. A whole number in base
ten has at most 4300 digits.
-/

namespace ProseLinter

inductive NumberFault where
  | tooManyDigits (count : Nat)
  | notWhole (base : Nat) (written : Text)
  | notDecimal (written : Text)
deriving Repr, DecidableEq

namespace NumberFault

def overLimit : String := "Exceeds the limit (4300 digits) for integer string conversion"

def remedy : String := "; use sys.set_int_max_str_digits() to increase the limit"

def message : NumberFault → String
  | tooManyDigits count => overLimit ++ ": value has " ++ toString count ++ " digits" ++ remedy
  | notWhole base written =>
      "invalid literal for int() with base " ++ toString base ++ ": " ++
        String.ofList (written.quoted.take 200)
  | notDecimal written => "could not convert string to float: " ++ String.ofList written.quoted

end NumberFault

def digitLimit : Nat := 4300

def wholeOfDigits (digits : List Char) : Except NumberFault Nat :=
  if digitLimit < digits.length then .error (.tooManyDigits digits.length)
  else .ok (decimalValue digits)

/-- Whether a code point may stand around a number: white space, but none of the information
separators. -/
def isPadding (c : Char) : Bool := isBlank c && !(28 ≤ c.toNat && c.toNat ≤ 31)

def Text.unpadded (text : Text) : Text := Text.dropEndWhile isPadding (text.dropWhile isPadding)

/-- A sign and what follows it; without a sign the number is positive. -/
def signed (text : Text) : Bool × Text :=
  match text with
  | '-' :: rest => (true, rest)
  | '+' :: rest => (false, rest)
  | _ => (false, text)

def hexValue? (c : Char) : Option Nat :=
  if c.isDigit then some (c.toNat - '0'.toNat)
  else if 'a' ≤ c ∧ c ≤ 'f' then some (c.toNat - 'a'.toNat + 10)
  else if 'A' ≤ c ∧ c ≤ 'F' then some (c.toNat - 'A'.toNat + 10)
  else none

def hexNumber? (digits : List Char) : Option Nat :=
  digits.foldlM (fun value digit => (hexValue? digit).map (value * 16 + ·)) 0

def digitIn? (base : Nat) (c : Char) : Option Nat :=
  ((digitValue? c).or (hexValue? c)).filter (· < base)

def digitsIn? (base : Nat) : Text → Option (List Nat)
  | [] => none
  | [c] => (digitIn? base c).map ([·])
  | c :: '_' :: rest => do return (← digitIn? base c) :: (← digitsIn? base rest)
  | c :: rest => do return (← digitIn? base c) :: (← digitsIn? base rest)

/-- The text without the mark of its base, if it has one; an underscore may follow the mark. -/
def unmarked (base : Nat) (text : Text) : Text :=
  let marks : List Char :=
    if base = 16 then ['x', 'X']
    else if base = 8 then ['o', 'O'] else if base = 2 then ['b', 'B'] else []
  match text with
  | '0' :: mark :: '_' :: rest => if marks.contains mark then rest else text
  | '0' :: mark :: rest => if marks.contains mark then rest else text
  | _ => text

def wholeLiteral (base : Nat) (text : Text) : Except NumberFault Int :=
  let (negative, magnitude) := signed text.unpadded
  match digitsIn? base (unmarked base magnitude) with
  | none => .error (.notWhole base text)
  | some digits =>
      if base = 10 ∧ digitLimit < digits.length then .error (.tooManyDigits digits.length)
      else
        let size := digits.foldl (fun value digit => value * base + digit) 0
        .ok (if negative then -(size : Int) else size)

def leadingDigits (text : Text) : List Char × Text :=
  let digits := text.takeWhile fun c => (digitValue? c).isSome
  (digits.map fun c => Char.ofNat ('0'.toNat + (digitValue? c).getD 0), text.drop digits.length)

/-- The exponent that ends a decimal; nothing is no exponent. -/
def endingExponent? (text : Text) : Option (Option Int) :=
  match text with
  | [] => some none
  | mark :: rest =>
      if mark = 'e' ∨ mark = 'E' then
        let (negative, unsigned) := signed rest
        let (digits, after) := leadingDigits unsigned
        if digits.isEmpty ∨ !after.isEmpty then none
        else
          let size : Int := decimalValue digits
          some (some (if negative then -size else size))
      else none

/-- The size that a text without a sign writes, with a point, an exponent, both or neither, or as a
word. -/
def decimalSize? (text : Text) : Option Float :=
  let word := String.ofList (text.map Char.toLower)
  if word = "inf" ∨ word = "infinity" then some (1.0 / 0.0)
  else if word = "nan" then some (0.0 / 0.0)
  else do
    let (whole, rest) := leadingDigits text
    let (fraction, after) := match rest with
      | '.' :: more => leadingDigits more
      | _ => ([], rest)
    if whole.isEmpty && fraction.isEmpty then none
    return (DecimalTail.mk (some fraction) (← endingExponent? after)).value whole

def decimalLiteral (text : Text) : Except NumberFault Float :=
  let (negative, magnitude) := signed text.unpadded
  match decimalSize? magnitude with
  | some size => .ok (if negative then -size else size)
  | none => .error (.notDecimal text)

end ProseLinter
