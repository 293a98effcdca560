import ProseLinter.Text

/-!
Code units: numbers of 16 bits that escapes write one by one. A code point beyond the first 65536 is
written as two of them, a high and a low surrogate. A surrogate without the other is no code point;
a character from a range for private use stands for it, and is spelt out as the surrogate wherever a
text is written.
-/

namespace ProseLinter

def hexDigits (width n : Nat) : List Char :=
  let digits := Nat.toDigits 16 n
  List.replicate (width - digits.length) '0' ++ digits

def firstSurrogate : Nat := 0xD800

def surrogateCount : Nat := 0x800

def firstStandIn : Nat := 0x10E000

def charOfCode (code : Nat) : Char :=
  if firstSurrogate ≤ code ∧ code < firstSurrogate + surrogateCount then
    Char.ofNat (firstStandIn + (code - firstSurrogate))
  else Char.ofNat code

def surrogate? (c : Char) : Option Nat :=
  if firstStandIn ≤ c.toNat ∧ c.toNat < firstStandIn + surrogateCount then
    some (firstSurrogate + (c.toNat - firstStandIn))
  else none

/-- The text that code units and the numbers of code points spell: a high and a low surrogate
together are one code point. -/
def joinUnits : List Nat → Text
  | [] => []
  | high :: low :: rest =>
      if 0xD800 ≤ high ∧ high < 0xDC00 ∧ 0xDC00 ≤ low ∧ low < 0xE000 then
        Char.ofNat (0x10000 + (high - 0xD800) * 0x400 + (low - 0xDC00)) :: joinUnits rest
      else charOfCode high :: joinUnits (low :: rest)
  | [unit] => [charOfCode unit]

def surrogateEscape (surrogate : Nat) : Text := ['\\', 'u'] ++ hexDigits 4 surrogate

def Text.withEscapes (text : Text) : Text :=
  text.flatMap fun c => ((surrogate? c).map surrogateEscape).getD [c]

end ProseLinter
