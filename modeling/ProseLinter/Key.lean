import ProseLinter.Moment
import ProseLinter.Number.Literal
import ProseLinter.Number.Shortest
import ProseLinter.Text.Quoted

/-!
Keys of tables. Most keys are texts, but some languages let any single value be a key. Numbers are
one key if they are equal, whatever their kind, and moments if they are the same moment, wherever
their clocks stand.
-/

namespace ProseLinter

inductive Key where
  | text (s : String)
  | null
  | bool (b : Bool)
  | int (n : Int)
  | float (x : Float)
  | moment (moment : Moment)
  | bytes (bytes : List UInt8)
deriving Inhabited

instance : Coe String Key := ⟨.text⟩

/-- Floating-point numbers in messages: positional from `0.0001` up to below `10 ^ 16`. -/
def messageFloat : FloatStyle := ⟨"nan", "inf", -4, 15⟩

def escapeByte (quote : Char) (byte : UInt8) : List Char :=
  let c := Char.ofNat byte.toNat
  if 32 ≤ byte && byte < 127 then if c == quote || c == '\\' then ['\\', c] else [c]
  else if c == '\n' then ['\\', 'n']
  else if c == '\r' then ['\\', 'r']
  else if c == '\t' then ['\\', 't']
  else ['\\', 'x'] ++ hexDigits 2 byte.toNat

def bytesShown (bytes : List UInt8) : String :=
  let quote := Text.quoteFor (bytes.map fun byte => Char.ofNat byte.toNat)
  String.ofList (['b', quote] ++ bytes.flatMap (escapeByte quote) ++ [quote])

/-- A number as a fraction; an infinite one has nothing below. -/
structure Fraction where
  top : Int
  bottom : Nat
deriving Repr, DecidableEq

namespace Fraction

def isLess (a b : Fraction) : Bool :=
  if a.bottom = 0 ∧ b.bottom = 0 then a.top < b.top else a.top * b.bottom < b.top * a.bottom

def isEqual (a b : Fraction) : Bool := !a.isLess b && !b.isLess a

end Fraction

/-- A number as a key has it: one that can be compared, or an undefined one. -/
inductive KeyNumber where
  | defined (fraction : Fraction)
  | undefined
deriving Repr, DecidableEq

namespace Key

def kindName : Key → String
  | text _ => "str"
  | null => "NoneType"
  | bool _ => "bool"
  | int _ => "int"
  | float _ => "float"
  | moment m => m.kindName
  | bytes _ => "bytes"

def shown : Key → String
  | text s => quotedString s
  | null => "None"
  | bool b => if b then "True" else "False"
  | int n => toString n
  | float x => messageFloat.write x
  | moment m => m.shown
  | bytes b => bytesShown b

/-- A key written into a text: a text and a moment stand for themselves, any other key is shown. -/
def written : Key → String
  | text s => s
  | moment m => m.written
  | key => key.shown

def text? : Key → Option String
  | text s => some s
  | _ => none

/-- The number that the key is; true counts as one and false as zero. -/
def number? : Key → Option KeyNumber
  | bool b => some (.defined ⟨if b then 1 else 0, 1⟩)
  | int n => some (.defined ⟨n, 1⟩)
  | float x =>
      match FloatClass.ofBits x.toBits with
      | .zero _ => some (.defined ⟨0, 1⟩)
      | .finite negative magnitude =>
          let (top, bottom) := magnitude.quotient
          some (.defined ⟨if negative then -top else top, bottom⟩)
      | .infinite negative => some (.defined ⟨if negative then -1 else 1, 0⟩)
      | .undefined => some .undefined
  | _ => none

/-- Whether two keys are the same; undefined numbers are all alike. -/
def same (a b : Key) : Bool :=
  match a, b with
  | text a, text b => a == b
  | null, null => true
  | moment a, moment b => a.isSame b
  | bytes a, bytes b => a == b
  | a, b =>
      match a.number?, b.number? with
      | some (.defined a), some (.defined b) => a.isEqual b
      | some .undefined, some .undefined => true
      | _, _ => false

instance : BEq Key := ⟨same⟩

def bytesBefore : List UInt8 → List UInt8 → Bool
  | _, [] => false
  | [], _ :: _ => true
  | a :: as, b :: bs => a < b || (a == b && bytesBefore as bs)

/-- Whether a key comes before another; none if the two have no order. An undefined number comes
before nothing. -/
def isBefore? (a b : Key) : Option Bool :=
  match a, b with
  | text a, text b => some (decide (a < b))
  | moment a, moment b => a.isBefore? b
  | bytes a, bytes b => some (bytesBefore a b)
  | a, b => do
      match ← a.number?, ← b.number? with
      | .defined a, .defined b => return a.isLess b
      | _, _ => return false

end Key

end ProseLinter
