import ProseLinter.Json.Reader

/-!
Single values of TOML: texts in two sorts of quotes, on one line or over several, and numbers,
switches, dates and times. Of a part of a second six digits count.
-/

namespace ProseLinter.Toml

def isForbidden (overLines : Bool) (c : Char) : Bool :=
  (c.toNat < 32 && c != '\t' && !(overLines && c == '\n')) || c.toNat == 127

def codePoint? (n : Nat) : Option Char :=
  if h : n.isValidChar then some (Char.ofNatAux n h) else none

/-- What an escape stands for, and what follows it; the backslash has been read. -/
def escape? : Text → Option (Char × Text)
  | 'b' :: rest => some (Char.ofNat 8, rest)
  | 't' :: rest => some ('\t', rest)
  | 'n' :: rest => some ('\n', rest)
  | 'f' :: rest => some (Char.ofNat 12, rest)
  | 'r' :: rest => some ('\r', rest)
  | '"' :: rest => some ('"', rest)
  | '\\' :: rest => some ('\\', rest)
  | 'u' :: rest => do
      let digits := rest.take 4
      if digits.length = 4 then return (← codePoint? (← hexNumber? digits), rest.drop 4) else none
  | 'U' :: rest => do
      let digits := rest.take 8
      if digits.length = 8 then return (← codePoint? (← hexNumber? digits), rest.drop 8) else none
  | _ => none

/-- What follows a backslash at the end of a line: the line breaks and the indentation after it do
not count. -/
def joinLine? (text : Text) : Option Text :=
  match text.dropWhile fun c => c == ' ' || c == '\t' with
  | '\n' :: rest => some (rest.dropWhile fun c => c == ' ' || c == '\t' || c == '\n')
  | [] => some []
  | _ => none

def basic? : Nat → Text → Option (Text × Text)
  | 0, _ => none
  | _, [] => none
  | _, '"' :: rest => some ([], rest)
  | fuel + 1, '\\' :: rest => do
      let (c, after) ← escape? rest
      let (text, rest) ← basic? fuel after
      return (c :: text, rest)
  | fuel + 1, c :: rest => do
      if isForbidden false c then none
      let (text, after) ← basic? fuel rest
      return (c :: text, after)

def basicLines? : Nat → Text → Option (Text × Text)
  | 0, _ => none
  | _, [] => none
  | _, '"' :: '"' :: '"' :: rest => some ([], rest)
  | fuel + 1, '\\' :: c :: rest =>
      if c = ' ' ∨ c = '\t' ∨ c = '\n' then do basicLines? fuel (← joinLine? (c :: rest))
      else do
        let (meant, after) ← escape? (c :: rest)
        let (text, rest) ← basicLines? fuel after
        return (meant :: text, rest)
  | fuel + 1, c :: rest => do
      if isForbidden true c then none
      let (text, after) ← basicLines? fuel rest
      return (c :: text, after)

def literal? : Text → Option (Text × Text)
  | [] => none
  | '\'' :: rest => some ([], rest)
  | c :: rest => do
      if isForbidden false c then none
      let (text, after) ← literal? rest
      return (c :: text, after)

def literalLines? : Text → Option (Text × Text)
  | '\'' :: '\'' :: '\'' :: rest => some ([], rest)
  | [] => none
  | c :: rest => do
      if isForbidden true c then none
      let (text, after) ← literalLines? rest
      return (c :: text, after)

/-- A text together with the one or two quotes that may stand right before its three closing
ones. -/
def closingQuotes (quote : Char) (read : Text × Text) : Text × Text :=
  let quotes := (read.2.take 2).takeWhile (· == quote)
  (read.1 ++ quotes, read.2.drop quotes.length)

/-- A text at the start of what is left. A line break right after three opening quotes does not
count. -/
def text? (text : Text) : Option (Text × Text) :=
  let skipBreak (inside : Text) : Text :=
    if inside.head? == some '\n' then inside.drop 1 else inside
  match text with
  | '"' :: '"' :: '"' :: rest => (basicLines? text.length (skipBreak rest)).map (closingQuotes '"')
  | '"' :: rest => basic? text.length rest
  | '\'' :: '\'' :: '\'' :: rest => (literalLines? (skipBreak rest)).map (closingQuotes '\'')
  | '\'' :: rest => literal? rest
  | _ => none

def digits? (isDigit : Char → Bool) : Text → Option (List Char × Text)
  | [] => none
  | c :: rest =>
      if !isDigit c then none
      else
        let rec more : Text → List Char × Text
          | '_' :: d :: rest =>
              if isDigit d then
                let (digits, after) := more rest
                (d :: digits, after)
              else ([], '_' :: d :: rest)
          | d :: rest =>
              if isDigit d then
                let (digits, after) := more rest
                (d :: digits, after)
              else ([], d :: rest)
          | [] => ([], [])
        let (digits, after) := more rest
        some (c :: digits, after)

def valueIn (base : Nat) (digits : List Char) : Int :=
  digits.foldl (fun value digit => value * base + (hexValue? digit).getD 0) (0 : Nat)

def based? : Text → Option (Value × Text)
  | '0' :: 'x' :: rest =>
      (digits? (fun c => (hexValue? c).isSome) rest).map fun (digits, after) =>
        (.int (valueIn 16 digits), after)
  | '0' :: 'o' :: rest =>
      (digits? (fun c => '0' ≤ c && c ≤ '7') rest).map fun (digits, after) =>
        (.int (valueIn 8 digits), after)
  | '0' :: 'b' :: rest =>
      (digits? (fun c => c == '0' || c == '1') rest).map fun (digits, after) =>
        (.int (valueIn 2 digits), after)
  | _ => none

def fraction (text : Text) : Option (List Char) × Text :=
  match text with
  | '.' :: more =>
      match digits? Char.isDigit more with
      | some (digits, after) => (some digits, after)
      | none => (none, text)
  | _ => (none, text)

def exponent (text : Text) : Option Int × Text :=
  match text with
  | mark :: more =>
      if mark = 'e' ∨ mark = 'E' then
        let (negative, unsigned) := match more with
          | '-' :: digits => (true, digits)
          | '+' :: digits => (false, digits)
          | digits => (false, digits)
        match digits? Char.isDigit unsigned with
        | some (digits, after) =>
            let size := valueIn 10 digits
            (some (if negative then -size else size), after)
        | none => (none, text)
      else (none, text)
  | [] => (none, text)

def magnitude (negative : Bool) (text : Text) : Except Unreadable (Value × Text) := do
  let (whole, rest) ← match text with
    | '0' :: rest => some (['0'], rest)
    | _ => digits? Char.isDigit text
  let (fraction, rest) := fraction rest
  let (exponent, rest) := exponent rest
  if fraction.isNone && exponent.isNone then
    let size : Int := ← liftNumber (wholeOfDigits whole)
    return (.int (if negative then -size else size), rest)
  else
    let size := (DecimalTail.mk fraction exponent).value whole
    return (.float (if negative then -size else size), rest)

def number (text : Text) : Except Unreadable (Value × Text) :=
  match based? text, text with
  | some read, _ => .ok read
  | none, '+' :: rest => magnitude false rest
  | none, '-' :: rest => magnitude true rest
  | none, _ => magnitude false text

/-- The numbers at the beginning of a text that has two or four digits where the pattern has `d` or
`y`, and elsewhere the character of the pattern; and what follows them. -/
def shape? : List Char → Text → Option (List Nat × Text)
  | [], text => some ([], text)
  | wanted :: pattern, text => do
      let count := if wanted = 'y' then 4 else if wanted = 'd' then 2 else 0
      if count = 0 then
        if text.head? == some wanted then shape? pattern (text.drop 1) else none
      else
        let digits := text.take count
        if digits.length = count && digits.all Char.isDigit then
          let (numbers, after) ← shape? pattern (text.drop count)
          return (decimalValue digits :: numbers, after)
        else none

def microseconds (text : Text) : Nat × Text :=
  match text with
  | '.' :: more =>
      let digits := more.takeWhile Char.isDigit
      if digits.isEmpty then (0, text)
      else (decimalValue ((digits ++ List.replicate 6 '0').take 6), more.dropWhile Char.isDigit)
  | _ => (0, text)

def time? (text : Text) : Option (Clock × Text) := do
  let ([hour, minute, second], rest) ← shape? "d:d:d".toList text | none
  let (part, after) := microseconds rest
  return (← (Clock.make hour minute second part).toOption, after)

/-- The distance from universal time after a time of day in minutes, which may be missing. -/
def zone (text : Text) : Option Int × Text :=
  match text with
  | 'Z' :: rest | 'z' :: rest => (some 0, rest)
  | sign :: rest =>
      match shape? "d:d".toList rest with
      | some ([hours, minutes], after) =>
          if (sign = '+' ∨ sign = '-') ∧ hours < 24 ∧ minutes < 60 then
            let distance : Int := hours * 60 + minutes
            (some (if sign = '-' then -distance else distance), after)
          else (none, text)
      | _ => (none, text)
  | [] => (none, text)

def date? (text : Text) : Option (Moment × Text) := do
  let ([year, month, day], rest) ← shape? "y-d-d".toList text | none
  let date ← (Date.make year month day).toOption
  let mark := rest.head?.any fun c => c == 'T' || c == 't' || c == ' '
  match time? (rest.drop 1) with
  | some (clock, after) =>
      if mark then
        let (offset, rest) := zone after
        return (.both date clock offset, rest)
      else return (.day date, rest)
  | none => return (.day date, rest)

def moment? (text : Text) : Option (Value × Text) :=
  ((date? text).or ((time? text).map fun (clock, after) =>
    (.time clock, after))).map fun (moment, after) =>
    (.moment moment, after)

def words : List (Text × Value) :=
  [("true".toList, .bool true), ("false".toList, .bool false)]

def numberWords : List (Text × Value) :=
  [("inf".toList, .float (1.0 / 0.0)), ("nan".toList, .float (0.0 / 0.0)),
    ("+inf".toList, .float (1.0 / 0.0)), ("-inf".toList, .float (-1.0 / 0.0)),
    ("+nan".toList, .float (0.0 / 0.0)), ("-nan".toList, .float (0.0 / 0.0))]

def word? (words : List (Text × Value)) (text : Text) : Option (Value × Text) :=
  (words.find? fun word => text.beginsWith word.1).map fun (word, value) =>
    (value, text.drop word.length)

def scalar (text : Text) : Except Unreadable (Value × Text) :=
  match text.head? with
  | some '"' | some '\'' =>
      (text? text).map fun (read, after) => (.string (String.ofList read), after)
  | _ =>
      match ((word? words text).or (moment? text)).or (word? numberWords text) with
      | some read => .ok read
      | none => number text

end ProseLinter.Toml
