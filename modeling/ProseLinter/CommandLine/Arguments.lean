import ProseLinter.Files.Path
import ProseLinter.Number.Literal

/-!
Arguments of the command line. A command has options, each with a long name and perhaps a letter,
and operands; two dashes alone end the options. Of an option that is given twice the last value
counts. Arguments that make no request are refused.
-/

namespace ProseLinter.CommandLine

/-- What is asked of the command that checks files. -/
structure LintRequest where
  paths : List Path := []
  fix : Bool := false
  formatter : Option String := none
  config : Option Path := none
  maxPasses : Option Int := none
  workers : Option Int := none
  verbose : Bool := false

/-- What is asked of the command that lists the rules. -/
structure RulesRequest where
  config : Option Path := none
  verbose : Bool := false

inductive Request where
  | lint (request : LintRequest)
  | rules (request : RulesRequest)
  | help

structure OptionForm where
  name : String
  letter : Option Char := none
  takesValue : Bool := true

namespace OptionForm

def help : OptionForm := ⟨"help", none, false⟩

def forLint : List OptionForm :=
  [⟨"fix", none, false⟩, ⟨"formatter", some 'f', true⟩, ⟨"config", some 'c', true⟩,
    ⟨"max-fix-iterations", none, true⟩, ⟨"workers", none, true⟩, ⟨"verbose", some 'v', false⟩, help]

def forRules : List OptionForm := [⟨"config", some 'c', true⟩, ⟨"verbose", some 'v', false⟩, help]

end OptionForm

/-- Options with their values, in order; a switch has an empty value. -/
abbrev Given := List (String × String)

/-- What one argument says: options that are complete, and perhaps one that still waits for its
value. -/
structure Argument where
  given : Given
  waiting : Option String := none

/-- What the letters after a dash say. The rest after a letter whose option takes a value is that
value. -/
def letters? (forms : List OptionForm) : Text → Option Argument
  | [] => some ⟨[], none⟩
  | letter :: rest => do
      let form ← forms.find? (·.letter == some letter)
      if !form.takesValue then
        let more ← letters? forms rest
        return { more with given := (form.name, "") :: more.given }
      else if rest.isEmpty then return ⟨[], some form.name⟩
      else return ⟨[(form.name, String.ofList rest)], none⟩

/-- What a long name after two dashes says, perhaps with a value after an equals sign. -/
def longName? (forms : List OptionForm) (text : Text) : Option Argument := do
  let name := text.takeWhile (· != '=')
  let form ← forms.find? (·.name == String.ofList name)
  match text.drop name.length with
  | _ :: value =>
      if form.takesValue then return ⟨[(form.name, String.ofList value)], none⟩ else none
  | [] => if form.takesValue then return ⟨[], some form.name⟩ else return ⟨[(form.name, "")], none⟩

/-- Whether an argument is no operand: it begins with a dash and is not a dash alone. -/
def isOption (argument : String) : Bool :=
  match argument.toList with
  | '-' :: _ :: _ => true
  | _ => false

def option? (forms : List OptionForm) (argument : String) : Option Argument :=
  match argument.toList with
  | '-' :: '-' :: name => longName? forms name
  | '-' :: letters => letters? forms letters
  | _ => none

def scan (forms : List OptionForm) : List String → Option (Given × List String)
  | [] => some ([], [])
  | argument :: rest =>
      if argument = "--" then some ([], rest)
      else if !isOption argument then
        (scan forms rest).map fun (given, operands) => (given, argument :: operands)
      else
        match option? forms argument with
        | none => none
        | some ⟨options, none⟩ =>
            (scan forms rest).map fun (given, operands) => (options ++ given, operands)
        | some ⟨options, some name⟩ =>
            match rest with
            | [] => none
            | value :: more =>
                (scan forms more).map fun (given, operands) =>
                  (options ++ (name, value) :: given, operands)

namespace Given

def value? (given : Given) (name : String) : Option String := given.reverse.lookup name

def has (given : Given) (name : String) : Bool := (given.value? name).isSome

end Given

/-- What is left of digits after a zero, without further zeros and the underscores among them; the
zero stays before a point and where nothing follows. -/
def afterZero (last : Char) : Text → Option Text
  | [] => some [last]
  | c :: rest =>
      if c = '0' ∨ c = '_' then afterZero c rest
      else if c.isDigit then some (c :: rest)
      else if c = '.' then some (last :: c :: rest)
      else none

def withoutZeros? : Text → Option Text
  | [] => none
  | c :: rest => if c = '0' then afterZero c rest else if c.isDigit then some (c :: rest) else none

def withoutZeroFraction (text : Text) : Text :=
  let whole := text.takeWhile (· != '.')
  let fraction := text.drop (whole.length + 1)
  if !fraction.isEmpty && fraction.all (· == '0') then whole else text

def whole? (s : String) : Option Nat := do
  let unpadded := Text.unpadded s.toList
  let unsigned := if unpadded.head? = some '+' then unpadded.drop 1 else unpadded
  let digits := withoutZeroFraction (← withoutZeros? unsigned)
  if digits.all fun c => c.isDigit || c == '_' then
    let values ← digitsIn? 10 digits
    if digitLimit < values.length then none
    else return values.foldl (fun value digit => value * 10 + digit) 0
  else none

/-- The number that an option is given, from one on; refused if it is given anything else. -/
def count? (given : Given) (name : String) : Option (Option Int) :=
  match given.value? name with
  | none => some none
  | some written => (whole? written).bind fun n => if n < 1 then none else some (some n)

/-- The path that an argument writes; one with the code point that ends paths is refused. -/
def path? (written : String) : Option Path :=
  if Path.hasNul written then none else some (Path.ofString written)

def lintRequest? (arguments : List String) : Option Request := do
  let (given, operands) ← scan OptionForm.forLint arguments
  if given.has "help" then return .help
  return .lint
    { paths := ← operands.mapM path?
      fix := given.has "fix"
      formatter := given.value? "formatter"
      config := ← (given.value? "config").mapM path?
      maxPasses := ← count? given "max-fix-iterations"
      workers := ← count? given "workers"
      verbose := given.has "verbose" }

def rulesRequest? (arguments : List String) : Option Request := do
  let (given, operands) ← scan OptionForm.forRules arguments
  if given.has "help" then return .help
  if !operands.isEmpty then none
  return .rules ⟨← (given.value? "config").mapM path?, given.has "verbose"⟩

def command? : List String → Option Request
  | "lint" :: arguments => lintRequest? arguments
  | "rules" :: arguments => rulesRequest? arguments
  | _ => none

/-- What arguments ask of the program; before the command there is no option but the one for
help. -/
def request? : List String → Option Request
  | "--" :: rest => command? rest
  | "--help" :: rest => if (rest.takeWhile isOption).all (· == "--help") then some .help else none
  | arguments => command? arguments

end ProseLinter.CommandLine
