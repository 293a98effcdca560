import ProseLinter.Rule

/-!
Reading options. Options are a table with keys that the rule knows; null and true stand for the
empty table. A key that is missing takes its default.
-/

namespace ProseLinter.Options

def textKeys (keys : List Key) : List String := keys.filterMap Key.text?

def unknownKeys (known : List String) (table : Entries) : List Key :=
  (Table.keys table).filter fun key => !known.any fun name => Key.text name == key

/-- The first key in order; or two keys that have no order, the later one first. -/
def leastKey (least : Key) : List Key → Except (Key × Key) Key
  | [] => .ok least
  | key :: rest =>
      match key.isBefore? least with
      | some true => leastKey key rest
      | some false => leastKey least rest
      | none => .error (key, least)

def unordered (later earlier : Key) : OptionFault :=
  match later, earlier with
  | .moment (.both _ _ none), .moment (.both _ _ (some _))
      | .moment (.both _ _ (some _)), .moment (.both _ _ none) =>
      .keysPartlyZoned
  | .moment (.both _ _ _), .moment (.day _) | .moment (.day _), .moment (.both _ _ _) =>
      .keysPartlyTimed
  | _, _ => .keysNotOrdered later.kindName earlier.kindName

/-- Why a table with unknown keys is refused: they are listed in order if they are texts, and cannot
be listed otherwise. -/
def unknownFault (first : Key) (rest : List Key) : OptionFault :=
  let keys := first :: rest
  let texts := textKeys keys
  if texts.length = keys.length then .unknownKeys (texts.mergeSort fun a b => decide (a ≤ b))
  else match leastKey first rest with
    | .ok key => .keyNotText key.kindName
    | .error (later, earlier) => unordered later earlier

def table (known : List String) : Value → Except OptionFault Entries
  | .null => .ok []
  | .bool true => .ok []
  | .table entries =>
      match unknownKeys known entries with
      | [] => .ok entries
      | first :: rest => .error (unknownFault first rest)
  | _ => .error .notATable

def boolean (table : Entries) (key : String) (fallback : Bool) : Except OptionFault Bool :=
  match table.get? key with
  | none => .ok fallback
  | some (.bool b) => .ok b
  | some _ => .error (.notABoolean key)

def integer (table : Entries) (key : String) (least fallback : Int) (fault : OptionFault) :
    Except OptionFault Int :=
  match table.get? key with
  | none => .ok fallback
  | some (.int n) => if least ≤ n then .ok n else .error fault
  | some _ => .error fault

def texts? : List Value → Option (List String)
  | [] => some []
  | .string s :: rest => (texts? rest).map (s :: ·)
  | _ :: _ => none

def documentCheck (settings : Value) (find : RuleContext → Document → List Finding) :
    DocumentCheck where
  settings := settings
  evaluate context document := .ok ((find context document).map .proper)

/-- What a rule makes of its options: a check, or a fault under the rule's id; unknown keys that
cannot be listed are a fault of the checking itself. -/
def prepare {Settings Check : Type} (ruleId : String) (read : Value → Except OptionFault Settings)
    (check : Settings → Check) (options : Value) : Except Fault Check :=
  match read options with
  | .ok settings => .ok (check settings)
  | .error fault =>
      .error (if fault.isOfChecking then .raised "TypeError" fault.message
        else .options (some ruleId) fault)

end ProseLinter.Options
