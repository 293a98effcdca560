import ProseLinter.Value

/-!
Things supplied from outside. A configuration, a rule or a format may hand over something of another
kind than was asked for; whoever receives it has to look, and names the kind in the complaint.
-/

namespace ProseLinter

universe u

/-- A thing supplied from outside: of the kind asked for, or of another kind, of which only the name
matters. -/
inductive Supplied (α : Type u) where
  | proper (thing : α)
  | other (kindName : String)
deriving Repr, DecidableEq

namespace Supplied

variable {α : Type u}

def thing? : Supplied α → Option α
  | proper thing => some thing
  | other _ => none

def plain (value : Value) : Supplied α := other value.kindName

end Supplied

end ProseLinter
