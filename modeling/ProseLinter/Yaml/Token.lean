import ProseLinter.Unreadable

/-!
Tokens of YAML. The places where blocks begin and end are tokens of their own, so that nothing after
this depends on columns.
-/

namespace ProseLinter.Yaml

/-- A tag as it is written: a handle that stands for the beginning of the tag, if there is one, and
the rest. -/
structure WrittenTag where
  handle : Option String
  suffix : String
deriving Repr, DecidableEq

/-- A line before a document that says how to read it. -/
inductive Directive where
  | version (major : Nat)
  | handle (name start : String)
  | unknown
deriving Repr, DecidableEq

inductive Token where
  | directive (directive : Directive)
  | documentStart
  | documentEnd
  | openBlockList
  | openBlockTable
  | closeBlock
  | openList
  | closeList
  | openTable
  | closeTable
  | dash
  | comma
  | key
  | value
  | alias (name : String)
  | anchor (name : String)
  | tag (tag : WrittenTag)
  | scalar (text : Text) (isPlain : Bool)
  | broken (fault : Unreadable)
deriving Repr, DecidableEq

end ProseLinter.Yaml
