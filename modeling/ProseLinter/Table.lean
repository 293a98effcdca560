/-!
Tables: values under keys, in the order in which the keys were first written. Writing a key again
changes its value and neither its place nor the way in which it was first written.
-/

namespace ProseLinter

universe u

/-- Values under keys, in order of the first writing of each key. -/
abbrev Table (κ : Type) (α : Type u) := List (κ × α)

namespace Table

variable {κ : Type} {α : Type u}

def keys (table : Table κ α) : List κ := table.map (·.1)

variable [BEq κ]

def get? (table : Table κ α) (key : κ) : Option α := table.lookup key

def has (table : Table κ α) (key : κ) : Bool := (table.get? key).isSome

/-- The table with `value` under `key`: in its place if the key is there, and at the end if it is
new. -/
def set (key : κ) (value : α) : Table κ α → Table κ α
  | [] => [(key, value)]
  | entry :: rest =>
      if key == entry.1 then (entry.1, value) :: rest else entry :: set key value rest

def erase (table : Table κ α) (key : κ) : Table κ α := table.filter fun entry => !(key == entry.1)

def merge (table later : Table κ α) : Table κ α :=
  later.foldl (fun merged entry => merged.set entry.1 entry.2) table

def ofEntries (entries : List (κ × α)) : Table κ α := merge [] entries

/-- The table with `change` applied to the value under a key, or with `fresh` under it if the key is
new. -/
def alter (key : κ) (fresh : α) (change : α → α) (table : Table κ α) : Table κ α :=
  table.set key (((table.get? key).map change).getD fresh)

theorem get?_set_self [LawfulBEq κ] (table : Table κ α) (key : κ) (value : α) :
    (table.set key value).get? key = some value := by
  induction table with
  | nil => simp [set, get?]
  | cons entry rest induction => grind [set, get?]

theorem get?_set_of_ne [LawfulBEq κ] (table : Table κ α) {key other : κ} (value : α)
    (distinct : other ≠ key) :
    (table.set key value).get? other = table.get? other := by
  induction table with
  | nil => grind [set, get?]
  | cons entry rest induction => grind [set, get?]

end Table

end ProseLinter
