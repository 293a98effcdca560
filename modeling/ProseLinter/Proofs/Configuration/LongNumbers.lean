import ProseLinter.Configuration

/-!
# Numbers in values

A value that cannot be written into a text has a whole number with too many digits somewhere in it:
as an item, as a key or under one, however deep. What is made of a table by merging and switching on
holds no number that was in none of its parts.
-/

namespace ProseLinter

theorem Table.mem_of_get? {κ α : Type} [BEq κ] {table : Table κ α} {key : κ} {thing : α}
    (found : table.get? key = some thing) : ∃ name, (name, thing) ∈ table := by
  induction table with
  | nil => cases found
  | cons entry rest induction =>
      obtain ⟨name, own⟩ := entry
      rw [get?, List.lookup_cons] at found
      split at found
      · cases found
        exact ⟨name, List.mem_cons_self⟩
      · obtain ⟨other, member⟩ := induction found
        exact ⟨other, List.mem_cons_of_mem _ member⟩

/-- That a whole number stands somewhere in a value. -/
inductive Value.Holds (n : Int) : Value → Prop
  | itself : Holds n (.int n)
  | item {items : List Value} {item : Value} (member : item ∈ items) (inside : Holds n item) :
      Holds n (.list items)
  | first {first second : Value} (inside : Holds n first) : Holds n (.pair first second)
  | second {first second : Value} (inside : Holds n second) : Holds n (.pair first second)
  | member {members : List Key} {key : Key} (member : key ∈ members) (inside : Holds n key.value) :
      Holds n (.set members)
  | key {entries : List (Key × Value)} {entry : Key × Value} (member : entry ∈ entries)
      (inside : Holds n entry.1.value) : Holds n (.table entries)
  | value {entries : List (Key × Value)} {entry : Key × Value} (member : entry ∈ entries)
      (inside : Holds n entry.2) : Holds n (.table entries)
  | knot {number : Nat} {content : Value} (inside : Holds n content) :
      Holds n (.knot number content)

namespace Value

def Within (part whole : Value) : Prop := ∀ n, part.Holds n → whole.Holds n

/-- That a value holds a number with too many digits to be written. -/
def HoldsLong (value : Value) : Prop := ∃ n, isTooLong n = true ∧ value.Holds n

variable {part whole value : Value} {key : Key} {entry : Key × Value}
  {entries rest settings later : Entries}

theorem Within.trans {middle : Value} (inner : part.Within middle) (outer : middle.Within whole) :
    part.Within whole :=
  fun n holds => outer n (inner n holds)

theorem HoldsLong.of_within (long : part.HoldsLong) (within : part.Within whole) :
    whole.HoldsLong := by
  obtain ⟨n, tooLong, holds⟩ := long
  exact ⟨n, tooLong, within n holds⟩

theorem long_of_unwritable_key (unwritable : writableKey key = false) : key.value.HoldsLong := by
  cases key with
  | int n => exact ⟨n, by simpa [writableKey] using unwritable, .itself⟩
  | text _ | null | bool _ | float _ | moment _ | bytes _ => cases unwritable

theorem item_within {items : List Value} (member : value ∈ items) : value.Within (.list items) :=
  fun _ inside => .item member inside

theorem key_within (member : entry ∈ entries) : entry.1.value.Within (.table entries) :=
  fun _ inside => .key member inside

theorem value_within (member : entry ∈ entries) : entry.2.Within (.table entries) :=
  fun _ inside => .value member inside

mutual

/-- What cannot be written has a number that is too long. -/
theorem long_of_unwritable_inside (knots : List Nat) (value : Value)
    (unwritable : value.isWritableInside knots = false) :
    value.HoldsLong := by
  cases value with
  | int n => exact ⟨n, by simpa [isWritableInside] using unwritable, .itself⟩
  | list items =>
      rw [isWritableInside] at unwritable
      obtain ⟨item, member, long⟩ := long_of_unwritable_items knots items unwritable
      exact long.of_within (item_within member)
  | pair first second =>
      rw [isWritableInside, Bool.and_eq_false_iff] at unwritable
      rcases unwritable with here | there
      · exact (long_of_unwritable_inside knots first here).of_within fun _ inside => .first inside
      · exact (long_of_unwritable_inside knots second there).of_within fun _ inside =>
          .second inside
  | set members =>
      rw [isWritableInside, List.all_eq_false] at unwritable
      obtain ⟨key, member, long⟩ := unwritable
      rw [Bool.not_eq_true] at long
      exact (long_of_unwritable_key long).of_within fun _ inside => .member member inside
  | table entries =>
      rw [isWritableInside] at unwritable
      obtain ⟨entry, member, here | there⟩ := long_of_unwritable_entries knots entries unwritable
      · exact here.of_within (key_within member)
      · exact there.of_within (value_within member)
  | knot number content =>
      rw [isWritableInside, Bool.or_eq_false_iff] at unwritable
      exact (long_of_unwritable_inside
        (number :: knots) content unwritable.2).of_within fun _ inside => .knot inside
  | null | bool _ | float _ | string _ | moment _ | bytes _ => cases unwritable

theorem long_of_unwritable_items (knots : List Nat) (items : List Value)
    (unwritable : writableItems knots items = false) :
    ∃ item ∈ items, item.HoldsLong := by
  cases items with
  | nil => cases unwritable
  | cons item rest =>
      rw [writableItems, Bool.and_eq_false_iff] at unwritable
      rcases unwritable with own | others
      · exact ⟨item, List.mem_cons_self, long_of_unwritable_inside knots item own⟩
      · obtain ⟨later, member, long⟩ := long_of_unwritable_items knots rest others
        exact ⟨later, List.mem_cons_of_mem item member, long⟩

theorem long_of_unwritable_entries (knots : List Nat) (entries : List (Key × Value))
    (unwritable : writableEntries knots entries = false) :
    ∃ entry ∈ entries, entry.1.value.HoldsLong ∨ entry.2.HoldsLong := by
  cases entries with
  | nil => cases unwritable
  | cons entry rest =>
      obtain ⟨key, value⟩ := entry
      rw [writableEntries, Bool.and_eq_false_iff, Bool.and_eq_false_iff] at unwritable
      rcases unwritable with (own_key | own) | others
      · exact ⟨(key, value), List.mem_cons_self, .inl (long_of_unwritable_key own_key)⟩
      · exact ⟨(key, value), List.mem_cons_self, .inr (long_of_unwritable_inside knots value own)⟩
      · obtain ⟨later, member, long⟩ := long_of_unwritable_entries knots rest others
        exact ⟨later, List.mem_cons_of_mem (key, value) member, long⟩

end

theorem long_of_unwritable (unwritable : value.isWritable = false) : value.HoldsLong :=
  long_of_unwritable_inside [] value unwritable

theorem untied_within (value : Value) : value.untied.Within value := by
  intro n holds
  cases value with
  | knot number content => exact .knot holds
  | _ => exact holds

/-! ## Tables -/

theorem holds_cons_iff {n : Int} :
    (table (entry :: rest)).Holds n ↔
      entry.1.value.Holds n ∨ entry.2.Holds n ∨ (table rest).Holds n := by
  constructor
  · intro holds
    cases holds with
    | key member inside =>
        rcases List.mem_cons.mp member with same | later
        · exact .inl (same ▸ inside)
        · exact .inr (.inr (.key later inside))
    | value member inside =>
        rcases List.mem_cons.mp member with same | later
        · exact .inr (.inl (same ▸ inside))
        · exact .inr (.inr (.value later inside))
  · rintro (own | own | others)
    · exact .key List.mem_cons_self own
    · exact .value List.mem_cons_self own
    · cases others with
      | key member inside => exact .key (List.mem_cons_of_mem _ member) inside
      | value member inside => exact .value (List.mem_cons_of_mem _ member) inside

theorem rest_within : (table rest).Within (.table (entry :: rest)) :=
  fun _ holds => holds_cons_iff.mpr (.inr (.inr holds))

theorem get?_within (found : entries.get? key = some value) : value.Within (.table entries) := by
  obtain ⟨name, member⟩ := Table.mem_of_get? found
  exact value_within member

theorem holds_set {n : Int} (holds : (table (Table.set key value entries)).Holds n) :
    key.value.Holds n ∨ value.Holds n ∨ (table entries).Holds n := by
  induction entries with
  | nil => exact holds_cons_iff.mp holds
  | cons entry rest induction =>
      rw [Table.set] at holds
      split at holds
      · rcases holds_cons_iff.mp holds with old | new | others
        · exact .inr (.inr (holds_cons_iff.mpr (.inl old)))
        · exact .inr (.inl new)
        · exact .inr (.inr (holds_cons_iff.mpr (.inr (.inr others))))
      · rcases holds_cons_iff.mp holds with own | own | others
        · exact .inr (.inr (holds_cons_iff.mpr (.inl own)))
        · exact .inr (.inr (holds_cons_iff.mpr (.inr (.inl own))))
        · rcases induction others with new | new | old
          · exact .inl new
          · exact .inr (.inl new)
          · exact .inr (.inr (holds_cons_iff.mpr (.inr (.inr old))))

theorem merge_within (first : (table settings).Within whole) (second : (table later).Within whole) :
    (table (Table.merge settings later)).Within whole := by
  induction later generalizing settings with
  | nil => exact first
  | cons entry rest induction =>
      refine induction ?_ (rest_within.trans second)
      intro n holds
      rcases holds_set holds with new | new | old
      · exact second n (holds_cons_iff.mpr (.inl new))
      · exact second n (holds_cons_iff.mpr (.inr (.inl new)))
      · exact first n old

theorem empty_within : (table []).Within whole := by
  intro n holds
  cases holds with
  | key member _ | value member _ => cases member

theorem switches_within {keys : List Key} (each : ∀ key ∈ keys, key.value.Within whole) :
    (table (keys.map fun key => (key, bool true))).Within whole := by
  intro n holds
  cases holds with
  | key member inside =>
      obtain ⟨key, known, same⟩ := List.mem_map.mp member
      rw [← same] at inside
      exact each key known n inside
  | value member inside =>
      obtain ⟨key, known, same⟩ := List.mem_map.mp member
      rw [← same] at inside
      cases inside

theorem text_within {name : String} : (Key.text name).value.Within whole := by
  intro n holds
  cases holds

end Value

end ProseLinter
